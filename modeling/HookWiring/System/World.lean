import HookWiring.System.Request

/-!
# States of the system

A system consists of one host, one registry with a slot for every component that was requested,
and all instances that were ever constructed, since callbacks go on using an instance whose
sequence failed. The journal lists the milestones of the components and the notes that code wrote,
in order.
-/

namespace HookWiring

inductive Entry where
  | milestone (component : Identity) (milestone : Milestone)
  | note (value : Value)

structure World (B : Bodies) where
  host : Host B := {}
  slots : Table Identity Slot := .empty
  instances : List Instance := []
  journal : List Entry := []
  handlers : Nat := 0
  hostHeld : Bool := true
  /-- Whether the registry is held; a registry holds its host. -/
  registryHeld : Bool := true

namespace World

variable {B : Bodies}

def slot? (world : World B) (component : Identity) : Option Slot :=
  world.slots.get? component

/-- The slot of a component; one that was never requested reads as a new slot. -/
def slotOf (world : World B) (component : Identity) : Slot :=
  (world.slot? component).getD {}

def state (world : World B) (component : Identity) : LifecycleState :=
  (world.slotOf component).state

def ready? (world : World B) (component : Identity) : Option Serial :=
  (world.slotOf component).ready?

def provideSlot (world : World B) (component : Identity) : World B :=
  match world.slot? component with
  | some _ => world
  | none => { world with slots := world.slots.insert component {} }

def changeSlot (world : World B) (component : Identity) (change : Slot → Slot) : World B :=
  { world with slots := world.slots.insert component (change (world.slotOf component)) }

def advance (world : World B) (component : Identity) (next : LifecycleState) : World B :=
  world.changeSlot component fun slot => { slot with state := next }

/-- The instance with a number; a number that was never given reads as a blank instance. -/
def instanceAt (world : World B) (serial : Serial) : Instance :=
  world.instances[serial - 1]?.getD { component := "" }

def modifyInstance (world : World B) (serial : Serial) (change : Instance → Instance) : World B :=
  { world with instances := world.instances.modify (serial - 1) change }

def hostAlive (world : World B) : Bool :=
  world.hostHeld || world.registryHeld

def enter (world : World B) (entry : Entry) : World B :=
  { world with journal := world.journal ++ [entry] }

def reach (world : World B) (component : Identity) (milestone : Milestone) : World B :=
  world.enter (.milestone component milestone)

def milestoneOf? (component : Identity) : Entry → Option Milestone
  | .milestone other milestone => if other = component then some milestone else none
  | .note _ => none

def milestones (world : World B) (component : Identity) : List Milestone :=
  world.journal.filterMap (milestoneOf? component)

def answer (world : World B) : (query : Query B) → query.Answer × World B
  | .state component => (world.state component, world)
  | .instanceOf component => (world.ready? component, world)
  | .size => (world.slots.size, world)
  | .actions name => (Host.inOrder (world.host.actions name), world)
  | .filters name => (Host.inOrder (world.host.filters name), world)
  | .registrationCount => (world.host.log.length, world)
  | .register registrations => ((), { world with host := world.host.register registrations })
  | .newHandler component method body =>
    ({ component, method, target := .handler world.handlers body },
      { world with handlers := world.handlers + 1 })
  | .read serial => (world.instanceAt serial, world)
  | .store serial args => ((), world.modifyInstance serial fun i => { i with args })
  | .change serial change =>
    ((), world.modifyInstance serial fun i => { i with api := i.api.apply change })
  | .note value => ((), world.enter (.note value))
  | .hostAlive => (world.hostAlive, world)
  | .registryAlive => (world.registryHeld, world)

theorem slot?_provideSlot (world : World B) (component other : Identity) :
    (world.provideSlot component).slot? other =
      if other = component then some (world.slotOf component) else world.slot? other := by
  cases hs : world.slot? component with
  | none =>
    have hn : world.slotOf component = {} := by rw [slotOf, hs, Option.getD_none]
    simp only [provideSlot, hs, hn]
    exact Table.get?_insert world.slots component other {}
  | some slot =>
    by_cases h : other = component
    · simp only [provideSlot, slotOf, h, hs, if_true, Option.getD_some]
    · simp only [provideSlot, hs, if_neg h]

theorem provideSlot_of_slot? {world : World B} {component : Identity} {slot : Slot}
    (h : world.slot? component = some slot) : world.provideSlot component = world := by
  simp only [provideSlot, h]

@[simp] theorem slotOf_provideSlot (world : World B) (component : Identity) :
    (world.provideSlot component).slotOf component = world.slotOf component := by
  simp [slotOf, slot?_provideSlot]

@[simp] theorem host_provideSlot (world : World B) (component : Identity) :
    (world.provideSlot component).host = world.host := by
  unfold provideSlot
  split <;> rfl

@[simp] theorem journal_provideSlot (world : World B) (component : Identity) :
    (world.provideSlot component).journal = world.journal := by
  unfold provideSlot
  split <;> rfl

@[simp] theorem instances_provideSlot (world : World B) (component : Identity) :
    (world.provideSlot component).instances = world.instances := by
  unfold provideSlot
  split <;> rfl

theorem slot?_changeSlot (world : World B) (component other : Identity) (change : Slot → Slot) :
    (world.changeSlot component change).slot? other =
      if other = component then some (change (world.slotOf component)) else world.slot? other :=
  Table.get?_insert world.slots component other _

theorem slotOf_changeSlot (world : World B) (component : Identity) (change : Slot → Slot) :
    (world.changeSlot component change).slotOf component = change (world.slotOf component) := by
  rw [slotOf, slot?_changeSlot, if_pos rfl, Option.getD_some]

theorem milestones_reach (world : World B) (component other : Identity) (milestone : Milestone) :
    (world.reach component milestone).milestones other =
      world.milestones other ++ if other = component then [milestone] else [] := by
  by_cases h : component = other
  · simp [milestones, reach, enter, milestoneOf?, h]
  · simp [milestones, reach, enter, milestoneOf?, h, Ne.symm h]

@[simp] theorem slots_answer (world : World B) (query : Query B) :
    (world.answer query).2.slots = world.slots := by
  cases query <;> rfl

theorem slot?_answer (world : World B) (query : Query B) (component : Identity) :
    (world.answer query).2.slot? component = world.slot? component := by
  rw [slot?, slots_answer, slot?]

theorem milestones_answer (world : World B) (query : Query B) (component : Identity) :
    (world.answer query).2.milestones component = world.milestones component := by
  cases query with
  | note value => simp [answer, milestones, enter, milestoneOf?]
  | _ => rfl

theorem components_modifyInstance (world : World B) (serial : Serial)
    {change : Instance → Instance} (h : ∀ i, (change i).component = i.component) :
    (world.modifyInstance serial change).instances.map Instance.component =
      world.instances.map Instance.component := by
  apply List.ext_getElem?
  intro i
  simp only [modifyInstance, List.getElem?_map, List.getElem?_modify]
  cases world.instances[i]? with
  | none => rfl
  | some found => by_cases hi : serial - 1 = i <;> simp [hi, h]

theorem components_answer (world : World B) (query : Query B) :
    (world.answer query).2.instances.map Instance.component =
      world.instances.map Instance.component := by
  cases query with
  | store serial args => exact components_modifyInstance world serial fun _ => rfl
  | change serial change => exact components_modifyInstance world serial fun _ => rfl
  | _ => rfl

theorem log_answer (world : World B) (query : Query B) :
    (world.answer query).2.host.log = world.host.log ++ query.registered := by
  cases query with
  | register registrations => rfl
  | _ => simp [answer, Query.registered, modifyInstance, enter]

end World

end HookWiring
