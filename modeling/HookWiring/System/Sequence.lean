import HookWiring.System.Program
import HookWiring.System.World

/-!
# Sequences

The first request for a component runs its whole sequence: it is constructed, its hooks are
registered in one block, and it is initialised with the arguments of that request. Later requests
find the instance. If a step panics, the component fails and stays failed, while registrations
that were made before the panic remain. A component that asks for itself during its own sequence
is refused.

Requests of running code are served to a nesting depth. Depth is used up by code that runs inside
other code, never by the length of a program.
-/

namespace HookWiring

variable {B : Bodies}

namespace World

def begin (component : Identity) (world : World B) : Serial × World B :=
  let serial := world.instances.length + 1
  let marked := world.changeSlot component fun slot => { slot with constructing := true }
  let born : World B :=
    { marked with instances := marked.instances ++ [{ component := component }] }
  (serial, born.reach component (.constructing serial))

def beginHooks (component : Identity) (world : World B) : World B :=
  (world.advance component .constructed).reach component .hooking

def wire (settings : Settings) (serial : Serial) (reflection : Option (Reflection B))
    (world : World B) : World B :=
  match reflection with
  | some r => { world with host := world.host.register (r.registrations serial settings) }
  | none => world

def beginInit (settings : Settings) (component : Identity) (serial : Serial) (args : Value)
    (reflection : Option (Reflection B)) (world : World B) : World B :=
  ((world.wire settings serial reflection).advance component .hooked).reach component
    (.initialising args)

def finish (component : Identity) (serial : Serial) (world : World B) : World B :=
  let kept := world.changeSlot component fun slot =>
    { slot with instance? := some serial, constructing := false }
  (kept.advance component .ready).reach component .ready

def fail (component : Identity) (world : World B) : World B :=
  let poisoned := world.changeSlot component fun slot =>
    { slot with state := .failed, instance? := none, constructing := false }
  poisoned.reach component .failed

section Effects

variable (world : World B) (component other : Identity)

theorem slot?_begin : (world.begin component).2.slot? other =
    if other = component then some { world.slotOf component with constructing := true }
    else world.slot? other :=
  slot?_changeSlot world component other fun slot => { slot with constructing := true }

theorem milestones_begin : (world.begin component).2.milestones other =
    world.milestones other ++
      if other = component then [.constructing (world.instances.length + 1)] else [] :=
  milestones_reach _ component other _

theorem instances_begin :
    (world.begin component).2.instances = world.instances ++ [{ component := component }] :=
  rfl

theorem host_begin : (world.begin component).2.host = world.host :=
  rfl

theorem slot?_beginHooks : (world.beginHooks component).slot? other =
    if other = component then some { world.slotOf component with state := .constructed }
    else world.slot? other :=
  slot?_changeSlot world component other fun slot => { slot with state := .constructed }

theorem milestones_beginHooks : (world.beginHooks component).milestones other =
    world.milestones other ++ if other = component then [.hooking] else [] :=
  milestones_reach _ component other _

theorem instances_beginHooks : (world.beginHooks component).instances = world.instances :=
  rfl

section Wiring

variable (settings : Settings) (serial : Serial) (args : Value)
variable (reflection : Option (Reflection B))

theorem slot?_beginInit :
    (world.beginInit settings component serial args reflection).slot? other =
      if other = component then some { world.slotOf component with state := .hooked }
      else world.slot? other := by
  cases reflection <;>
    exact slot?_changeSlot _ component other fun slot => { slot with state := .hooked }

theorem milestones_beginInit :
    (world.beginInit settings component serial args reflection).milestones other =
      world.milestones other ++ if other = component then [.initialising args] else [] := by
  cases reflection <;> exact milestones_reach _ component other _

theorem instances_beginInit :
    (world.beginInit settings component serial args reflection).instances = world.instances := by
  cases reflection <;> rfl

theorem log_beginInit :
    (world.beginInit settings component serial args reflection).host.log =
      world.host.log ++ reflection.elim [] fun r => r.registrations serial settings := by
  cases reflection with
  | none => simp [beginInit, wire, advance, changeSlot, reach, enter]
  | some r => rfl

end Wiring

theorem slot?_finish (serial : Serial) : (world.finish component serial).slot? other =
    if other = component then some { state := .ready, instance? := some serial }
    else world.slot? other := by
  have hk := slotOf_changeSlot world component fun slot =>
    { slot with instance? := some serial, constructing := false }
  refine (slot?_changeSlot _ component other fun slot => { slot with state := .ready }).trans ?_
  by_cases ho : other = component
  · rw [if_pos ho, if_pos ho, hk]
  · rw [if_neg ho, if_neg ho]
    exact (slot?_changeSlot world component other _).trans (if_neg ho)

theorem milestones_finish (serial : Serial) : (world.finish component serial).milestones other =
    world.milestones other ++ if other = component then [.ready] else [] :=
  milestones_reach _ component other _

theorem instances_finish (serial : Serial) :
    (world.finish component serial).instances = world.instances :=
  rfl

theorem slot?_fail : (world.fail component).slot? other =
    if other = component then some { state := .failed } else world.slot? other :=
  slot?_changeSlot world component other fun slot =>
    { slot with state := .failed, instance? := none, constructing := false }

theorem milestones_fail : (world.fail component).milestones other =
    world.milestones other ++ if other = component then [.failed] else [] :=
  milestones_reach _ component other _

theorem instances_fail : (world.fail component).instances = world.instances :=
  rfl

theorem host_fail : (world.fail component).host = world.host :=
  rfl

end Effects

end World

namespace Program

variable (program : Program B)

def sequence (server : Server B (World B)) (component : Identity) (args : Value) :
    Effect (World B) Serial := do
  let code := program.component component
  let serial ← Effect.take (World.begin component)
  (code.construct serial).run server
  Effect.modify (World.beginHooks component)
  let reflection ← (code.hooks serial).run server
  Effect.modify (World.beginInit program.settings component serial args reflection)
  (code.init serial args).run server
  Effect.modify (World.finish component serial)
  return serial

/-- Hand out the instance of a component; its sequence is run when there is none yet. -/
def acquire (server : Server B (World B)) (component : Identity) (args : Value) (strict : Bool) :
    Effect (World B) (Except WiringError Serial) := fun world =>
  let known := world.provideSlot component
  match (known.slotOf component).answer? component strict with
  | some answer => .returned answer known
  | none =>
    ((Except.ok <$> program.sequence server component args).onPanic (World.fail component)) known

/-- The server of a program, for code nested to a depth. -/
def serve : (depth : Nat) → Server B (World B)
  | _, .query query => Effect.take fun world => world.answer query
  | 0, .acquire _ _ _ => fun _ => .exhausted
  | depth + 1, .acquire component args strict =>
    program.acquire (serve depth) component args strict
  | 0, .call _ _ => fun _ => .exhausted
  | depth + 1, .call callback args => (program.invoke callback args).run (serve depth)

end Program

end HookWiring
