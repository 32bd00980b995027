import HookWiring.Proofs.History
import Mathlib.Data.Finset.Card

/-!
# What observers see of slots

At every point of a run each slot has one of three shapes, and which one it has is told by the
stack: it is running as long as a frame of the component is there, and only then. So a look-up
never finds an instance whose initialisation has not come to its end.
-/

namespace HookWiring

variable {B : Bodies} {α ρ : Type}

namespace Shape

theorem slot_injective : Function.Injective slot := by
  intro s t h
  have hconstructing : s.slot.constructing = t.slot.constructing := by rw [h]
  have hinstance : s.slot.instance? = t.slot.instance? := by rw [h]
  have hstate : s.slot.state = t.slot.state := by rw [h]
  cases s with
  | running phase =>
    cases t with
    | running other => cases phase <;> cases other <;> first | rfl | cases hstate
    | ready | failed => cases hconstructing
  | ready serial =>
    cases t with
    | ready other => cases hinstance; rfl
    | running => cases hconstructing
    | failed => cases hinstance
  | failed =>
    cases t with
    | failed => rfl
    | running => cases hconstructing
    | ready => cases hinstance

def On (running : List (Life × Phase)) (component : Identity) : Shape → Prop
  | .running phase => ∃ life, life.component = component ∧ (life, phase) ∈ running
  | .ready _ => component ∉ running.map fun frame => frame.1.component
  | .failed => component ∉ running.map fun frame => frame.1.component

end Shape

inductive LifecycleState.Next : LifecycleState → LifecycleState → Prop
  | constructed : Next .uninitialized .constructed
  | hooked : Next .constructed .hooked
  | ready : Next .hooked .ready
  | failed {state : LifecycleState} (unready : state ≠ .ready) (unfailed : state ≠ .failed) :
    Next state .failed

def LifecycleState.Final (state : LifecycleState) : Prop :=
  state = .ready ∨ state = .failed

structure SlotsKept (program : Program B) (past : List (Point B α)) (now : Point B α) : Prop where
  shape : ∀ component slot, now.world.slot? component = some slot →
    ∃! shape : Shape, slot = shape.slot ∧ shape.On now.stack.sequences component
  running : ∀ life phase, (life, phase) ∈ now.stack.sequences →
    now.world.slot? life.component = some (Shape.running phase).slot
  /-- The declarations are registered before the state goes on from constructed. -/
  registering : ∀ life reflection, now.hooked? = some (life, reflection) →
    (now.world.wire program.settings life.serial reflection).slot? life.component =
      some (Shape.running .hooking).slot
  found : ∀ component, (now.world.answer (.instanceOf component)).1.isSome = true ↔
    (now.world.answer (.state component)).1 = .ready
  handed : ∀ p ∈ past, ∀ component serial, p.handle? = some (component, serial) →
    now.world.slot? component = some (Shape.ready serial).slot
  moves : ∀ component next, program.Step now next →
    next.world.state component = now.world.state component ∨
      LifecycleState.Next (now.world.state component) (next.world.state component)
  course : ∀ p ∈ past, ∀ component,
    Relation.ReflTransGen LifecycleState.Next (p.world.state component)
      (now.world.state component)
  kept : ∀ p ∈ past, ∀ component, (p.world.state component).Final →
    now.world.state component = p.world.state component
  idle : now.stack.sequences = [] → ∀ component slot,
    now.world.slot? component = some slot → slot.state.Final
  size : (now.world.answer .size).1 = ((requests past).map Prod.fst).toFinset.card
  reads : ∀ component, ∀ query ∈ [Query.state component, .instanceOf component, .size],
    ∀ {ρ : Type} (resume : Except String query.Answer → Code B ρ) (stack : Stack B α ρ),
      ∃ answer, program.step ⟨.ask (.query query) resume, stack, now.world⟩ =
        some ⟨resume (.ok answer), stack, now.world⟩

namespace Stage

def state (stage : Stage) : LifecycleState :=
  (stage.slot?.getD {}).state

theorem Next.state_next {s t : Stage} (next : Next s t) :
    t.state = s.state ∨ LifecycleState.Next s.state t.state := by
  cases next with
  | begins => exact .inl rfl
  | hooks => exact .inr .constructed
  | inits => exact .inr .hooked
  | finishes => exact .inr .ready
  | fails life phase =>
    refine .inr (.failed ?_ ?_) <;> cases phase <;> exact nofun

theorem state_course {s t : Stage} (h : Relation.ReflTransGen Next s t) :
    Relation.ReflTransGen LifecycleState.Next s.state t.state := by
  induction h with
  | refl => exact .refl
  | tail _ next ih =>
    rcases next.state_next with heq | hnext
    · rw [heq]; exact ih
    · exact ih.tail hnext

theorem not_final_running (life : Life) (phase : Phase) : ¬(running life phase).state.Final := by
  cases phase <;> rintro (h | h) <;> cases h

theorem eq_of_state_final {s t : Stage} (h : Relation.ReflTransGen Next s t)
    (final : s.state.Final) : t = s := by
  cases s with
  | ready life => exact eq_of_ready h
  | failed life phase => exact eq_of_failed h
  | absent => rcases final with final | final <;> cases final
  | running life phase => exact absurd final (not_final_running life phase)

theorem ready?_isSome_iff (stage : Stage) :
    (stage.slot?.getD {}).ready?.isSome = true ↔ stage.state = .ready := by
  cases stage with
  | running life phase => cases phase <;> exact ⟨nofun, nofun⟩
  | ready life => exact ⟨fun _ => rfl, fun _ => rfl⟩
  | absent | failed => exact ⟨nofun, nofun⟩

end Stage

section Runs

variable {stages : Identity → Stage} {program : Program B} {client : Code B α} {host : Host B}
variable {past : List (Point B α)} {now : Point B α}

theorem Fits.state_eq (fits : Fits stages now) (component : Identity) :
    now.world.state component = (stages component).state := by
  rw [World.state, fits.slotOf, Stage.state]

theorem Fits.mem_components_iff (fits : Fits stages now) (component : Identity) :
    component ∈ now.stack.components ↔
      ∃ life phase, stages component = .running life phase := by
  constructor
  · intro h
    obtain ⟨⟨life, phase⟩, hmem, rfl⟩ := List.mem_map.mp h
    exact ⟨life, phase, (fits.running life phase).mp hmem⟩
  · rintro ⟨life, phase, h⟩
    have howner := fits.owner component life (by rw [h]; rfl)
    have hmem := (fits.running life phase).mpr (howner ▸ h)
    exact List.mem_map.mpr ⟨_, hmem, howner⟩

theorem Fits.shape_on (fits : Fits stages now) {component : Identity} {shape : Shape}
    (h : (stages component).shape? = some shape) : shape.On now.stack.sequences component := by
  have hidle (hnot : ∀ life phase, stages component ≠ .running life phase) :
      component ∉ now.stack.components := by
    rw [fits.mem_components_iff]
    rintro ⟨life, phase, hrun⟩
    exact hnot life phase hrun
  cases hs : stages component with
  | absent => rw [hs] at h; cases h
  | running life phase =>
    rw [hs] at h
    cases h
    have howner := fits.owner component life (by rw [hs]; rfl)
    exact ⟨life, howner, (fits.running life phase).mpr (howner ▸ hs)⟩
  | ready | failed =>
    rw [hs] at h
    cases h
    exact hidle fun _ _ => by rw [hs]; exact nofun

theorem Point.sequences_of_hooked? {p : Point B α} {life : Life}
    {reflection : Option (Reflection B)} (h : p.hooked? = some (life, reflection)) :
    ∃ below, p.stack.sequences = (life, .hooking) :: below := by
  obtain ⟨code, stack, world⟩ := p
  cases code with
  | done result =>
    cases stack with
    | sequence other phase resume below =>
      cases phase <;> cases h
      exact ⟨below.sequences, rfl⟩
    | client | call => cases h
  | panic | ask => cases h

theorem run_requested (run : program.Run (.start client host) past now) (component : Identity) :
    (now.world.slot? component).isSome = true ↔ component ∈ (requests past).map Prod.fst := by
  have hslot : ((stages past component).slot?).isSome =
      ((stages past component).life?.map Life.args).isSome := by
    cases stages past component <;> rfl
  rw [(run_fits run).slot, hslot, run_first_args run, List.isSome_head?, argsFor]
  simp

theorem run_slots (run : program.Run (.start client host) past now) :
    SlotsKept program past now := by
  have fits := run_fits run
  constructor
  case shape =>
    intro component slot h
    rw [fits.slot] at h
    obtain ⟨shape, hshape, rfl⟩ := Option.map_eq_some_iff.mp h
    exact ⟨shape, ⟨rfl, fits.shape_on hshape⟩, fun other hother =>
      Shape.slot_injective hother.1.symm⟩
  case running =>
    intro life phase h
    exact fits.slot?_of_shape (by rw [(fits.running life phase).mp h]; rfl)
  case registering =>
    intro life reflection h
    obtain ⟨below, htop⟩ := now.sequences_of_hooked? h
    have hwire : (now.world.wire program.settings life.serial reflection).slot? life.component =
        now.world.slot? life.component := by
      cases reflection <;> rfl
    rw [hwire]
    exact fits.slot?_of_shape (by rw [fits.top htop]; rfl)
  case found =>
    intro component
    change (now.world.ready? component).isSome = true ↔ now.world.state component = .ready
    rw [World.ready?, fits.state_eq, fits.slotOf]
    exact Stage.ready?_isSome_iff _
  case handed =>
    intro p hp component serial h
    obtain ⟨life, hready, rfl⟩ := run_handle run hp h
    exact fits.slot?_of_shape (by rw [hready]; rfl)
  case moves =>
    intro component next step
    rw [fits.state_eq, (fits.step step).state_eq]
    rcases fits.record_next step component with hsame | hnext
    · exact .inl (by rw [hsame])
    · exact hnext.state_next
  case course =>
    intro p hp component
    obtain ⟨before, hbefore, hstages⟩ := stages_of_mem run hp
    rw [fits.state_eq, (run_fits hbefore).state_eq]
    exact Stage.state_course (hstages component)
  case kept =>
    intro p hp component final
    obtain ⟨before, hbefore, hstages⟩ := stages_of_mem run hp
    rw [(run_fits hbefore).state_eq] at final ⊢
    rw [fits.state_eq, Stage.eq_of_state_final (hstages component) final]
  case idle =>
    intro h component slot hslot
    rw [fits.slot] at hslot
    cases hs : stages past component with
    | absent => rw [hs] at hslot; cases hslot
    | running life phase =>
      have hmem : (Shape.running phase).On now.stack.sequences component :=
        fits.shape_on (by rw [hs]; rfl)
      rw [h] at hmem
      obtain ⟨_, -, hnil⟩ := hmem
      cases hnil
    | ready life => rw [hs] at hslot; cases hslot; exact .inl rfl
    | failed life phase => rw [hs] at hslot; cases hslot; exact .inr rfl
  case size =>
    change now.world.slots.size = _
    rw [← Table.length_keys, ← List.toFinset_card_of_nodup (run_nodup_keys run)]
    congr 1
    ext component
    rw [List.mem_toFinset, List.mem_toFinset, ← Table.get?_isSome_iff, ← run_requested run]
    rfl
  case reads =>
    intro component query hquery ρ resume stack
    simp only [List.mem_cons, List.not_mem_nil, or_false] at hquery
    rcases hquery with rfl | rfl | rfl <;> exact ⟨_, rfl⟩

end Runs

theorem slots_outage : ∃ past now, outage.Run (.start outageClient {}) past now ∧
    (now.world.state "outer" = .hooked ∧ now.world.state "inner" = .hooked) ∧
    SlotsKept outage past now := by
  obtain ⟨past, now, run, htest⟩ := outage.exists_run_of_after 6 (.start outageClient {})
    (fun p => p.world.state "outer" = .hooked ∧ p.world.state "inner" = .hooked)
    (by decide +kernel)
  exact ⟨past, now, run, of_decide_eq_true htest, run_slots run⟩

end HookWiring
