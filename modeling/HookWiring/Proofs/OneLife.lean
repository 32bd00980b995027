import HookWiring.Proofs.Binding
import HookWiring.Proofs.Calls

/-!
# One life for a component

Whatever code asks for a component and wherever it does so, the component is constructed, hooked
and initialised once at most, in this order. The arguments of the first request are kept for the
initialisation and those of later requests are dropped. All who are handed an instance get the one
that was constructed, and the callbacks of the reflection work on it.
-/

namespace HookWiring

variable {B : Bodies} {α : Type}

structure OneLife (program : Program B) (past : List (Point B α)) (now : Point B α)
    (life : Life) : Prop where
  calls : observed Point.call? life.component past <+:
    [(life, .constructing), (life, .hooking), (life, .initialising)]
  runs : ∀ p ∈ past, ∀ phase, p.call? = some (life, phase) →
    ∃ ρ resume, ∃ below : Stack B α ρ, ∃ world,
      program.step p = some
        ⟨program.code life phase, .sequence life phase resume below, world⟩
  returned : (observed Point.call? life.component past).dropLast <+:
    observed Point.return? life.component past
  journal : ∃ ending, now.world.milestones life.component =
    (observed Point.call? life.component past).map (fun call => call.2.milestone life) ++ ending ∧
      ending ∈ [[], [.ready], [.failed]]
  first : observed Point.call? life.component past ≠ [] →
    (argsFor life.component past).head? = some life.args
  ready : now.world.state life.component = .ready →
    observed Point.call? life.component past =
        [(life, .constructing), (life, .hooking), (life, .initialising)] ∧
      observed Point.return? life.component past = observed Point.call? life.component past
  /-- Initialisation begins when the declarations of the reflection are with the host. -/
  wired : (life, .initialising) ∈ observed Point.call? life.component past →
    ∃ reflection, observed Point.hooked? life.component past = [(life, reflection)] ∧
      ∀ r, reflection = some r →
        r.registrations life.serial program.settings <:+: now.world.host.log
  bound : ∀ other r, (other, some r) ∈ observed Point.hooked? life.component past →
    other = life ∧ BoundTo life.serial (r.registrations other.serial program.settings)
  handles : ∀ p ∈ past, ∀ serial, p.handle? = some (life.component, serial) →
    serial = life.serial
  owned : observed Point.call? life.component past ≠ [] →
    (now.world.instanceAt life.serial).component = life.component
  /-- Once begun, a sequence is not run again: requests are answered, whatever their arguments. -/
  settled : observed Point.call? life.component past ≠ [] → ∀ strict, ∃ answer,
    ∀ (args : Value) {ρ : Type} (resume : Except String (Except WiringError Serial) → Code B ρ)
      (stack : Stack B α ρ),
      program.step ⟨.ask (.acquire life.component args strict) resume, stack, now.world⟩ =
        some ⟨resume (.ok answer), stack, now.world⟩

namespace Stage

def Of (life : Life) (stage : Stage) : Prop :=
  stage = .absent ∨ stage.life? = some life

variable {life : Life} {stage : Stage}

theorem Of.calls_isPrefix (of : stage.Of life) :
    stage.calls <+: [(life, .constructing), (life, .hooking), (life, .initialising)] := by
  rcases of with rfl | hlife
  · exact List.nil_prefix
  · cases stage with
    | absent => cases hlife
    | ready => cases hlife; exact List.prefix_rfl
    | running other phase | failed other phase =>
      cases hlife
      exact phase.upTo_isPrefix.map fun p => (life, p)

theorem Of.life?_eq (of : stage.Of life) (h : stage.calls ≠ []) : stage.life? = some life := by
  rcases of with rfl | hlife
  · exact absurd rfl h
  · exact hlife

theorem dropLast_calls_isPrefix (stage : Stage) : stage.calls.dropLast <+: stage.returns := by
  cases stage with
  | absent => exact List.nil_prefix
  | ready life => exact List.dropLast_prefix _
  | running life phase | failed life phase => cases phase <;> exact List.prefix_rfl

theorem Of.milestones_eq (of : stage.Of life) : ∃ ending,
    stage.milestones = stage.calls.map (fun call => call.2.milestone life) ++ ending ∧
      ending ∈ [[], [.ready], [.failed]] := by
  rcases of with rfl | hlife
  · exact ⟨[], rfl, by simp⟩
  · cases stage with
    | absent => cases hlife
    | ready => cases hlife; exact ⟨[.ready], rfl, by simp⟩
    | running other phase => cases hlife; exact ⟨[], by cases phase <;> rfl, by simp⟩
    | failed other phase => cases hlife; exact ⟨[.failed], by cases phase <;> rfl, by simp⟩

theorem hooked_of_mem_calls (h : (life, .initialising) ∈ stage.calls) :
    stage.hooked = [life] := by
  cases stage with
  | absent => cases h
  | ready other =>
    obtain ⟨_, -, heq⟩ := List.mem_map.mp h
    cases heq
    rfl
  | running other phase | failed other phase =>
    obtain ⟨p, hp, heq⟩ := List.mem_map.mp h
    cases heq
    cases phase with
    | initialising => rfl
    | constructing | hooking => simp [Phase.upTo] at hp

theorem Of.eq_of_mem_hooked (of : stage.Of life) {other : Life} (h : other ∈ stage.hooked) :
    other = life := by
  rcases of with rfl | hlife
  · cases h
  · cases stage with
    | absent => cases h
    | ready => cases hlife; exact List.mem_singleton.mp h
    | running own phase | failed own phase =>
      cases hlife
      cases phase with
      | initialising => exact List.mem_singleton.mp h
      | constructing | hooking => cases h

theorem answer?_of_life? (h : stage.life? = some life) (component : Identity) (strict : Bool) :
    ∃ answer, (stage.slot?.getD {}).answer? component strict = some answer := by
  cases stage with
  | absent => cases h
  | running | ready | failed => exact ⟨_, rfl⟩

end Stage

theorem registered_isInfix {past : List (Point B α)} {p : Point B α} (h : p ∈ past)
    (settings : Settings) :
    p.registered settings <:+: past.flatMap (Point.registered settings) := by
  obtain ⟨before, after, rfl⟩ := List.append_of_mem h
  exact ⟨before.flatMap (Point.registered settings), after.flatMap (Point.registered settings),
    by simp⟩

theorem World.Bears.component_instanceAt {world : World B} {life : Life}
    (bears : world.Bears life) : (world.instanceAt life.serial).component = life.component := by
  obtain ⟨-, hget⟩ := bears
  rw [List.getElem?_map, Option.map_eq_some_iff] at hget
  obtain ⟨found, hfound, hcomponent⟩ := hget
  rw [World.instanceAt, hfound, Option.getD_some, hcomponent]

section Runs

variable {program : Program B} {client : Code B α} {host : Host B}
variable {past : List (Point B α)} {now : Point B α}

theorem run_of (run : program.Run (.start client host) past now) (component : Identity) :
    ∃ life, life.component = component ∧ (stages past component).Of life := by
  cases hs : stages past component with
  | absent => exact ⟨⟨component, 0, .null⟩, rfl, .inl rfl⟩
  | running life phase => exact ⟨life, (run_fits run).owner _ _ (by rw [hs]; rfl), .inr rfl⟩
  | ready life => exact ⟨life, (run_fits run).owner _ _ (by rw [hs]; rfl), .inr rfl⟩
  | failed life phase => exact ⟨life, (run_fits run).owner _ _ (by rw [hs]; rfl), .inr rfl⟩

theorem run_oneLife (run : program.Run (.start client host) past now) (component : Identity) :
    ∃ life, life.component = component ∧ OneLife program past now life := by
  obtain ⟨life, rfl, of⟩ := run_of run component
  have fits := run_fits run
  have hcalls := run_calls run life.component
  have hreturns := run_returns run life.component
  have hhooked := run_hookings run life.component
  have hbegun (h : observed Point.call? life.component past ≠ []) :
      (stages past life.component).life? = some life :=
    of.life?_eq (hcalls ▸ h)
  refine ⟨life, rfl, ?_⟩
  constructor
  case calls => rw [hcalls]; exact of.calls_isPrefix
  case runs =>
    intro p hp phase h
    obtain ⟨before, more, q, -, -, step, -⟩ := run.mem_split hp
    obtain ⟨ρ, resume, below, world, rfl⟩ := step.call?_eq h
    exact ⟨ρ, resume, below, world, step.eq⟩
  case returned => rw [hcalls, hreturns]; exact Stage.dropLast_calls_isPrefix _
  case journal => rw [hcalls, fits.milestones]; exact of.milestones_eq
  case first =>
    intro h
    rw [← run_first_args run, hbegun h]
    rfl
  case ready =>
    intro h
    rw [World.state, fits.slotOf] at h
    obtain ⟨other, hready⟩ := Stage.eq_ready_of_state h
    have hother := of.calls_isPrefix
    rw [hcalls, hreturns, hready]
    rw [hready] at hother
    exact ⟨hother.eq_of_length rfl, rfl⟩
  case wired =>
    intro h
    rw [hcalls] at h
    rw [Stage.hooked_of_mem_calls h] at hhooked
    obtain ⟨⟨other, reflection⟩, hseen, rfl⟩ := List.map_eq_singleton_iff.mp hhooked
    refine ⟨reflection, hseen, ?_⟩
    rintro r rfl
    obtain ⟨⟨p, hp, hp'⟩, -⟩ := mem_observed_iff.mp (hseen ▸ List.mem_singleton_self _)
    rw [← Point.registered_of_hooked? hp', run_log run]
    exact (registered_isInfix hp program.settings).trans (List.suffix_append _ _).isInfix
  case bound =>
    intro other r h
    have hmem : other ∈ (observed Point.hooked? life.component past).map Prod.fst :=
      List.mem_map_of_mem h
    rw [hhooked] at hmem
    obtain rfl := of.eq_of_mem_hooked hmem
    exact ⟨rfl, r.boundTo_registrations _ _⟩
  case handles =>
    intro p hp serial h
    obtain ⟨other, hready, hserial⟩ := run_handle run hp h
    rcases of with habsent | hlife
    · rw [habsent] at hready; cases hready
    · rw [hready] at hlife
      cases hlife
      exact hserial.symm
  case owned =>
    intro h
    exact (fits.born _ _ (hbegun h)).component_instanceAt
  case settled =>
    intro h strict
    have hlife := hbegun h
    obtain ⟨answer, hanswer⟩ := Stage.answer?_of_life? hlife life.component strict
    obtain ⟨slot, hslot⟩ := fits.slot?_of_life? hlife
    rw [← fits.slotOf] at hanswer
    refine ⟨answer, fun args ρ resume stack => ?_⟩
    rw [Program.step_of_known hanswer, World.provideSlot_of_slot? hslot]

end Runs

theorem oneLife_outage : ∃ past now, outage.Run (.start outageClient {}) past now ∧
    (now.world.state "outer" = .ready ∧ now.world.state "inner" = .failed) ∧
    (∃ life, life.component = "outer" ∧ OneLife outage past now life) ∧
    ∃ life, life.component = "inner" ∧ OneLife outage past now life := by
  obtain ⟨past, now, run, htest⟩ := outage.exists_run_of_after 8 (.start outageClient {})
    (fun p => p.world.state "outer" = .ready ∧ p.world.state "inner" = .failed)
    (by decide +kernel)
  exact ⟨past, now, run, of_decide_eq_true htest, run_oneLife run "outer",
    run_oneLife run "inner"⟩

end HookWiring
