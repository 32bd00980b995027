import HookWiring.Proofs.OneLife
import HookWiring.Proofs.Slots

/-!
# Panics

A panic goes down the stack, frame by frame, until the code that waits does something else than
panic in turn, or until the client itself panics. The components whose sequences it goes through
fail for good. Nothing else changes: the other components stay where they are and go on as if
nothing had happened, and the host keeps what it has received.
-/

namespace HookWiring

variable {B : Bodies} {α ρ : Type}

def Code.panics : Code B ρ → Bool
  | .panic _ => true
  | _ => false

/-- The sequences through which a panic goes, and the point at which it is caught or leaves the
client. -/
inductive Unwinds : Point B α → List (Life × Phase) → Point B α → Prop
  | caught (p : Point B α) (h : p.code.panics = false) : Unwinds p [] p
  | escaped (message : String) (world : World B) :
    Unwinds ⟨.panic message, .client, world⟩ [] ⟨.panic message, .client, world⟩
  | call {ρ : Type} {message : String}
      {resume : Except String (Except CallbackError Value) → Code B ρ} {below : Stack B α ρ}
      {world : World B} {lives : List (Life × Phase)} {q : Point B α}
      (rest : Unwinds ⟨resume (.error message), below, world⟩ lives q) :
      Unwinds ⟨.panic message, .call resume below, world⟩ lives q
  | sequence {ρ : Type} {message : String} {life : Life} {phase : Phase}
      {resume : Except String (Except WiringError Serial) → Code B ρ} {below : Stack B α ρ}
      {world : World B} {lives : List (Life × Phase)} {q : Point B α}
      (rest : Unwinds ⟨resume (.error message), below, world.fail life.component⟩ lives q) :
      Unwinds ⟨.panic message, .sequence life phase resume below, world⟩
        ((life, phase) :: lives) q

theorem exists_unwinds (p : Point B α) : ∃ lives q, Unwinds p lives q := by
  obtain ⟨code, stack, world⟩ := p
  induction stack generalizing world with
  | client =>
    cases code with
    | panic message => exact ⟨[], _, .escaped message world⟩
    | done | ask => exact ⟨[], _, .caught _ rfl⟩
  | call resume below ih =>
    cases code with
    | panic message =>
      obtain ⟨lives, q, h⟩ := ih (resume (.error message)) world
      exact ⟨lives, q, .call h⟩
    | done | ask => exact ⟨[], _, .caught _ rfl⟩
  | sequence life phase resume below ih =>
    cases code with
    | panic message =>
      obtain ⟨lives, q, h⟩ := ih (resume (.error message)) (world.fail life.component)
      exact ⟨(life, phase) :: lives, q, .sequence h⟩
    | done | ask => exact ⟨[], _, .caught _ rfl⟩

namespace Unwinds

variable {program : Program B} {p q : Point B α} {lives : List (Life × Phase)}

theorem leads (h : Unwinds p lives q) : program.Leads p q := by
  induction h with
  | caught | escaped => exact .refl
  | call _ ih => exact .head (.escapes ..) ih
  | sequence _ ih => exact .head (.fails ..) ih

theorem sequences_eq (h : Unwinds p lives q) :
    p.stack.sequences = lives ++ q.stack.sequences := by
  induction h with
  | caught | escaped => rfl
  | call _ ih => exact ih
  | sequence _ ih => exact congrArg _ ih

theorem host_eq (h : Unwinds p lives q) : q.world.host = p.world.host := by
  induction h with
  | caught | escaped => rfl
  | call _ ih => exact ih
  | sequence _ ih => exact ih.trans (World.host_fail ..)

theorem slot?_eq (h : Unwinds p lives q) (component : Identity) :
    q.world.slot? component =
      if component ∈ lives.map (fun frame => frame.1.component) then some Shape.failed.slot
      else p.world.slot? component := by
  induction h with
  | caught | escaped => rfl
  | call _ ih => exact ih
  | @sequence _ _ life _ _ _ world lives _ _ ih =>
    rw [ih, World.slot?_fail, List.map_cons]
    by_cases hlives : component ∈ lives.map fun frame => frame.1.component
    · rw [if_pos hlives, if_pos (List.mem_cons_of_mem _ hlives)]
    · rw [if_neg hlives]
      by_cases ho : component = life.component
      · rw [if_pos ho, if_pos (ho ▸ List.mem_cons_self)]
        rfl
      · rw [if_neg ho, if_neg (by simp [ho, hlives])]

end Unwinds

namespace Stage

theorem hooked_cases (stage : Stage) :
    stage.hooked = [] ∨ ∃ life, stage.hooked = [life] := by
  cases stage with
  | absent => exact .inl rfl
  | ready life => exact .inr ⟨life, rfl⟩
  | running life phase | failed life phase =>
    cases phase with
    | initialising => exact .inr ⟨life, rfl⟩
    | constructing | hooking => exact .inl rfl

theorem life?_of_hooked {stage : Stage} {life : Life} (h : stage.hooked = [life]) :
    stage.life? = some life := by
  cases stage with
  | absent => cases h
  | ready => cases h; rfl
  | running own phase | failed own phase => cases phase <;> cases h; rfl

theorem eq_failed_of_slot? {stage : Stage} (h : stage.slot? = some Shape.failed.slot) :
    ∃ life phase, stage = .failed life phase := by
  obtain ⟨shape, hshape, heq⟩ := Option.map_eq_some_iff.mp h
  rw [Shape.slot_injective heq] at hshape
  cases stage with
  | failed life phase => exact ⟨life, phase, rfl⟩
  | absent | running | ready => cases hshape

end Stage

structure Unwound (raised caught : Point B α) (lives : List (Life × Phase)) : Prop where
  sequences : raised.stack.sequences = lives ++ caught.stack.sequences
  running : ∀ life phase, (life, phase) ∈ lives →
    raised.world.slot? life.component = some (Shape.running phase).slot
  slot : ∀ component, caught.world.slot? component =
    if component ∈ lives.map (fun frame => frame.1.component) then some Shape.failed.slot
    else raised.world.slot? component
  host : caught.world.host = raised.world.host

structure Dead (program : Program B) (component : Identity) (further : List (Point B α))
    (later : Point B α) : Prop where
  slot : later.world.slot? component = some Shape.failed.slot
  refused : ∀ (args : Value) (strict : Bool) {ρ : Type}
    (resume : Except String (Except WiringError Serial) → Code B ρ) (stack : Stack B α ρ),
      program.step ⟨.ask (.acquire component args strict) resume, stack, later.world⟩ =
        some ⟨resume (.ok (.error (.failed component))), stack, later.world⟩
  missed : (later.world.answer (.instanceOf component)).1 = none
  idle : component ∉ later.stack.components
  uncalled : observed Point.call? component further = []

/-- The registrations of a reflection stand together in the log, where its hooks returned. -/
structure Block (program : Program B) (host : Host B) (past : List (Point B α))
    (now : Point B α) (life : Life) (r : Reflection B) : Prop where
  once : ∃ before p after, past = before ++ p :: after ∧ p.hooked? = some (life, some r) ∧
    observed Point.hooked? life.component before = [] ∧
    observed Point.hooked? life.component after = [] ∧
    now.world.host.log =
      (host.log ++ before.flatMap (Point.registered program.settings)) ++
        r.registrations life.serial program.settings ++
        after.flatMap (Point.registered program.settings)
  bound : BoundTo life.serial (r.registrations life.serial program.settings)
  owned : (now.world.instanceAt life.serial).component = life.component

def AllOrNone (program : Program B) (host : Host B) (past : List (Point B α)) (now : Point B α)
    (component : Identity) : Prop :=
  (∀ seen ∈ observed Point.hooked? component past, seen.2 = none) ∨
    ∃ life r, life.component = component ∧ Block program host past now life r

structure Aftermath (program : Program B) (raised caught : Point B α)
    (lives : List (Life × Phase)) (further : List (Point B α)) (later : Point B α) : Prop where
  dead : ∀ life phase, (life, phase) ∈ lives → Dead program life.component further later
  /-- The other sequences come to their ends, unless a panic goes through them later. -/
  alive : ∀ life phase, (life, phase) ∈ caught.stack.sequences →
    life.component ∉ later.stack.components →
    (∀ p ∈ further, ∀ phase, p.failing? ≠ some (life, phase)) →
      later.world.slot? life.component = some (Shape.ready life.serial).slot
  log : raised.world.host.log <+: later.world.host.log

section Runs

variable {program : Program B} {client : Code B α} {host : Host B}
variable {past : List (Point B α)} {now : Point B α}

theorem run_allOrNone (run : program.Run (.start client host) past now) (component : Identity) :
    AllOrNone program host past now component := by
  have hhooked := run_hookings run component
  rcases (stages past component).hooked_cases with hnone | ⟨life, hlife⟩
  · rw [hnone, List.map_eq_nil_iff] at hhooked
    exact .inl (hhooked ▸ nofun)
  · rw [hlife] at hhooked
    obtain ⟨⟨other, reflection⟩, hseen, rfl⟩ := List.map_eq_singleton_iff.mp hhooked
    cases reflection with
    | none =>
      refine .inl fun seen hmem => ?_
      rw [hseen, List.mem_singleton] at hmem
      rw [hmem]
    | some r =>
      obtain ⟨⟨p, hp, hp'⟩, rfl⟩ := mem_observed_iff.mp (hseen ▸ List.mem_singleton_self _)
      have hborn := (run_fits run).born _ other (Stage.life?_of_hooked hlife)
      refine .inr ⟨other, r, rfl, ?_, r.boundTo_registrations _ _, hborn.component_instanceAt⟩
      obtain ⟨before, after, rfl⟩ := List.append_of_mem hp
      have hlog := run_log run
      have hsplit : before ++ p :: after = before ++ [p] ++ after := by simp
      rw [hsplit, observed_append, observed_append, observed_of_some hp', if_pos rfl] at hseen
      have hempty : observed Point.hooked? other.component before = [] ∧
          observed Point.hooked? other.component after = [] := by
        have hlength := congrArg List.length hseen
        simp only [List.length_append, List.length_singleton] at hlength
        constructor <;> rw [← List.length_eq_zero_iff] <;> omega
      refine ⟨before, p, after, rfl, hp', hempty.1, hempty.2, ?_⟩
      rw [hlog, List.flatMap_append, List.flatMap_cons, Point.registered_of_hooked? hp']
      simp

theorem Program.Run.log_isPrefix {start : Point B α} (run : program.Run start past now) :
    start.world.host.log <+: now.world.host.log :=
  ⟨_, run.log_eq.symm⟩

theorem Fits.dead {stages : Identity → Stage} (fits : Fits stages now) {component : Identity}
    {life : Life} {phase : Phase} (failed : stages component = .failed life phase)
    (uncalled : observed Point.call? component past = []) :
    Dead program component past now := by
  have hslot : now.world.slot? component = some Shape.failed.slot :=
    fits.slot?_of_shape (by rw [failed]; rfl)
  have hslotOf : now.world.slotOf component = Shape.failed.slot :=
    fits.slotOf_of_shape (by rw [failed]; rfl)
  constructor
  case slot => exact hslot
  case refused =>
    intro args strict ρ resume stack
    have known : (now.world.slotOf component).answer? component strict =
        some (.error (.failed component)) := by
      rw [hslotOf, Shape.answer?_failed]
    rw [Program.step_of_known known, World.provideSlot_of_slot? hslot]
  case missed =>
    change now.world.ready? component = none
    rw [World.ready?, hslotOf, Shape.ready?_failed]
  case idle =>
    rw [fits.mem_components_iff]
    rintro ⟨other, phase', hrun⟩
    rw [failed] at hrun
    cases hrun
  case uncalled => exact uncalled

theorem Unwinds.unwound {lives : List (Life × Phase)} {caught : Point B α}
    (unwinds : Unwinds now lives caught) (fits : Fits (stages past) now) :
    Unwound now caught lives where
  sequences := unwinds.sequences_eq
  running life phase h := by
    have hmem : (life, phase) ∈ now.stack.sequences := by
      rw [unwinds.sequences_eq]
      exact List.mem_append_left _ h
    exact fits.slot?_of_shape (by rw [(fits.running life phase).mp hmem]; rfl)
  slot := unwinds.slot?_eq
  host := unwinds.host_eq

theorem run_unwinds (run : program.Run (.start client host) past now) :
    ∃ lives caught more, Unwinds now lives caught ∧
      program.Run (.start client host) (past ++ more) caught ∧ Unwound now caught lives ∧
      (∀ component, AllOrNone program host past now component) ∧
      ∀ further later, program.Run caught further later →
        Aftermath program now caught lives further later ∧
          ∀ component, AllOrNone program host (past ++ more ++ further) later component := by
  obtain ⟨lives, caught, unwinds⟩ := exists_unwinds now
  obtain ⟨more, hcaught⟩ := run.extend unwinds.leads
  have unwound := unwinds.unwound (run_fits run)
  refine ⟨lives, caught, more, unwinds, hcaught, unwound, run_allOrNone run, ?_⟩
  intro further later hfurther
  have hlater := hcaught.append hfurther
  have hnext (component : Identity) := stages_next hcaught hfurther component
  refine ⟨?_, run_allOrNone hlater⟩
  constructor
  case dead =>
    intro life phase h
    have hslot := unwinds.slot?_eq life.component
    rw [if_pos (List.mem_map.mpr ⟨_, h, rfl⟩), (run_fits hcaught).slot] at hslot
    obtain ⟨own, ended, hfailed⟩ := Stage.eq_failed_of_slot? hslot
    have hstays := hnext life.component
    rw [hfailed] at hstays
    have hnow := Stage.eq_of_failed hstays
    refine (run_fits hlater).dead hnow ?_
    have hcalls := run_calls hlater life.component
    rw [hnow, observed_append, run_calls hcaught, hfailed] at hcalls
    exact List.append_right_eq_self.mp hcalls
  case alive =>
    intro life phase h hidle hunfailed
    have hrunning := ((run_fits hcaught).running life phase).mp h
    have hcourse := hnext life.component
    rw [hrunning] at hcourse
    have hlife := Stage.life?_of_course hcourse rfl
    -- A sequence that has left the stack is ready or has failed, and only a panic makes it fail.
    cases hs : stages (past ++ more ++ further) life.component with
    | absent => rw [hs] at hlife; cases hlife
    | running other phase' =>
      have hmem := ((run_fits hlater).mem_components_iff _).mpr ⟨other, phase', hs⟩
      exact absurd hmem hidle
    | ready other =>
      rw [hs] at hlife
      cases hlife
      exact (run_fits hlater).slot?_of_shape (by rw [hs]; rfl)
    | failed other phase' =>
      rw [hs] at hlife
      cases hlife
      have hfailing := run_failing hlater life.component
      rw [hs, observed_append, run_failing hcaught, hrunning] at hfailing
      have hmem : (life, phase') ∈ observed Point.failing? life.component further := by
        rw [show observed Point.failing? life.component further = [(life, phase')] from hfailing]
        exact List.mem_singleton_self _
      obtain ⟨⟨p, hp, hp'⟩, -⟩ := mem_observed_iff.mp hmem
      exact absurd hp' (hunfailed p hp phase')
  case log =>
    rw [← unwinds.host_eq]
    exact hfurther.log_isPrefix

end Runs

theorem unwinds_outage :
    (∃ past now, outage.Run (.start outageClient {}) past now ∧
      (now.code.panics = true ∧ now.stack.components = ["inner", "outer"]) ∧
      ∃ lives caught more, Unwinds now lives caught ∧
        outage.Run (.start outageClient {}) (past ++ more) caught ∧ Unwound now caught lives ∧
        (∀ component, AllOrNone outage {} past now component) ∧
        ∀ further later, outage.Run caught further later →
          Aftermath outage now caught lives further later ∧
            ∀ component, AllOrNone outage {} (past ++ more ++ further) later component) ∧
    ∃ past now, outage.Run (.start outageClient {}) past now ∧
      now.world.state "inner" = .failed ∧ now.world.state "outer" = .ready := by
  obtain ⟨past, now, run, htest⟩ := outage.exists_run_of_after 6 (.start outageClient {})
    (fun p => p.code.panics = true ∧ p.stack.components = ["inner", "outer"])
    (by decide +kernel)
  obtain ⟨past', now', run', htest'⟩ := outage.exists_run_of_after 8 (.start outageClient {})
    (fun p => p.world.state "inner" = .failed ∧ p.world.state "outer" = .ready)
    (by decide +kernel)
  exact ⟨⟨past, now, run, of_decide_eq_true htest, run_unwinds run⟩,
    past', now', run', of_decide_eq_true htest'⟩

end HookWiring
