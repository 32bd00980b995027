import HookWiring.Proofs.Calls
import HookWiring.Proofs.Evaluation
import HookWiring.Proofs.Slots

/-!
# Answers to requests

What a request for a component is answered depends on the standing of the component alone, and the
standing is told by the stack and by the state that observers see. A component whose sequence is
running, has failed or has come to its end is answered at once, and the world stays as it is. In
all other cases the component was never requested, and the request runs the sequence. Only then do
the arguments matter, and only for a component that is ready does it matter whether the request is
strict.
-/

namespace HookWiring

variable {B : Bodies} {α ρ : Type}

/-- A request is answered at once and leaves the world as it is, whatever its arguments. -/
def AnsweredAs (program : Program B) (world : World B) (component : Identity) (strict : Bool)
    (answer : Except WiringError Serial) : Prop :=
  ∀ args : Value,
    (∀ depth, program.serve (depth + 1) (.acquire component args strict) world =
      .returned answer world) ∧
    ∀ {α ρ : Type} (resume : Except String (Except WiringError Serial) → Code B ρ)
      (stack : Stack B α ρ),
      program.step ⟨.ask (.acquire component args strict) resume, stack, world⟩ =
        some ⟨resume (.ok answer), stack, world⟩

def World.lifeOf (world : World B) (component : Identity) (args : Value) : Life :=
  ⟨component, world.instances.length + 1, args⟩

def World.begun (world : World B) (component : Identity) : World B :=
  ((world.provideSlot component).begin component).2

structure RunsSequence (program : Program B) (world : World B) (component : Identity) :
    Prop where
  unrequested : world.slot? component = none
  begins : ∀ (args : Value) (strict : Bool) {α ρ : Type}
    (resume : Except String (Except WiringError Serial) → Code B ρ) (stack : Stack B α ρ),
    program.step ⟨.ask (.acquire component args strict) resume, stack, world⟩ =
      some ⟨program.code (world.lifeOf component args) .constructing,
        .sequence (world.lifeOf component args) .constructing resume stack,
        world.begun component⟩
  runs : ∀ (args : Value) (strict : Bool) (depth : Nat),
    program.serve (depth + 1) (.acquire component args strict) world =
      program.construct (program.serve depth) (world.lifeOf component args)
        (world.begun component)
  returned : ∀ (args : Value) (strict : Bool) (depth : Nat) (answer : Except WiringError Serial)
    (after : World B),
    program.serve depth (.acquire component args strict) world = .returned answer after →
      answer = .ok (world.lifeOf component args).serial ∧
        after.slot? component = some (Shape.ready (world.lifeOf component args).serial).slot ∧
        ∀ {α ρ : Type} (resume : Except String (Except WiringError Serial) → Code B ρ)
          (stack : Stack B α ρ),
          program.Leads ⟨.ask (.acquire component args strict) resume, stack, world⟩
            ⟨resume (.ok answer), stack, after⟩
  panicked : ∀ (args : Value) (strict : Bool) (depth : Nat) (message : String) (after : World B),
    program.serve depth (.acquire component args strict) world = .panicked message after →
      after.slot? component = some Shape.failed.slot
  /-- A strict request has the effects of one that is not, to every depth and from every stack. -/
  same : ∀ (args : Value),
    (∀ depth, program.serve depth (.acquire component args true) world =
      program.serve depth (.acquire component args false) world) ∧
    ∀ {α ρ : Type} (resume : Except String (Except WiringError Serial) → Code B ρ)
      (stack : Stack B α ρ),
      program.step ⟨.ask (.acquire component args true) resume, stack, world⟩ =
        program.step ⟨.ask (.acquire component args false) resume, stack, world⟩

structure Answers (program : Program B) (now : Point B α) (component : Identity) : Prop where
  running : component ∈ now.stack.components → ∀ strict,
    AnsweredAs program now.world component strict (.error (.reentrant component))
  failed : now.world.state component = .failed → ∀ strict,
    AnsweredAs program now.world component strict (.error (.failed component))
  ready : now.world.state component = .ready → ∃ serial,
    (now.world.answer (.instanceOf component)).1 = some serial ∧
      AnsweredAs program now.world component false (.ok serial) ∧
      AnsweredAs program now.world component true (.error (.duplicate component))
  fresh : component ∉ now.stack.components → now.world.state component ≠ .failed →
    now.world.state component ≠ .ready → RunsSequence program now.world component

namespace Program

variable {program : Program B}

theorem guard_panicked_failed {τ : Type} {life : Life}
    {next : τ → Effect (World B) (Except WiringError Serial)} {outcome : Outcome (World B) τ}
    (hnext : ∀ result left message after, next result left = .panicked message after →
      after.slot? life.component = some Shape.failed.slot)
    {message : String} {after : World B}
    (h : life.guard next outcome = .panicked message after) :
    after.slot? life.component = some Shape.failed.slot := by
  cases outcome with
  | returned result left => exact hnext result left message after h
  | panicked raised left =>
    cases h
    exact (World.slot?_fail ..).trans (if_pos rfl)
  | exhausted => cases h

theorem construct_panicked_failed {server : Server B (World B)} {life : Life}
    {world after : World B} {message : String}
    (h : program.construct server life world = .panicked message after) :
    after.slot? life.component = some Shape.failed.slot := by
  refine guard_panicked_failed (fun _ made message after hmade => ?_) h
  refine guard_panicked_failed (fun reflection hooked message after hhooked => ?_) hmade
  refine guard_panicked_failed (fun _ left message after hleft => ?_) hhooked
  cases hleft

theorem runsSequence_of_unrequested {world : World B} {component : Identity}
    (h : world.slot? component = none) : RunsSequence program world component := by
  have unknown (strict : Bool) : (world.slotOf component).answer? component strict = none := by
    rw [World.slotOf, h]
    rfl
  have hbegins (args : Value) (strict : Bool) {α ρ : Type}
      (resume : Except String (Except WiringError Serial) → Code B ρ) (stack : Stack B α ρ) :
      program.step ⟨.ask (.acquire component args strict) resume, stack, world⟩ =
        some ⟨program.code (world.lifeOf component args) .constructing,
          .sequence (world.lifeOf component args) .constructing resume stack,
          world.begun component⟩ :=
    step_of_unknown (unknown strict) args resume stack
  have hruns (args : Value) (strict : Bool) (depth : Nat) :
      program.serve (depth + 1) (.acquire component args strict) world =
        program.construct (program.serve depth) (world.lifeOf component args)
          (world.begun component) :=
    acquire_of_unknown (program.serve depth) (unknown strict) args
  constructor
  case unrequested => exact h
  case begins => exact hbegins
  case runs => exact hruns
  case returned =>
    intro args strict depth answer after hserved
    cases depth with
    | zero => cases hserved
    | succ depth =>
      obtain ⟨hok, hready⟩ := construct_returned ((hruns args strict depth).symm.trans hserved)
      refine ⟨hok, hready, fun resume stack => ?_⟩
      have leads := serves_serve (depth + 1) (.acquire component args strict) resume stack world _
        (by rw [hserved]; rfl)
      exact leads.to_reflTransGen
  case panicked =>
    intro args strict depth message after hserved
    cases depth with
    | zero => cases hserved
    | succ depth => exact construct_panicked_failed ((hruns args strict depth).symm.trans hserved)
  case same =>
    refine fun args => ⟨fun depth => ?_, fun resume stack => ?_⟩
    · cases depth with
      | zero => rfl
      | succ depth => exact (hruns args true depth).trans (hruns args false depth).symm
    · exact (hbegins args true resume stack).trans (hbegins args false resume stack).symm

end Program

section Runs

variable {stages : Identity → Stage} {program : Program B} {client : Code B α} {host : Host B}
variable {past : List (Point B α)} {now : Point B α}

theorem Fits.answeredAs (fits : Fits stages now) {component : Identity} {shape : Shape}
    (hshape : (stages component).shape? = some shape) {strict : Bool}
    {answer : Except WiringError Serial}
    (hanswer : shape.slot.answer? component strict = some answer) :
    AnsweredAs program now.world component strict answer := by
  have known : (now.world.slotOf component).answer? component strict = some answer := by
    rw [fits.slotOf_of_shape hshape, hanswer]
  have provided : now.world.provideSlot component = now.world :=
    World.provideSlot_of_slot? (fits.slot?_of_shape hshape)
  refine fun args => ⟨fun depth => ?_, fun resume stack => ?_⟩
  · rw [Program.serve, Program.acquire_of_known _ known, provided]
  · rw [Program.step_of_known known, provided]

theorem Stage.eq_failed_of_state {stage : Stage} (h : stage.state = .failed) :
    ∃ life phase, stage = .failed life phase := by
  cases stage with
  | failed life phase => exact ⟨life, phase, rfl⟩
  | running life phase => cases phase <;> cases h
  | absent | ready => cases h

theorem Fits.unrequested (fits : Fits stages now) {component : Identity}
    (idle : component ∉ now.stack.components) (unfailed : now.world.state component ≠ .failed)
    (unready : now.world.state component ≠ .ready) : now.world.slot? component = none := by
  rw [fits.state_eq] at unfailed unready
  rw [fits.slot]
  cases hs : stages component with
  | absent => rfl
  | running life phase => exact absurd ((fits.mem_components_iff component).mpr ⟨_, _, hs⟩) idle
  | ready life => rw [hs] at unready; exact absurd rfl unready
  | failed life phase => rw [hs] at unfailed; exact absurd rfl unfailed

theorem run_answers (run : program.Run (.start client host) past now) (component : Identity) :
    Answers program now component := by
  have fits := run_fits run
  constructor
  case running =>
    intro h strict
    obtain ⟨life, phase, hrunning⟩ := (fits.mem_components_iff component).mp h
    exact fits.answeredAs (by rw [hrunning]; rfl) (Shape.answer?_running phase component strict)
  case failed =>
    intro h strict
    rw [fits.state_eq] at h
    obtain ⟨life, phase, hfailed⟩ := Stage.eq_failed_of_state h
    exact fits.answeredAs (by rw [hfailed]; rfl) (Shape.answer?_failed component strict)
  case ready =>
    intro h
    rw [fits.state_eq] at h
    obtain ⟨life, hready⟩ := Stage.eq_ready_of_state h
    have hshape : (stages past component).shape? = some (.ready life.serial) := by
      rw [hready]
      rfl
    refine ⟨life.serial, ?_, fits.answeredAs hshape (Shape.answer?_ready _ component false),
      fits.answeredAs hshape (Shape.answer?_ready _ component true)⟩
    change now.world.ready? component = some life.serial
    rw [World.ready?, fits.slotOf_of_shape hshape, Shape.ready?_ready]
  case fresh =>
    intro idle unfailed unready
    exact Program.runsSequence_of_unrequested (fits.unrequested idle unfailed unready)

end Runs

theorem answers_outage :
    (∃ past now, outage.Run (.start outageClient {}) past now ∧
      ("outer" ∈ now.stack.components ∧ now.world.state "inner" = .failed ∧
        now.world.state "spare" = .uninitialized) ∧
      Answers outage now "outer" ∧ Answers outage now "inner" ∧ Answers outage now "spare") ∧
    ∃ past now, outage.Run (.start outageClient {}) past now ∧
      now.world.state "outer" = .ready ∧ Answers outage now "outer" := by
  obtain ⟨past, now, run, htest⟩ := outage.exists_run_of_after 7 (.start outageClient {})
    (fun p => "outer" ∈ p.stack.components ∧ p.world.state "inner" = .failed ∧
      p.world.state "spare" = .uninitialized) (by decide +kernel)
  obtain ⟨past', now', run', htest'⟩ := outage.exists_run_of_after 8 (.start outageClient {})
    (fun p => p.world.state "outer" = .ready) (by decide +kernel)
  exact ⟨⟨past, now, run, of_decide_eq_true htest, run_answers run "outer",
    run_answers run "inner", run_answers run "spare"⟩,
    past', now', run', of_decide_eq_true htest', run_answers run' "outer"⟩

end HookWiring
