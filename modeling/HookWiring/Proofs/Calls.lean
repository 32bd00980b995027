import HookWiring.Proofs.History

/-!
# Calls of the code of components

The code of a sequence is called at three kinds of steps, and it returns at three or panics. The
stages that a component has come to tell which of the calls were made and which have returned:
every call but the last one has, and none is made twice.
-/

namespace HookWiring

variable {B : Bodies} {α : Type}

def Program.code (program : Program B) (life : Life) : (phase : Phase) → Code B (phase.Result B)
  | .constructing => (program.component life.component).construct life.serial
  | .hooking => (program.component life.component).hooks life.serial
  | .initialising => (program.component life.component).init life.serial life.args

namespace Point

def call? : Point B α → Option (Life × Phase)
  | ⟨.ask (.acquire component args strict) _, _, world⟩ =>
    match (world.slotOf component).answer? component strict with
    | some _ => none
    | none => some (⟨component, world.instances.length + 1, args⟩, .constructing)
  | ⟨.done _, .sequence life .constructing _ _, _⟩ => some (life, .hooking)
  | ⟨.done _, .sequence life .hooking _ _, _⟩ => some (life, .initialising)
  | _ => none

def return? : Point B α → Option (Life × Phase)
  | ⟨.done _, .sequence life phase _ _, _⟩ => some (life, phase)
  | _ => none

def failing? : Point B α → Option (Life × Phase)
  | ⟨.panic _, .sequence life phase _ _, _⟩ => some (life, phase)
  | _ => none

end Point

namespace Phase

def upTo : Phase → List Phase
  | .constructing => [.constructing]
  | .hooking => [.constructing, .hooking]
  | .initialising => [.constructing, .hooking, .initialising]

def milestone (life : Life) : Phase → Milestone
  | .constructing => .constructing life.serial
  | .hooking => .hooking
  | .initialising => .initialising life.args

theorem upTo_isPrefix (phase : Phase) : phase.upTo <+: Phase.initialising.upTo := by
  cases phase <;> decide

end Phase

namespace Stage

def call? : Stage → Option (Life × Phase)
  | .running life phase => some (life, phase)
  | _ => none

def return? : Stage → Option (Life × Phase)
  | .running life .hooking => some (life, .constructing)
  | .running life .initialising => some (life, .hooking)
  | .ready life => some (life, .initialising)
  | _ => none

def failing? : Stage → Option (Life × Phase)
  | .failed life phase => some (life, phase)
  | _ => none

def calls : Stage → List (Life × Phase)
  | .absent => []
  | .running life phase => phase.upTo.map fun p => (life, p)
  | .ready life => Phase.initialising.upTo.map fun p => (life, p)
  | .failed life phase => phase.upTo.map fun p => (life, p)

def returns : Stage → List (Life × Phase)
  | .absent => []
  | .running life phase => phase.upTo.dropLast.map fun p => (life, p)
  | .ready life => Phase.initialising.upTo.map fun p => (life, p)
  | .failed life phase => phase.upTo.dropLast.map fun p => (life, p)

theorem Next.calls_eq {s t : Stage} (next : Next s t) : t.calls = s.calls ++ t.call?.toList := by
  cases next with
  | fails life phase => exact (List.append_nil _).symm
  | _ => rfl

theorem Next.returns_eq {s t : Stage} (next : Next s t) :
    t.returns = s.returns ++ t.return?.toList := by
  cases next with
  | fails life phase => exact (List.append_nil _).symm
  | _ => rfl

theorem Next.failing?_eq {s t : Stage} (next : Next s t) :
    t.failing?.toList = s.failing?.toList ++ t.failing?.toList := by
  cases next <;> rfl

end Stage

namespace Point

theorem call?_eq (p : Point B α) : p.call? = p.change?.bind fun change => change.2.call? := by
  obtain ⟨code, stack, world⟩ := p
  cases code with
  | done result =>
    cases stack with
    | sequence life phase resume below => cases phase <;> rfl
    | client | call => rfl
  | panic message => cases stack <;> rfl
  | ask request resume =>
    cases request with
    | acquire component args strict =>
      simp only [call?, change?]
      cases (world.slotOf component).answer? component strict <;> rfl
    | query | call => rfl

theorem return?_eq (p : Point B α) :
    p.return? = p.change?.bind fun change => change.2.return? := by
  obtain ⟨code, stack, world⟩ := p
  cases code with
  | done result =>
    cases stack with
    | sequence life phase resume below => cases phase <;> rfl
    | client | call => rfl
  | panic message => cases stack <;> rfl
  | ask request resume =>
    cases request with
    | acquire component args strict =>
      simp only [return?, change?]
      cases (world.slotOf component).answer? component strict <;> rfl
    | query | call => rfl

theorem failing?_eq (p : Point B α) :
    p.failing? = p.change?.bind fun change => change.2.failing? := by
  obtain ⟨code, stack, world⟩ := p
  cases code with
  | done result =>
    cases stack with
    | sequence life phase resume below => cases phase <;> rfl
    | client | call => rfl
  | panic message => cases stack <;> rfl
  | ask request resume =>
    cases request with
    | acquire component args strict =>
      simp only [failing?, change?]
      cases (world.slotOf component).answer? component strict <;> rfl
    | query | call => rfl

end Point

section Steps

variable {program : Program B} {stages : Identity → Stage} {p q : Point B α}

theorem Program.Step.call?_eq (step : program.Step p q) {life : Life} {phase : Phase}
    (h : p.call? = some (life, phase)) :
    ∃ ρ resume, ∃ below : Stack B α ρ, ∃ world,
      q = ⟨program.code life phase, .sequence life phase resume below, world⟩ := by
  cases step with
  | answer component args strict resume stack world answer known =>
    simp [Point.call?, known] at h
  | begins component args strict resume stack world unknown =>
    simp only [Point.call?, unknown, Option.some.injEq, Prod.mk.injEq] at h
    obtain ⟨rfl, rfl⟩ := h
    exact ⟨_, resume, stack, _, rfl⟩
  | hooks other resume below world => cases h; exact ⟨_, resume, below, _, rfl⟩
  | inits other reflection resume below world => cases h; exact ⟨_, resume, below, _, rfl⟩
  | query | calls | finishes | returns | fails | escapes => cases h

/-- What a step adds to a view of the stages that grows by an observation of each stage. -/
theorem Program.Step.observed_eq {τ : Type} (step : program.Step p q) (fits : Fits stages p)
    {observe : Point B α → Option (Life × τ)} {seen : Stage → Option (Life × τ)}
    {view : Stage → List (Life × τ)}
    (hobserve : ∀ p : Point B α, observe p = p.change?.bind fun change => seen change.2)
    (howner : ∀ stage life tag, seen stage = some (life, tag) → stage.life? = some life)
    (hview : ∀ s t, Stage.Next s t → view t = view s ++ (seen t).toList)
    (component : Identity) :
    view (p.record stages component) =
      view (stages component) ++ observed observe component [p] := by
  rcases step.effect fits with quiet | ⟨other, stage, turn⟩
  · rw [Point.record_of_none quiet.change, observed_of_none (by rw [hobserve, quiet.change]; rfl),
      List.append_nil]
  · have hseen : observe p = seen stage := by rw [hobserve, turn.change]; rfl
    rw [Point.record_of_some turn.change, Function.update_apply]
    cases hs : seen stage with
    | none =>
      rw [observed_of_none (hseen.trans hs), List.append_nil]
      split
      · next heq => rw [heq, hview _ _ turn.next, hs]; exact List.append_nil _
      · rfl
    | some call =>
      have hcomponent := (turn.life call.1 (howner _ _ _ hs)).1
      rw [observed_of_some (hseen.trans hs), hcomponent]
      by_cases ho : component = other
      · rw [if_pos ho, if_pos ho.symm, ho, hview _ _ turn.next, hs]; rfl
      · rw [if_neg ho, if_neg (Ne.symm ho), List.append_nil]

end Steps

section Runs

variable {program : Program B} {client : Code B α} {host : Host B}
variable {past : List (Point B α)} {now : Point B α}

theorem run_calls (run : program.Run (.start client host) past now) (component : Identity) :
    observed Point.call? component past = (stages past component).calls := by
  induction run with
  | nil => rfl
  | snoc run step ih =>
    rw [stages_snoc, observed_append, ih]
    refine (step.observed_eq (run_fits run) Point.call?_eq ?_ (fun _ _ => Stage.Next.calls_eq)
      component).symm
    intro stage life phase h
    cases stage <;> cases h
    rfl

theorem run_returns (run : program.Run (.start client host) past now) (component : Identity) :
    observed Point.return? component past = (stages past component).returns := by
  induction run with
  | nil => rfl
  | snoc run step ih =>
    rw [stages_snoc, observed_append, ih]
    refine (step.observed_eq (run_fits run) Point.return?_eq ?_
      (fun _ _ => Stage.Next.returns_eq) component).symm
    intro stage life phase h
    cases stage with
    | running other phase => cases phase <;> cases h <;> rfl
    | ready other => cases h; rfl
    | absent | failed => cases h

theorem run_failing (run : program.Run (.start client host) past now) (component : Identity) :
    observed Point.failing? component past = (stages past component).failing?.toList := by
  induction run with
  | nil => rfl
  | snoc run step ih =>
    rw [stages_snoc, observed_append, ih]
    refine (step.observed_eq (run_fits run) Point.failing?_eq ?_
      (fun _ _ => Stage.Next.failing?_eq) component).symm
    intro stage life phase h
    cases stage <;> cases h
    rfl

end Runs

end HookWiring
