import HookWiring.Proofs.Evaluation

/-!
# Runs on top of a stack

What code does depends on the world and on its own requests, and not on what waits for its result.
So a run of a client can be put on top of any stack. From the height of the code that calls a
callback, the whole run of the callback is two exchanges: the call and the answer. All that the
callback does in between happens higher up, even where it fires hooks in turn.
-/

namespace HookWiring

variable {B : Bodies} {α ω ρ : Type}

namespace Stack

def height : {ρ : Type} → Stack B α ρ → Nat
  | _, .client => 0
  | _, .sequence _ _ _ below => below.height + 1
  | _, .call _ below => below.height + 1

def onto : {ρ : Type} → Stack B α ρ → Stack B ω α → Stack B ω ρ
  | _, .client, lower => lower
  | _, .sequence life phase resume below, lower => .sequence life phase resume (below.onto lower)
  | _, .call resume below, lower => .call resume (below.onto lower)

@[simp] theorem height_onto (stack : Stack B α ρ) (lower : Stack B ω α) :
    (stack.onto lower).height = stack.height + lower.height := by
  induction stack with
  | client => exact (Nat.zero_add _).symm
  | sequence life phase resume below ih => simp only [onto, height, ih]; omega
  | call resume below ih => simp only [onto, height, ih]; omega

end Stack

inductive Exchange (B : Bodies) where
  | called (callback : Callback B) (args : List Value)
  | answered (answer : Except CallbackError Value)
  | panicked (message : String)

namespace Point

def onto (p : Point B α) (lower : Stack B ω α) : Point B ω :=
  ⟨p.code, p.stack.onto lower, p.world⟩

def exchange? (height : Nat) : Point B α → Option (Exchange B)
  | ⟨.ask (.call callback args) _, stack, _⟩ =>
    if stack.height = height then some (.called callback args) else none
  | ⟨.done answer, .call _ below, _⟩ =>
    if below.height = height then some (.answered answer) else none
  | ⟨.panic message, .call _ below, _⟩ =>
    if below.height = height then some (.panicked message) else none
  | _ => none

end Point

def exchanges (height : Nat) (past : List (Point B α)) : List (Exchange B) :=
  past.filterMap (Point.exchange? height)

namespace Program

variable {program : Program B}

theorem Step.onto {p q : Point B α} (step : program.Step p q) (lower : Stack B ω α) :
    program.Step (p.onto lower) (q.onto lower) := by
  cases step with
  | query query resume stack world => exact .query query resume _ world
  | answer component args strict resume stack world answer known =>
    exact .answer component args strict resume _ world answer known
  | begins component args strict resume stack world unknown =>
    exact .begins component args strict resume _ world unknown
  | calls callback args resume stack world => exact .calls callback args resume _ world
  | hooks life resume below world => exact .hooks life resume _ world
  | inits life reflection resume below world => exact .inits life reflection resume _ world
  | finishes life resume below world => exact .finishes life resume _ world
  | returns answer resume below world => exact .returns answer resume _ world
  | fails message life phase resume below world => exact .fails message life phase resume _ world
  | escapes message resume below world => exact .escapes message resume _ world

theorem Run.onto {start now : Point B α} {past : List (Point B α)}
    (run : program.Run start past now) (lower : Stack B ω α) :
    program.Run (start.onto lower) (past.map fun p => p.onto lower) (now.onto lower) := by
  induction run with
  | nil => exact .nil
  | snoc _ step ih =>
    rw [List.map_append]
    exact ih.snoc (step.onto lower)

/-- A client on top of a call makes all of its exchanges above the code that has called. -/
theorem Step.exchange?_onto {p q : Point B (Except CallbackError Value)} (step : program.Step p q)
    (resume : Except String (Except CallbackError Value) → Code B ρ) (lower : Stack B ω ρ) :
    (p.onto (.call resume lower)).exchange? lower.height = none := by
  have above {τ : Type} (stack : Stack B (Except CallbackError Value) τ) :
      (stack.onto (.call resume lower)).height ≠ lower.height := by
    simp only [Stack.height_onto, Stack.height]
    omega
  cases step with
  | calls callback args resume stack world => exact if_neg (above stack)
  | returns answer resume below world => exact if_neg (above below)
  | escapes message resume below world => exact if_neg (above below)
  | query | answer | begins | hooks | inits | finishes | fails => rfl

theorem Run.exchanges_onto {start now : Point B (Except CallbackError Value)}
    {past : List (Point B (Except CallbackError Value))} (run : program.Run start past now)
    (resume : Except String (Except CallbackError Value) → Code B ρ) (lower : Stack B ω ρ) :
    exchanges lower.height (past.map fun p => p.onto (.call resume lower)) = [] := by
  induction run with
  | nil => rfl
  | snoc _ step ih =>
    rw [List.map_append, exchanges, List.filterMap_append, ← exchanges, ih, List.map_singleton,
      List.filterMap_cons_none (step.exchange?_onto resume lower)]
    rfl

variable (program) in
def Returns (callback : Callback B) (args : List Value) (world : World B)
    (result : Except CallbackError Value × World B) : Prop :=
  ∃ depth, (program.invoke callback args).run (program.serve depth) world =
    .returned result.1 result.2

theorem Returns.exists_run {callback : Callback B} {args : List Value} {world : World B}
    {result : Except CallbackError Value × World B}
    (returns : program.Returns callback args world result)
    (resume : Except String (Except CallbackError Value) → Code B ρ) (stack : Stack B α ρ) :
    ∃ past, program.Run ⟨.ask (.call callback args) resume, stack, world⟩ past
        ⟨resume (.ok result.1), stack, result.2⟩ ∧
      exchanges stack.height past = [.called callback args, .answered result.1] := by
  obtain ⟨depth, hrun⟩ := returns
  obtain ⟨past, run⟩ := Run.nil.extend (leads_of_run hrun)
  rw [List.nil_append] at run
  have inside := (run.onto (.call resume stack)).snoc (.returns result.1 resume stack result.2)
  refine ⟨_, inside.cons (.calls callback args resume stack world), ?_⟩
  have hcall : (⟨.ask (.call callback args) resume, stack, world⟩ : Point B α).exchange?
      stack.height = some (.called callback args) := if_pos rfl
  have hanswer : (⟨.done result.1, .call resume stack, result.2⟩ : Point B α).exchange?
      stack.height = some (.answered result.1) := if_pos rfl
  rw [exchanges, List.filterMap_cons_some hcall, List.filterMap_append, ← exchanges,
    run.exchanges_onto, List.nil_append]
  exact congrArg _ (List.filterMap_cons_some hanswer)

end Program

end HookWiring
