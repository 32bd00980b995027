import HookWiring.Proofs.Relay
import Mathlib.Tactic.FinCases

/-!
# Firing an action

An action runs the bindings that were registered for its name when it was fired. Its callbacks may
do whatever they like: they may wire components, fire hooks in turn, and register themselves once
more. As long as they return, the firing ends, since its bindings are fixed. What was registered on
the way is part of the next firing.
-/

namespace HookWiring

variable {B : Bodies}

theorem Code.fire_eq (name : String) (args : List Value) :
    (Code.fire name args : Code B (Except CallbackError Nat)) =
      (Code.query (.actions name)).bind fun bindings =>
        ((Relay.actions args).code bindings ()).bind fun reached =>
          .done (reached.map fun _ => bindings.length) := by
  refine congrArg (Code.query (.actions name)).bind (funext fun bindings => ?_)
  rw [Relay.code_actions]
  refine congrArg (Code.runEach args bindings).bind (funext fun reached => ?_)
  cases reached <;> rfl

/-- Firing an action whose bindings are `scheduled`: what is called, and what the firing comes to.
The result is the number of the bindings, or the first failure. -/
structure ActionFiring (program : Program B) (name : String) (args : List Value) (world : World B)
    (scheduled : List (Binding B)) (legs : List (Leg B)) (result : Except CallbackError Nat)
    (after : World B) : Prop extends
    program.Fires (Code.fire name args) (Registration.actionNamed? name) world scheduled legs
      scheduled.length result after where
  given : ∀ leg ∈ legs, leg.args = args.take (min args.length leg.binding.argCount.limit)

theorem actionFiring (program : Program B) (calls : Behaviour B) (name : String)
    (args : List Value) (world : World B) (scheduled : List (Binding B))
    (schedule : Host.Schedule (world.host.actions name) scheduled)
    (described : (Relay.actions args).Described calls program scheduled () world) :
    ActionFiring program name args world scheduled
      ((Relay.actions args).legs calls scheduled () world)
      (((Relay.actions args).fold calls scheduled () world).1.map fun _ => scheduled.length)
      ((Relay.actions args).fold calls scheduled () world).2 := by
  constructor
  case toFires =>
    refine Relay.fires (fun _ => scheduled.length) rfl ?_ schedule
    rw [Code.fire_eq]
    refine described.performs rfl ?_
    rw [schedule.eq_inOrder]
    rfl
  case given =>
    intro leg hleg
    obtain ⟨earlier, later, hlegs⟩ := List.append_of_mem hleg
    rw [(Relay.args_of_legs hlegs).1]
    exact leg.binding.takeArgs_eq args

section Errands

open Errand

def errandWorld : World errandBodies where
  host := ⟨[ .action (enlists.binding 10 (.exact 1)), .filter (lists.binding 5 .unbounded),
    .action (lists.binding (-5) (.exact 0)),
    .command "errand" (lists.binding 0 .unbounded).callback,
    .action (lists.binding 10 .unbounded), .action (refuses "busy" |>.binding 20 .unbounded),
    .action (lists.binding 30 .unbounded) ]⟩

def errandActions : List (Binding errandBodies) :=
  [ lists.binding (-5) (.exact 0), enlists.binding 10 (.exact 1), lists.binding 10 .unbounded,
    refuses "busy" |>.binding 20 .unbounded, lists.binding 30 .unbounded ]

theorem actionFiring_errands :
    Host.Schedule (errandWorld.host.actions "errand") errandActions ∧
    (Relay.actions [.null, .bool true]).Described calls program errandActions () errandWorld ∧
    ∃ legs result after,
      ActionFiring program "errand" [.null, .bool true] errandWorld errandActions legs result
        after ∧
      legs.map Leg.answer = [.ok (.list []), .ok (.list [.null]), .ok (.list [.null, .bool true]),
        .error (.custom "busy")] ∧
      result = .error (.custom "busy") ∧ (after.host.actions "errand").length = 6 := by
  have schedule : Host.Schedule (errandWorld.host.actions "errand") errandActions :=
    .of_stable (by unfold Host.Ascending; decide) fun priority h => by fin_cases h <;> rfl
  have described : (Relay.actions [.null, .bool true]).Described calls program errandActions ()
      errandWorld :=
    Relay.described_of_returns fun binding h => by fin_cases h <;> exact returns _ _ _
  exact ⟨schedule, described, _, _, _,
    actionFiring program calls "errand" [.null, .bool true] errandWorld errandActions schedule
      described, rfl, rfl, rfl⟩

end Errands

end HookWiring
