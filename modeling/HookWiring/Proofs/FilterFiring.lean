import HookWiring.Proofs.Relay
import Mathlib.Tactic.FinCases

/-!
# Passing a value through filters

A filter hands its value on from binding to binding. Each callback gets the current value with the
extra arguments behind it, as many of them as it was registered for, and what it returns is the
current value from then on. So filtering is a fold over the filters that the host has for the name
when the filter is fired. Registrations of other kinds take no part, whatever their names.
-/

namespace HookWiring

variable {B : Bodies}

def Registration.isFilter : Registration B → Bool
  | .filter _ => true
  | _ => false

theorem Host.filters_eq_of_filter {host other : Host B}
    (h : other.log.filter Registration.isFilter = host.log.filter Registration.isFilter)
    (name : String) : other.filters name = host.filters name := by
  have hpick : (fun registration : Registration B =>
      if registration.isFilter then registration.filterNamed? name else none) =
        Registration.filterNamed? name := by
    funext registration
    cases registration <;> rfl
  rw [filters, filters, ← hpick, ← List.filterMap_filter, ← List.filterMap_filter, h]

theorem Code.filter_eq (name : String) (value : Value) (extra : List Value) :
    (Code.filter name value extra : Code B (Except CallbackError Value)) =
      (Code.query (.filters name)).bind fun bindings =>
        ((Relay.filters extra).code bindings value).bind .done := by
  refine congrArg (Code.query (.filters name)).bind (funext fun bindings => ?_)
  rw [Relay.code_filters, Code.bind_pure]

/-- Passing a value through the filters `scheduled`: what is called, and what it comes to. The
result is what the last one returns, or the first failure. -/
structure FilterFiring (program : Program B) (calls : Behaviour B) (name : String) (value : Value)
    (extra : List Value) (world : World B) (scheduled : List (Binding B)) (legs : List (Leg B))
    (result : Except CallbackError Value) (after : World B) : Prop extends
    program.Fires (Code.filter name value extra) (Registration.filterNamed? name) world scheduled
      legs ((Relay.filters extra).reached value legs) result after where
  folds : (scheduled.foldlM (fun current binding => calls.call binding.callback
      ((current :: extra).take (min (1 + extra.length) binding.argCount.limit))) value).run.run
    world = (result, after)
  given : ∀ earlier leg later, legs = earlier ++ leg :: later →
    leg.args = ((Relay.filters extra).reached value earlier :: extra).take
      (min (1 + extra.length) leg.binding.argCount.limit)
  untouched : world.host.filters name = [] → legs = [] ∧ result = .ok value ∧ after = world
  /-- A host with the same filters has the same bindings, whatever else is registered with it. -/
  alone : ∀ host : Host B, host.log.filter Registration.isFilter =
    world.host.log.filter Registration.isFilter → Host.Schedule (host.filters name) scheduled
  blind : ∀ answers : Callback B → List Value → Except CallbackError Value,
    (∀ callback args before, (calls callback args before).1 = answers callback args) →
      result = scheduled.foldlM (fun current binding => answers binding.callback
        ((current :: extra).take (min (1 + extra.length) binding.argCount.limit))) value

theorem filterFiring (program : Program B) (calls : Behaviour B) (name : String) (value : Value)
    (extra : List Value) (world : World B) (scheduled : List (Binding B))
    (schedule : Host.Schedule (world.host.filters name) scheduled)
    (described : (Relay.filters extra).Described calls program scheduled value world) :
    FilterFiring program calls name value extra world scheduled
      ((Relay.filters extra).legs calls scheduled value world)
      ((Relay.filters extra).fold calls scheduled value world).1
      ((Relay.filters extra).fold calls scheduled value world).2 := by
  have hargs (current : Value) (binding : Binding B) : binding.takeArgs (current :: extra) =
      (current :: extra).take (min (1 + extra.length) binding.argCount.limit) := by
    rw [binding.takeArgs_eq, List.length_cons, Nat.add_comm]
  constructor
  case toFires =>
    refine Relay.fires id (congrFun Except.map_id _) ?_ schedule
    rw [Code.filter_eq]
    refine described.performs rfl ?_
    rw [schedule.eq_inOrder]
    rfl
  case folds =>
    have hstep : (Relay.filters extra).step calls = fun current binding =>
        calls.call binding.callback ((current :: extra).take
          (min (1 + extra.length) binding.argCount.limit)) := by
      funext current binding
      rw [← hargs]
      exact id_map _
    rw [Relay.fold, hstep]
    rfl
  case given =>
    intro earlier leg later hlegs
    rw [(Relay.args_of_legs hlegs).1]
    exact hargs _ _
  case untouched =>
    intro hnone
    have hnil : scheduled = [] := List.Perm.eq_nil (hnone ▸ schedule.perm)
    rw [hnil]
    exact ⟨rfl, rfl, rfl⟩
  case alone =>
    intro host hsame
    rw [Host.filters_eq_of_filter hsame]
    exact schedule
  case blind =>
    intro answers hanswers
    rw [Relay.fold_of_answers hanswers]
    congr 1
    funext current binding
    rw [← hargs]
    exact id_map _

section Errands

open Errand

def filteringWorld : World errandBodies where
  host := ⟨[ .filter (lists.binding 10 (.exact 1)), .action (lists.binding 0 .unbounded),
    .filter (enlists.binding 3 .unbounded),
    .shortcode "errand" (lists.binding 0 .unbounded).callback,
    .filter (lists.binding 10 (.exact 0)), .filter (lists.binding 30 .unbounded),
    .filter (refuses "busy" |>.binding 20 .unbounded), .filter (lists.binding 3 (.exact 2)) ]⟩

def errandFilters : List (Binding errandBodies) :=
  [ enlists.binding 3 .unbounded, lists.binding 3 (.exact 2), lists.binding 10 (.exact 1),
    lists.binding 10 (.exact 0), refuses "busy" |>.binding 20 .unbounded,
    lists.binding 30 .unbounded ]

theorem filterFiring_errands :
    Host.Schedule (filteringWorld.host.filters "errand") errandFilters ∧
    (Relay.filters [.bool true]).Described calls program errandFilters .null filteringWorld ∧
    ∃ legs result after,
      FilterFiring program calls "errand" .null [.bool true] filteringWorld errandFilters legs
        result after ∧
      legs.map Leg.args = [[.null, .bool true], [.list [.null, .bool true], .bool true],
        [.list [.list [.null, .bool true], .bool true]], [], [.list [], .bool true]] ∧
      result = .error (.custom "busy") ∧ (after.host.filters "errand").length = 7 := by
  have schedule : Host.Schedule (filteringWorld.host.filters "errand") errandFilters :=
    .of_stable (by unfold Host.Ascending; decide) fun priority h => by fin_cases h <;> rfl
  have described : (Relay.filters [.bool true]).Described calls program errandFilters .null
      filteringWorld :=
    Relay.described_of_returns fun binding h => by fin_cases h <;> exact returns _ _ _
  exact ⟨schedule, described, _, _, _,
    filterFiring program calls "errand" .null [.bool true] filteringWorld errandFilters schedule
      described, rfl, rfl, rfl⟩

end Errands

end HookWiring
