import HookWiring.Proofs.ApiFiring
import HookWiring.Proofs.TableHistory
import Mathlib.Data.List.Induction

/-!
# Histories of route metadata

Routes are added and replaced and fields are set, in any order, and the routes are registered in
between as often as a component likes. At every point the table holds the routes that were given
since it was last replaced, and a registration hands on the table of that point, under the path that
the fields of that point make.
-/

namespace HookWiring

variable {B : Bodies}

namespace ApiChange

def given : ApiChange → List (String × Value)
  | .set _ _ => []
  | .add basePath config => [(basePath, config)]
  | .replace routes => routes

def Replaces (change : ApiChange) : Prop :=
  ∃ routes, change = .replace routes

end ApiChange

/-- What changes have given to the table since they last replaced it, that change included. -/
inductive SinceReplaced : List ApiChange → List (String × Value) → Prop where
  | never {changes : List ApiChange} (kept : ∀ change ∈ changes, ¬change.Replaces) :
    SinceReplaced changes (changes.flatMap ApiChange.given)
  | since {earlier later : List ApiChange} (routes : List (String × Value))
    (kept : ∀ change ∈ later, ¬change.Replaces) :
    SinceReplaced (earlier ++ .replace routes :: later)
      (routes ++ later.flatMap ApiChange.given)

theorem exists_sinceReplaced (changes : List ApiChange) :
    ∃ given, SinceReplaced changes given := by
  induction changes using List.reverseRecOn with
  | nil => exact ⟨_, .never (by simp)⟩
  | append_singleton changes change ih =>
    by_cases hlast : change.Replaces
    · obtain ⟨routes, rfl⟩ := hlast
      exact ⟨_, .since routes (by simp)⟩
    · have hkept {later : List ApiChange} (kept : ∀ change ∈ later, ¬change.Replaces) :
          ∀ other ∈ later ++ [change], ¬other.Replaces := by
        intro other hmem
        rcases List.mem_append.mp hmem with hmem | hmem
        · exact kept other hmem
        · rwa [List.mem_singleton.mp hmem]
      obtain ⟨given, hgiven⟩ := ih
      cases hgiven with
      | never kept => exact ⟨_, .never (hkept kept)⟩
      | since routes kept =>
        rw [List.append_assoc, List.cons_append]
        exact ⟨_, .since routes (hkept kept)⟩

namespace Api

section Changes

variable {api : Api} {given : List (String × Value)}

theorem holds_apply {change : ApiChange} (holds : api.routes.Holds given)
    (kept : ¬change.Replaces) : (api.apply change).routes.Holds (given ++ change.given) := by
  cases change with
  | set field text =>
    rw [apply, routes_setField, ApiChange.given, List.append_nil]
    exact holds
  | add basePath config => exact holds.insert basePath config
  | replace routes => exact absurd ⟨routes, rfl⟩ kept

theorem holds_foldl_apply {changes : List ApiChange} (holds : api.routes.Holds given)
    (kept : ∀ change ∈ changes, ¬change.Replaces) :
    (changes.foldl apply api).routes.Holds (given ++ changes.flatMap ApiChange.given) :=
  Table.Holds.foldl routes apply ApiChange.given
    (fun change hmem _ _ h => holds_apply h (kept change hmem)) holds

theorem holds_of_sinceReplaced {changes : List ApiChange} (since : SinceReplaced changes given) :
    (changes.foldl apply {}).routes.Holds given := by
  cases since with
  | never kept =>
    have hempty : ({} : Api).routes.Holds [] := Table.holds_empty
    exact holds_foldl_apply hempty kept
  | since routes kept =>
    rw [List.foldl_append, List.foldl_cons]
    exact holds_foldl_apply (Table.holds_ofList routes) kept

theorem field_apply {change : ApiChange} (table : ∀ field text, change ≠ .set field text)
    (field : ApiField) : (api.apply change).field field = api.field field := by
  cases change with
  | set other text => exact absurd rfl (table other text)
  | add | replace => cases field <;> rfl

end Changes

inductive Call where
  | change (change : ApiChange)
  | register

namespace Call

def change? : Call → Option ApiChange
  | .change update => some update
  | .register => none

def code (serial : Serial) : Call → Code B (Option Nat)
  | .change update => (Code.query (.change serial update)).bind fun _ => .done none
  | .register => (Code.registerRoutes serial).bind fun count => .done (some count)

end Call

end Api

def Code.callEach (serial : Serial) : List Api.Call → Code B (List (Option Nat))
  | [] => .done []
  | call :: more => (call.code serial).bind fun count =>
    (callEach serial more).bind fun counts => .done (count :: counts)

namespace World

def count? (serial : Serial) (world : World B) : Api.Call → Option Nat
  | .change _ => none
  | .register => some (world.metadata serial).mounted.length

def called (serial : Serial) (world : World B) : Api.Call → World B
  | .change change => world.changeApi serial (·.apply change)
  | .register => world.mountRoutes serial

def calledAll (serial : Serial) (world : World B) (calls : List Api.Call) : World B :=
  calls.foldl (World.called serial) world

def counts (serial : Serial) (world : World B) : List Api.Call → List (Option Nat)
  | [] => []
  | call :: more => world.count? serial call :: (world.called serial call).counts serial more

section Calls

variable {life : Life}

theorem calledAll_concat (serial : Serial) (world : World B) (calls : List Api.Call)
    (call : Api.Call) : world.calledAll serial (calls ++ [call]) =
      (world.calledAll serial calls).called serial call :=
  List.foldl_concat ..

theorem counts_concat (serial : Serial) (world : World B) (calls : List Api.Call)
    (call : Api.Call) : world.counts serial (calls ++ [call]) =
      world.counts serial calls ++ [(world.calledAll serial calls).count? serial call] := by
  induction calls generalizing world with
  | nil => rfl
  | cons first more ih => exact congrArg (world.count? serial first :: ·) (ih _)

theorem run_call (program : Program B) (depth : Nat) (serial : Serial) (world : World B)
    (call : Api.Call) : (call.code serial).run (program.serve depth) world =
      .returned (world.count? serial call) (world.called serial call) := by
  cases call with
  | change change => exact Program.run_query_bind depth _ _ world
  | register =>
    rw [Api.Call.code, Code.run_bind, Program.run_registerRoutes]
    rfl

theorem run_callEach (program : Program B) (depth : Nat) (serial : Serial) (world : World B)
    (calls : List Api.Call) : (Code.callEach serial calls).run (program.serve depth) world =
      .returned (world.counts serial calls) (world.calledAll serial calls) := by
  induction calls generalizing world with
  | nil => rfl
  | cons call more ih =>
    rw [Code.callEach, Code.run_bind, run_call, Outcome.bind_returned, Code.run_bind, ih]
    rfl

theorem Bears.called {world : World B} (bears : world.Bears life) (call : Api.Call) :
    (world.called life.serial call).Bears life := by
  cases call with
  | change change =>
    have hcomponents : (world.called life.serial (.change change)).instances.map
        Instance.component = world.instances.map Instance.component :=
      world.components_modifyInstance life.serial fun _ => rfl
    exact bears.mono (hcomponents ▸ List.prefix_rfl)
  | register => exact bears

theorem Bears.metadata_called {world : World B} (bears : world.Bears life) (call : Api.Call) :
    (world.called life.serial call).metadata life.serial =
      call.change?.elim (world.metadata life.serial) (world.metadata life.serial).apply := by
  cases call with
  | change change => exact congrArg Instance.api (instanceAt_changeApi bears _)
  | register => rfl

theorem Bears.metadata_calledAll {world : World B} (bears : world.Bears life)
    (calls : List Api.Call) : (world.calledAll life.serial calls).metadata life.serial =
      (calls.filterMap Api.Call.change?).foldl Api.apply (world.metadata life.serial) := by
  induction calls generalizing world with
  | nil => rfl
  | cons call more ih =>
    refine (ih (bears.called call)).trans ?_
    rw [bears.metadata_called]
    cases call <;> rfl

theorem Bears.calledAll {world : World B} (bears : world.Bears life) (calls : List Api.Call) :
    (world.calledAll life.serial calls).Bears life := by
  induction calls generalizing world with
  | nil => exact bears
  | cons call more ih => exact ih (bears.called call)

end Calls

end World

/--
Calls on the metadata of an instance, in any order: `after` gives the worlds that calls lead to, and
`counts` their results.
-/
structure RouteHistory (program : Program B) (serial : Serial) (world : World B)
    (after : List Api.Call → World B) (counts : List Api.Call → List (Option Nat)) : Prop where
  runs : ∀ (calls : List Api.Call) (depth : Nat),
    (Code.callEach serial calls).run (program.serve depth) world =
      .returned (counts calls) (after calls)
  since : ∀ calls : List Api.Call, ∃ given, SinceReplaced (calls.filterMap Api.Call.change?) given
  table : ∀ (calls : List Api.Call) (given : List (String × Value)),
    SinceReplaced (calls.filterMap Api.Call.change?) given →
      ((after calls).metadata serial).routes.Holds given
  fieldSet : ∀ (calls : List Api.Call) (field : ApiField) (text : String),
    let next := (after (calls ++ [.change (.set field text)])).metadata serial
    next.routes = ((after calls).metadata serial).routes ∧ next.field field = text ∧
      ∀ other, field ≠ other → next.field other = ((after calls).metadata serial).field other
  tableChanged : ∀ (calls : List Api.Call) (change : ApiChange),
    (∀ field text, change ≠ .set field text) → ∀ field : ApiField,
      ((after (calls ++ [.change change])).metadata serial).field field =
        ((after calls).metadata serial).field field
  unannounced : ∀ (calls : List Api.Call) (change : ApiChange),
    (after (calls ++ [.change change])).host = (after calls).host
  registered : ∀ calls : List Api.Call, let api := (after calls).metadata serial
    api.space ≠ "" → api.version ≠ "" →
      (after (calls ++ [.register])).host.log = (after calls).host.log ++
        api.routes.entries.map (fun (basePath, config) => .route
          { mount := api.space ++ "/v" ++ api.version ++ api.subpath, basePath, config }) ∧
      counts (calls ++ [.register]) = counts calls ++ [some api.routes.entries.length]
  skipped : ∀ calls : List Api.Call, let api := (after calls).metadata serial
    api.space = "" ∨ api.version = "" →
      (after (calls ++ [.register])).host.log = (after calls).host.log ∧
      counts (calls ++ [.register]) = counts calls ++ [some 0]
  untouched : ∀ calls : List Api.Call,
    (after (calls ++ [.register])).instances = (after calls).instances

theorem routeHistory (program : Program B) (life : Life) (world : World B)
    (bears : world.Bears life) (fresh : world.metadata life.serial = {}) :
    RouteHistory program life.serial world (world.calledAll life.serial)
      (world.counts life.serial) := by
  have hnext (calls : List Api.Call) (change : ApiChange) :
      (world.calledAll life.serial (calls ++ [.change change])).metadata life.serial =
        ((world.calledAll life.serial calls).metadata life.serial).apply change := by
    rw [World.calledAll_concat, (bears.calledAll calls).metadata_called]
    rfl
  constructor
  case runs => exact fun calls depth => World.run_callEach program depth life.serial world calls
  case since => exact fun calls => exists_sinceReplaced _
  case table =>
    intro calls given hgiven
    rw [bears.metadata_calledAll, fresh]
    exact Api.holds_of_sinceReplaced hgiven
  case fieldSet =>
    intro calls field text next
    have hset : next = ((world.calledAll life.serial calls).metadata life.serial).setField field
        text := hnext calls (.set field text)
    rw [hset]
    exact ⟨Api.routes_setField _ field text, Api.field_setField_self _ field text,
      fun other hne => Api.field_setField_of_ne _ hne text⟩
  case tableChanged =>
    intro calls change htable field
    rw [hnext]
    exact Api.field_apply htable field
  case unannounced =>
    intro calls change
    rw [World.calledAll_concat]
    rfl
  case registered =>
    intro calls api hspace hversion
    have hmounted := Api.mounted_of_named hspace hversion
    rw [World.calledAll_concat, World.counts_concat]
    refine ⟨?_, ?_⟩
    · rw [World.called, World.mountRoutes, Host.log_register, hmounted, List.map_map]
      rfl
    · rw [World.count?, hmounted, List.length_map]
  case skipped =>
    intro calls api hunnamed
    have hmounted := Api.mounted_of_unnamed hunnamed
    rw [World.calledAll_concat, World.counts_concat]
    refine ⟨?_, ?_⟩
    · rw [World.called, World.mountRoutes, Host.log_register, hmounted]
      exact List.append_nil _
    · rw [World.count?, hmounted]
      rfl
  case untouched =>
    intro calls
    rw [World.calledAll_concat]
    rfl

def shelf : World widgetBodies where
  instances := [{ component := "Widget" }]

def shelving : List Api.Call :=
  [.register, .change (.set .space "acme"), .change (.add "/old" .null), .register,
    .change (.replace [("/x", .ofNat 1), ("/y", .ofNat 2), ("/x", .ofNat 3)]),
    .change (.set .version "2"), .change (.add "/y" (.ofNat 4)), .register]

theorem routeHistory_shelving :
    shelf.Bears ⟨"Widget", 1, .null⟩ ∧ shelf.metadata 1 = {} ∧
    ∃ (after : List Api.Call → World widgetBodies) (counts : List Api.Call → List (Option Nat)),
      RouteHistory (widgetProgram []) 1 shelf after counts ∧
      counts shelving = [some 0, none, none, some 1, none, none, none, some 2] ∧
      (after shelving).host.routes =
        [{ mount := "acme/v1", basePath := "/old", config := .null },
          { mount := "acme/v2", basePath := "/x", config := .ofNat 3 },
          { mount := "acme/v2", basePath := "/y", config := .ofNat 4 }] := by
  have bears : shelf.Bears ⟨"Widget", 1, .null⟩ := ⟨Nat.one_pos, rfl⟩
  have fresh : shelf.metadata 1 = {} := rfl
  have history := routeHistory (widgetProgram []) ⟨"Widget", 1, .null⟩ shelf bears fresh
  exact ⟨bears, fresh, _, _, history, by rfl, by rfl⟩

end HookWiring
