import HookWiring.Proofs.TableHistory
import HookWiring.System.Sequence
import HookWiring.Text.LetterCase

/-!
# Setters and class directives

A reflection is assembled from methods, setters and the exposition of an API, in any order and each
as often as one likes. Its table has one setter for each key up to ASCII case, the last that was
registered. Class directives call the setters of their keys in document order.
-/

namespace HookWiring

variable {B : Bodies}

def SameKey (key other : String) : Prop :=
  asciiLower key = asciiLower other

theorem asciiLower_asciiLower (key : String) : asciiLower (asciiLower key) = asciiLower key := by
  have hlower : Char.toLower ∘ Char.toLower = Char.toLower :=
    funext Text.toLower_toLower
  rw [asciiLower, asciiLower, String.toList_ofList, List.map_map, hlower]

namespace Reflection

def Part.registered : Part B → List (String × Setter B)
  | .method _ => []
  | .setter key body => [(key, body)]
  | .api =>
    [("namespace", .field .space), ("version", .field .version), ("subspace", .field .subspace)]

/-- The setter was registered for the key, and no later one was. -/
def LastRegistered (registered : List (String × Setter B)) (key : String)
    (setter : Setter B) : Prop :=
  ∃ before written after, registered = before ++ (written, setter) :: after ∧
    SameKey key written ∧ ∀ entry ∈ after, ¬SameKey key entry.1

/-- The code that directives run, call by call: each calls the setter that was last registered for
its key, with its own value. -/
inductive Called (program : Program B) (registered : List (String × Setter B)) (serial : Serial) :
    List Directive.Api → List (Code B Unit) → Prop where
  | nil : Called program registered serial [] []
  | field {directive : Directive.Api} {more : List Directive.Api} {field : ApiField}
      {calls : List (Code B Unit)}
      (last : LastRegistered registered directive.key (.field field))
      (rest : Called program registered serial more calls) :
      Called program registered serial (directive :: more)
        (.query (.change serial (.set field directive.value)) :: calls)
  | custom {directive : Directive.Api} {more : List Directive.Api} {body : B.Setter}
      {calls : List (Code B Unit)}
      (last : LastRegistered registered directive.key (.custom body))
      (rest : Called program registered serial more calls) :
      Called program registered serial (directive :: more)
        (program.setter body serial directive.value :: calls)
  | skip {directive : Directive.Api} {more : List Directive.Api} {calls : List (Code B Unit)}
      (unknown : ∀ entry ∈ registered, ¬SameKey directive.key entry.1)
      (rest : Called program registered serial more calls) :
      Called program registered serial (directive :: more) calls

def lowered (entry : String × Setter B) : String × Setter B :=
  (asciiLower entry.1, entry.2)

section Registrations

variable {registered : List (String × Setter B)} {key : String} {setter : Setter B}

theorem mem_keys_lowered_iff : asciiLower key ∈ (registered.map lowered).map Prod.fst ↔
    ∃ entry ∈ registered, SameKey key entry.1 := by
  rw [List.map_map, List.mem_map]
  simp only [Function.comp_apply, lowered, SameKey, eq_comm]

theorem lastGiven_lowered_iff : LastGiven (registered.map lowered) (asciiLower key) setter ↔
    LastRegistered registered key setter := by
  constructor
  · rintro ⟨before, after, hregistered, hafter⟩
    obtain ⟨before, behind, rfl, rfl, hbehind⟩ := List.map_eq_append_iff.mp hregistered
    obtain ⟨⟨written, found⟩, after, rfl, hwritten, rfl⟩ := List.map_eq_cons_iff.mp hbehind
    obtain ⟨hkey, rfl⟩ := Prod.mk.inj hwritten
    refine ⟨before, written, after, rfl, hkey.symm, ?_⟩
    intro entry hmem hsame
    exact hafter (mem_keys_lowered_iff.mpr ⟨entry, hmem, hsame⟩)
  · rintro ⟨before, written, after, rfl, hkey, hafter⟩
    refine ⟨before.map lowered, after.map lowered, ?_, ?_⟩
    · rw [List.map_append, List.map_cons, lowered, ← hkey]
    · intro hmem
      obtain ⟨entry, hentry, hsame⟩ := mem_keys_lowered_iff.mp hmem
      exact hafter entry hentry hsame

end Registrations

section Assembly

variable {reflection : Reflection B} {registered : List (String × Setter B)}

theorem holds_setters_add {given : List (String × Setter B)}
    (holds : reflection.setters.Holds given) (part : Part B) :
    (reflection.add part).setters.Holds (given ++ part.registered.map lowered) := by
  cases part with
  | method => simpa [add, addMethod, Part.registered] using holds
  | setter key setter => exact Table.Holds.insert holds (asciiLower key) setter
  | api => exact Table.Holds.foldl_insert holds (Part.api.registered.map lowered)

theorem holds_setters_assemble (component : Identity) (classDoc : String)
    (parts : List (Part B)) : (assemble component classDoc parts).setters.Holds
      ((parts.flatMap Part.registered).map lowered) := by
  have hempty : ({ component, classDoc } : Reflection B).setters.Holds [] := Table.holds_empty
  rw [List.map_flatMap]
  exact Table.Holds.foldl setters add (fun part => part.registered.map lowered)
    (fun part (_ : part ∈ parts) _ _ h => holds_setters_add h part) hempty

theorem classDoc_foldl_add (parts : List (Part B)) :
    (parts.foldl add reflection).classDoc = reflection.classDoc := by
  induction parts generalizing reflection with
  | nil => rfl
  | cons part more ih =>
    rw [List.foldl_cons, ih]
    cases part <;> rfl

variable (holds : reflection.setters.Holds (registered.map lowered))

include holds

theorem setter?_eq_some_iff {directive : Directive.Api} {setter : Setter B} :
    reflection.setter? directive = some setter ↔
      LastRegistered registered directive.key setter :=
  holds.get?_eq_some_iff.trans lastGiven_lowered_iff

theorem pairwise_keys : reflection.setters.keys.Pairwise fun key other => ¬SameKey key other := by
  have hlower (key : String) (hmem : key ∈ reflection.setters.keys) : asciiLower key = key := by
    have hmem := (holds.mem_keys key).mp hmem
    rw [List.map_map] at hmem
    obtain ⟨entry, -, rfl⟩ := List.mem_map.mp hmem
    exact asciiLower_asciiLower entry.1
  refine List.Pairwise.imp_of_mem ?_ holds.distinct
  intro key other hkey hother hne hsame
  rw [SameKey, hlower key hkey, hlower other hother] at hsame
  exact hne hsame

theorem called_filterMap (program : Program B) (serial : Serial)
    (directives : List Directive.Api) : Called program registered serial directives
      (directives.filterMap fun directive => (reflection.setter? directive).map fun setter =>
        program.runSetter serial setter directive.value) := by
  induction directives with
  | nil => exact .nil
  | cons directive more ih =>
    rw [List.filterMap_cons]
    cases hfound : reflection.setter? directive with
    | some setter =>
      have last := (setter?_eq_some_iff holds).mp hfound
      cases setter with
      | field field => exact .field last ih
      | custom body => exact .custom last ih
    | none =>
      refine .skip (fun entry hmem hsame => ?_) ih
      have hkey := (holds.mem_keys _).mpr (mem_keys_lowered_iff.mpr ⟨entry, hmem, hsame⟩)
      have hisSome := (reflection.setters.get?_isSome_iff _).mpr hkey
      rw [setter?] at hfound
      rw [hfound] at hisSome
      cases hisSome

end Assembly

end Reflection

theorem Program.runSetters_bind_done (program : Program B) (serial : Serial) {ρ : Type} (result : ρ)
    (calls : List (Setter B × String)) :
    ((program.runSetters serial calls).bind fun _ => .done result) =
      (calls.map fun call => program.runSetter serial call.1 call.2).foldr
        (fun call next => call.bind fun _ => next) (.done result) := by
  induction calls with
  | nil => rfl
  | cons call more ih =>
    rw [runSetters, List.map_cons, List.foldr_cons, ← ih, Code.bind_assoc]

structure ClassCalls (program : Program B) (reflection : Reflection B)
    (registered : List (String × Setter B)) (directives : List Directive.Api) : Prop where
  distinct : reflection.setters.keys.Pairwise fun key other => ¬SameKey key other
  calls : ∀ serial : Serial, ∃ calls,
    Reflection.Called program registered serial directives calls ∧
      program.applyDirectives reflection serial =
        calls.foldr (fun call next => call.bind fun _ => next) (.done calls.length)

theorem classCalls (program : Program B) (component : Identity) (classDoc : String)
    (parts : List (Reflection.Part B)) :
    ClassCalls program (.assemble component classDoc parts)
      (parts.flatMap Reflection.Part.registered) (Directive.api classDoc) := by
  have holds := Reflection.holds_setters_assemble component classDoc parts
  have hdoc : (Reflection.assemble component classDoc parts).classDoc = classDoc :=
    Reflection.classDoc_foldl_add parts
  refine ⟨Reflection.pairwise_keys holds, fun serial => ?_⟩
  refine ⟨_, Reflection.called_filterMap holds program serial (Directive.api classDoc), ?_⟩
  rw [Program.applyDirectives, program.runSetters_bind_done, Reflection.setterCalls, hdoc,
    List.map_filterMap]
  simp only [Option.map_map, Function.comp_def, List.length_filterMap_eq_countP, Option.isSome_map]

/-! ### A component that keeps a record of its setters -/

def ledgerBodies : Bodies :=
  ⟨Unit, String, Unit⟩

def ledgerProgram : Program ledgerBodies where
  settings := {}
  component _ :=
    { construct := fun _ => .done (), hooks := fun _ => .done none, init := fun _ _ => .done () }
  method _ _ _ := .done (.ok .null)
  setter label _ value := .query (.note (.list [.text label, .text value]))
  handler _ _ _ _ := .done (.ok .null)

def ledgerDoc : String :=
  " @api-Version 2\n @api-NAMESPACE acme\n @api-color red\n @api-version 3\n @api-size xl"

def ledgerParts : List (Reflection.Part ledgerBodies) :=
  [.setter "Namespace" (.custom "space"), .setter "Size" (.custom "first"), .api,
    .setter "VERSION" (.custom "version"), .setter "size" (.custom "second")]

def ledgerWorld : World ledgerBodies where
  instances := [{ component := "Ledger" }]

theorem classCalls_ledger :
    ClassCalls ledgerProgram (.assemble "Ledger" ledgerDoc ledgerParts)
      (ledgerParts.flatMap Reflection.Part.registered) (Directive.api ledgerDoc) ∧
    ∃ after, (ledgerProgram.applyDirectives (.assemble "Ledger" ledgerDoc ledgerParts) 1).run
        (ledgerProgram.serve 0) ledgerWorld = .returned 4 after ∧
      after.journal = [.note (.list [.text "version", .text "2"]),
        .note (.list [.text "version", .text "3"]), .note (.list [.text "second", .text "xl"])] ∧
      after.instances = [{ component := "Ledger", api := { space := "acme" } }] := by
  refine ⟨classCalls ledgerProgram "Ledger" ledgerDoc ledgerParts, ?_⟩
  have hcalls : (Reflection.assemble "Ledger" ledgerDoc ledgerParts).setterCalls =
      [(.custom "version", "2"), (.field .space, "acme"), (.custom "version", "3"),
        (.custom "second", "xl")] := rfl
  rw [Program.applyDirectives, hcalls]
  exact ⟨_, rfl, rfl, rfl⟩

end HookWiring
