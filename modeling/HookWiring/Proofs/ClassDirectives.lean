import HookWiring.Proofs.Evaluation

/-!
# Class directives of an API

A component with an API and no setters of its own lets class directives set the three fields of its
metadata. The last directive for a field decides, and a field without a directive stays as it is.
Applying the directives once more changes nothing. A directive never has an empty value, so an
empty field was empty before.
-/

namespace HookWiring

variable {B : Bodies}

def ApiField.ofKey? (key : String) : Option ApiField :=
  [ApiField.space, .version, .subspace].find? fun field => field.key == asciiLower key

theorem ApiField.ofKey?_eq_some_iff {key : String} {field : ApiField} :
    ApiField.ofKey? key = some field ↔ field.key = asciiLower key := by
  constructor
  · intro h
    simpa using List.find?_some h
  · intro h
    rw [ApiField.ofKey?, ← h]
    cases field <;> decide

namespace Api

def obey (api : Api) (directive : Directive.Api) : Api :=
  match ApiField.ofKey? directive.key with
  | some field => api.setField field directive.value
  | none => api

def lastValue? (directives : List Directive.Api) (field : ApiField) : Option String :=
  ((directives.filter fun d => field.key == asciiLower d.key).getLast?).map Directive.Api.value

def annotated (api : Api) (directives : List Directive.Api) : Api :=
  { api with
    space := (lastValue? directives .space).getD api.space
    version := (lastValue? directives .version).getD api.version
    subspace := (lastValue? directives .subspace).getD api.subspace }

def subpath (api : Api) : String :=
  if api.subspace = "" then "" else "/" ++ api.subspace

section Fields

variable (api : Api) (directives : List Directive.Api) (field : ApiField)

theorem field_obey (directive : Directive.Api) : (api.obey directive).field field =
    if field.key = asciiLower directive.key then directive.value else api.field field := by
  rw [obey]
  cases hfound : ApiField.ofKey? directive.key with
  | none =>
    have hother : field.key ≠ asciiLower directive.key := by
      intro h
      rw [ApiField.ofKey?_eq_some_iff.mpr h] at hfound
      cases hfound
    rw [if_neg hother]
  | some found =>
    have hkey := ApiField.ofKey?_eq_some_iff.mp hfound
    by_cases hsame : found = field
    · subst hsame
      rw [if_pos hkey]
      exact field_setField_self api found directive.value
    · have hother : field.key ≠ asciiLower directive.key := by
        intro h
        rw [ApiField.ofKey?_eq_some_iff.mpr h] at hfound
        exact hsame (Option.some.inj hfound).symm
      rw [if_neg hother]
      exact field_setField_of_ne api hsame directive.value

theorem routes_obey (directive : Directive.Api) : (api.obey directive).routes = api.routes := by
  rw [obey]
  split
  · exact routes_setField api _ _
  · rfl

theorem field_annotated :
    (api.annotated directives).field field =
      (lastValue? directives field).getD (api.field field) := by
  cases field <;> rfl

theorem eq_of_fields {api other : Api} (h : ∀ field, api.field field = other.field field)
    (hroutes : api.routes = other.routes) : api = other := by
  obtain ⟨space, version, subspace, routes⟩ := api
  obtain ⟨_, _, _, _⟩ := other
  cases h .space
  cases h .version
  cases h .subspace
  cases hroutes
  rfl

theorem field_foldl_obey : (directives.foldl obey api).field field =
    (lastValue? directives field).getD (api.field field) := by
  -- the first directive decides only if there is no later one for the field
  induction directives generalizing api with
  | nil => rfl
  | cons directive more ih =>
    rw [List.foldl_cons, ih, field_obey]
    by_cases hkey : field.key = asciiLower directive.key
    · have hfilter : (directive :: more).filter (fun d => field.key == asciiLower d.key) =
          directive :: more.filter fun d => field.key == asciiLower d.key :=
        List.filter_cons_of_pos (by simpa using hkey)
      rw [if_pos hkey, lastValue?, lastValue?, hfilter, List.getLast?_cons]
      cases (more.filter fun d => field.key == asciiLower d.key).getLast? <;> rfl
    · have hfilter : (directive :: more).filter (fun d => field.key == asciiLower d.key) =
          more.filter fun d => field.key == asciiLower d.key :=
        List.filter_cons_of_neg (by simpa using hkey)
      rw [if_neg hkey, lastValue?, lastValue?, hfilter]

theorem routes_foldl_obey : (directives.foldl obey api).routes = api.routes := by
  induction directives generalizing api with
  | nil => rfl
  | cons directive more ih => rw [List.foldl_cons, ih, routes_obey]

theorem foldl_obey : directives.foldl obey api = api.annotated directives := by
  apply eq_of_fields
  · intro field
    rw [field_foldl_obey, field_annotated]
  · exact routes_foldl_obey api directives

theorem annotated_annotated :
    (api.annotated directives).annotated directives = api.annotated directives := by
  apply eq_of_fields
  · intro field
    rw [field_annotated, field_annotated]
    cases lastValue? directives field <;> rfl
  · rfl

end Fields

theorem value_ne_empty {doc : String} {directive : Directive.Api}
    (h : directive ∈ Directive.api doc) : directive.value ≠ "" := by
  obtain ⟨line, -, h⟩ := List.mem_filterMap.mp h
  obtain ⟨rest, -, h⟩ := Option.bind_eq_some_iff.mp h
  obtain ⟨_, -, h⟩ := Option.bind_eq_some_iff.mp h
  obtain ⟨text, -, h⟩ := Option.bind_eq_some_iff.mp h
  obtain ⟨_, hguard, h⟩ := Option.bind_eq_some_iff.mp h
  cases h
  intro hempty
  have hnil : Directive.apiValue text = [] := by
    have htext := congrArg String.toList hempty
    rwa [String.toList_ofList] at htext
  rw [hnil] at hguard
  cases hguard

theorem lastValue?_ne_empty {doc value : String} {field : ApiField}
    (h : lastValue? (Directive.api doc) field = some value) : value ≠ "" := by
  obtain ⟨directive, hlast, rfl⟩ := Option.map_eq_some_iff.mp h
  exact value_ne_empty (List.mem_filter.mp (List.mem_of_getLast? hlast)).1

/-- An empty field was empty, and there is no directive for it. -/
theorem field_annotated_eq_empty_iff {api : Api} {doc : String} {field : ApiField} :
    (api.annotated (Directive.api doc)).field field = "" ↔
      api.field field = "" ∧ lastValue? (Directive.api doc) field = none := by
  rw [field_annotated]
  cases hlast : lastValue? (Directive.api doc) field with
  | none => simp
  | some value => simp [lastValue?_ne_empty hlast]

section Routes

variable {api : Api}

theorem mounted_of_named (hspace : api.space ≠ "") (hversion : api.version ≠ "") :
    api.mounted = api.routes.entries.map fun (basePath, config) =>
      { mount := api.space ++ "/v" ++ api.version ++ api.subpath, basePath, config } := by
  have hmount : api.mount? = some (api.space ++ "/v" ++ api.version ++ api.subpath) := by
    rw [mount?, if_neg (by simp [hspace, hversion]), subpath]
    split
    · rw [String.append_empty]
    · rw [← String.append_assoc]
  rw [mounted, hmount]

theorem mounted_of_unnamed (h : api.space = "" ∨ api.version = "") : api.mounted = [] :=
  mounted_eq_nil_of_mount?_eq_none (if_pos h)

theorem mounted_eq_nil_iff :
    api.mounted = [] ↔ api.space = "" ∨ api.version = "" ∨ api.routes.entries = [] := by
  rw [← or_assoc]
  by_cases h : api.space = "" ∨ api.version = ""
  · exact iff_of_true (mounted_of_unnamed h) (.inl h)
  · obtain ⟨hspace, hversion⟩ := not_or.mp h
    rw [mounted_of_named hspace hversion, List.map_eq_nil_iff]
    exact (or_iff_right h).symm

end Routes

end Api

/-! ### Running the setters -/

namespace World

def changeApi (world : World B) (serial : Serial) (change : Api → Api) : World B :=
  world.modifyInstance serial fun i => { i with api := change i.api }

theorem changeApi_changeApi (world : World B) (serial : Serial) (first second : Api → Api) :
    (world.changeApi serial first).changeApi serial second =
      world.changeApi serial (second ∘ first) := by
  simp only [changeApi, modifyInstance, List.modify_modify_eq]
  rfl

theorem changeApi_id (world : World B) (serial : Serial) : world.changeApi serial id = world := by
  have hmodify := List.modify_id (serial - 1) world.instances
  simp only [changeApi, modifyInstance, id]
  exact congrArg (fun instances => { world with instances }) hmodify

end World

namespace Reflection

variable {base : Reflection B}

theorem setter?_withApi (alone : base.setters = .empty) (directive : Directive.Api) :
    base.withApi.setter? directive = (ApiField.ofKey? directive.key).map .field := by
  have hsetters : base.withApi.setters =
      ((Table.empty.insert "namespace" (.field .space)).insert "version" (.field .version)).insert
        "subspace" (.field .subspace) := by
    rw [← alone]
    rfl
  rw [setter?, hsetters]
  simp only [Table.get?_insert]
  cases hfound : ApiField.ofKey? directive.key with
  | none =>
    have hother (field : ApiField) : asciiLower directive.key ≠ field.key := by
      intro h
      rw [ApiField.ofKey?_eq_some_iff.mpr h.symm] at hfound
      cases hfound
    have hspace : asciiLower directive.key ≠ "namespace" := hother .space
    have hversion : asciiLower directive.key ≠ "version" := hother .version
    have hsubspace : asciiLower directive.key ≠ "subspace" := hother .subspace
    rw [if_neg hsubspace, if_neg hversion, if_neg hspace]
    rfl
  | some field =>
    rw [← ApiField.ofKey?_eq_some_iff.mp hfound]
    cases field <;> rfl

theorem setterCalls_withApi (alone : base.setters = .empty) :
    base.withApi.setterCalls = (Directive.api base.classDoc).filterMap fun directive =>
      (ApiField.ofKey? directive.key).map fun field => (.field field, directive.value) := by
  simp only [setterCalls, setter?_withApi alone, Option.map_map]
  rfl

end Reflection

namespace Program

variable (program : Program B)

theorem run_runSetters (directives : List Directive.Api) (serial : Serial) (depth : Nat)
    (world : World B) :
    (program.runSetters serial (directives.filterMap fun directive =>
        (ApiField.ofKey? directive.key).map fun field => (.field field, directive.value))).run
      (program.serve depth) world =
      .returned () (world.changeApi serial (directives.foldl Api.obey)) := by
  induction directives generalizing world with
  | nil => exact congrArg (Outcome.returned ()) (world.changeApi_id serial).symm
  | cons directive more ih =>
    rw [List.filterMap_cons]
    cases hfound : ApiField.ofKey? directive.key with
    | none =>
      have hobey (api : Api) : api.obey directive = api := by rw [Api.obey, hfound]
      simp only [Option.map_none, List.foldl_cons, hobey]
      exact ih world
    | some field =>
      have hobey (api : Api) : api.obey directive = api.setField field directive.value := by
        rw [Api.obey, hfound]
      simp only [Option.map_some, List.foldl_cons, hobey]
      refine (run_query_bind depth _ _ world).trans ((ih _).trans ?_)
      exact congrArg (Outcome.returned ()) (world.changeApi_changeApi serial
        (·.setField field directive.value) (more.foldl Api.obey))

theorem run_applyDirectives {base : Reflection B} (alone : base.setters = .empty)
    (serial : Serial) (depth : Nat) (world : World B) :
    (program.applyDirectives base.withApi serial).run (program.serve depth) world =
      .returned base.withApi.setterCalls.length
        (world.changeApi serial (·.annotated (Directive.api base.classDoc))) := by
  rw [applyDirectives, Code.run_bind, Reflection.setterCalls_withApi alone, run_runSetters]
  simp only [Api.foldl_obey]
  rfl

end Program

end HookWiring
