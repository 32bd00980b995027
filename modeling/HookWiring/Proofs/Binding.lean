import HookWiring.Wiring

/-!
# Callbacks of a reflection

Every registration that a reflection yields for an instance has a callback, and running the
callback works on that instance.
-/

namespace HookWiring

variable {B : Bodies}

def Callback.instance? (callback : Callback B) : Option Serial :=
  match callback.target with
  | .method serial _ _ => some serial
  | .applyDirectives serial _ => some serial
  | .registerRoutes serial => some serial
  | .handler _ _ => none

def BoundTo (serial : Serial) (registrations : List (Registration B)) : Prop :=
  ∀ registration ∈ registrations, ∃ callback,
    registration.callback? = some callback ∧ callback.instance? = some serial

theorem callback?_of_mem_registrations {settings : Settings} {kind : HookKind} {name : String}
    {callback : Callback B} {args : HookArgs} {registration : Registration B}
    (h : registration ∈ registrations settings kind name callback args) :
    registration.callback? = some callback := by
  cases kind with
  | ajax =>
    obtain ⟨full, -, rfl⟩ := List.mem_map.mp h
    rfl
  | action | filter | shortcode | command =>
    rw [List.mem_singleton.mp h]
    rfl

theorem callback_of_declare? {kind : HookKind} {name : String} {priority : Int}
    {argCount : ArgCount} {callback : Callback B} {declaration : Declaration B}
    (h : declare? kind name priority argCount callback = some declaration) :
    declaration.callback = callback := by
  unfold declare? Declaration.make at h
  split at h
  · cases h; rfl
  · cases h

theorem callback_of_mem_methodDeclarations {method : Method B} {callback : Callback B}
    {declaration : Declaration B}
    (h : declaration ∈ Reflection.methodDeclarations method callback) :
    declaration.callback = callback := by
  simp only [Reflection.methodDeclarations, List.mem_append, List.mem_filterMap] at h
  obtain (⟨_, -, h⟩ | ⟨_, -, h⟩) | ⟨_, -, h⟩ := h <;> exact callback_of_declare? h

namespace Reflection

theorem instance?_of_mem_declarations {reflection : Reflection B} {serial : Serial}
    {settings : Settings} {declaration : Declaration B}
    (h : declaration ∈ reflection.declarations serial settings) :
    declaration.callback.instance? = some serial := by
  rw [declarations, List.mem_append] at h
  rcases h with hmethod | hapi
  · obtain ⟨⟨method, index⟩, -, h⟩ := List.mem_flatMap.mp hmethod
    rw [callback_of_mem_methodDeclarations h]
    rfl
  · unfold apiDeclarations at hapi
    split at hapi
    · simp only [List.mem_filterMap, List.mem_cons, List.not_mem_nil, or_false] at hapi
      obtain ⟨_, rfl | rfl, h⟩ := hapi
      · rw [callback_of_declare? h]
        rfl
      · rw [callback_of_declare? h]
        rfl
    · cases hapi

theorem boundTo_registrations (reflection : Reflection B) (serial : Serial)
    (settings : Settings) : BoundTo serial (reflection.registrations serial settings) := by
  intro registration h
  obtain ⟨declaration, hmem, hreg⟩ := List.mem_flatMap.mp h
  exact ⟨declaration.callback, callback?_of_mem_registrations hreg,
    instance?_of_mem_declarations hmem⟩

end Reflection

end HookWiring
