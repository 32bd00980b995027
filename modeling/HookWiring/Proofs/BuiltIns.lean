import HookWiring.Proofs.Hooking

/-!
# Actions of a component with an API

A component with an API gets two actions of its own, one that applies its class directives and one
that registers its routes. They stand behind the actions of its methods, under the names that the
settings give to the two hooks, and each of them is there exactly if its name fits the grammar of
action names. The settings take any name. Under one that does not fit nothing is registered, and
nothing is reported.
-/

namespace HookWiring

variable {B : Bodies}

namespace Reflection

def unexposed (reflection : Reflection B) : Reflection B :=
  { reflection with hasApi := false }

def ownAction (hook : String) (callback : Callback B) (name : String) : List (Binding B) :=
  if hook = name ∧ HookKind.action.acceptsName hook = true then
    [{ name, callback, priority := 11, argCount := .exact 0 }]
  else []

def ownActions (reflection : Reflection B) (settings : Settings) (serial : Serial)
    (name : String) : List (Binding B) :=
  ownAction settings.apiInit (reflection.directivesCallback serial) name ++
    ownAction settings.routeInit (reflection.routesCallback serial) name

section Actions

variable {settings : Settings} {reflection : Reflection B} {serial : Serial} {name : String}

theorem filterMap_builtInRegistrations :
    (builtInRegistrations settings reflection serial).filterMap
        (Registration.actionNamed? name) =
      reflection.ownActions settings serial name := by
  have hone (hook : String) (callback : Callback B) :
      (if HookKind.action.acceptsName hook then
          some (.action { name := hook, callback, priority := 11, argCount := .exact 0 })
        else none : Option (Registration B)).bind (Registration.actionNamed? name) =
        (ownAction hook callback name).head? := by
    rw [ownAction]
    by_cases hname : hook = name
    · subst hname
      by_cases hfit : HookKind.action.acceptsName hook = true <;>
        simp [hfit, Registration.actionNamed?]
    · by_cases hfit : HookKind.action.acceptsName hook = true <;>
        simp [hfit, hname, Registration.actionNamed?]
  have hsingle (hook : String) (callback : Callback B) :
      (ownAction hook callback name).head?.toList = ownAction hook callback name := by
    rw [ownAction]
    split <;> rfl
  rw [builtInRegistrations, List.filterMap_filterMap, List.filterMap_eq_flatMap_toList,
    List.flatMap_cons, List.flatMap_singleton, hone, hone, hsingle, hsingle, ownActions]

theorem length_ownAction (hook : String) (callback : Callback B) :
    (ownAction hook callback name).length =
      if hook = name ∧ HookKind.action.acceptsName hook = true then 1 else 0 := by
  rw [ownAction]
  split <;> rfl

theorem length_ownActions : (reflection.ownActions settings serial name).length =
    (if settings.apiInit = name ∧ HookKind.action.acceptsName settings.apiInit = true
      then 1 else 0) +
    if settings.routeInit = name ∧ HookKind.action.acceptsName settings.routeInit = true
      then 1 else 0 := by
  rw [ownActions, List.length_append, length_ownAction, length_ownAction]

theorem registrations_unexposed : reflection.unexposed.registrations serial settings =
    reflection.methods.zipIdx.flatMap fun (method, index) =>
      methodRegistrations settings (reflection.methodCallback serial index method) method
        ((handlerNames method).filter HookKind.ajax.acceptsName) := by
  rw [registrations_eq, requested]
  exact List.append_nil _

theorem registrations_of_hasApi (hasApi : reflection.hasApi = true) :
    reflection.registrations serial settings =
      reflection.unexposed.registrations serial settings ++
        builtInRegistrations settings reflection serial := by
  rw [registrations_eq, requested, if_pos hasApi, registrations_unexposed]

theorem target_of_mem_unexposed {registration : Registration B}
    (h : registration ∈ reflection.unexposed.registrations serial settings) :
    ∃ callback index body, registration.callback? = some callback ∧
      callback.target = .method serial index body := by
  rw [registrations_unexposed] at h
  obtain ⟨⟨method, index⟩, -, h⟩ := List.mem_flatMap.mp h
  exact ⟨_, index, method.body, callback?_of_mem_methodRegistrations h, rfl⟩

theorem mem_builtInRegistrations {registration : Registration B} :
    registration ∈ builtInRegistrations settings reflection serial ↔
      (HookKind.action.acceptsName settings.apiInit = true ∧ registration = .action
        ⟨settings.apiInit, reflection.directivesCallback serial, 11, .exact 0⟩) ∨
      (HookKind.action.acceptsName settings.routeInit = true ∧ registration = .action
        ⟨settings.routeInit, reflection.routesCallback serial, 11, .exact 0⟩) := by
  simp only [builtInRegistrations, List.mem_filterMap, List.mem_cons, List.not_mem_nil, or_false,
    exists_eq_or_imp, exists_eq_left, Option.ite_none_right_eq_some, Option.some.injEq,
    @eq_comm _ registration]

/-- Nothing but the two actions of an API carries its callbacks. -/
theorem exists_target_iff (hasApi : reflection.hasApi = true) {target : Target B}
    (hmethod : ∀ index body, target ≠ .method serial index body) :
    (∃ registration ∈ reflection.registrations serial settings,
        registration.callback?.map Callback.target = some target) ↔
      (HookKind.action.acceptsName settings.apiInit = true ∧
          .applyDirectives serial reflection = target) ∨
        (HookKind.action.acceptsName settings.routeInit = true ∧
          .registerRoutes serial = target) := by
  rw [registrations_of_hasApi hasApi]
  constructor
  · rintro ⟨registration, hmem, htarget⟩
    rcases List.mem_append.mp hmem with hmem | hmem
    · obtain ⟨callback, index, body, hcallback, hbody⟩ := target_of_mem_unexposed hmem
      rw [hcallback, Option.map_some, hbody] at htarget
      exact absurd (Option.some.inj htarget).symm (hmethod index body)
    · rcases mem_builtInRegistrations.mp hmem with ⟨hfit, rfl⟩ | ⟨hfit, rfl⟩
      · exact .inl ⟨hfit, Option.some.inj htarget⟩
      · exact .inr ⟨hfit, Option.some.inj htarget⟩
  · rintro (⟨hfit, rfl⟩ | ⟨hfit, rfl⟩)
    · exact ⟨_, List.mem_append_right _ (mem_builtInRegistrations.mpr (.inl ⟨hfit, rfl⟩)), rfl⟩
    · exact ⟨_, List.mem_append_right _ (mem_builtInRegistrations.mpr (.inr ⟨hfit, rfl⟩)), rfl⟩

end Actions

end Reflection

structure BuiltIns (settings : Settings) (reflection : Reflection B) (serial : Serial) : Prop where
  added : ∀ (world : World B) (component : Identity) (args : Value) (name : String),
    (world.beginInit settings component serial args (some reflection)).host.actions name =
      (world.beginInit settings component serial args (some reflection.unexposed)).host.actions
        name ++ reflection.ownActions settings serial name
  apart : settings.apiInit ≠ settings.routeInit →
    (reflection.ownActions settings serial settings.apiInit).length =
        (if HookKind.action.acceptsName settings.apiInit then 1 else 0) ∧
      (reflection.ownActions settings serial settings.routeInit).length =
        if HookKind.action.acceptsName settings.routeInit then 1 else 0
  together : settings.apiInit = settings.routeInit →
    (reflection.ownActions settings serial settings.apiInit).length =
      if HookKind.action.acceptsName settings.apiInit then 2 else 0
  directives : (∃ registration ∈ reflection.registrations serial settings,
      registration.callback?.map Callback.target = some (.applyDirectives serial reflection)) ↔
    HookKind.action.acceptsName settings.apiInit = true
  routes : (∃ registration ∈ reflection.registrations serial settings,
      registration.callback?.map Callback.target = some (.registerRoutes serial)) ↔
    HookKind.action.acceptsName settings.routeInit = true

theorem builtIns (settings : Settings) (reflection : Reflection B) (serial : Serial)
    (hasApi : reflection.hasApi = true) : BuiltIns settings reflection serial := by
  constructor
  case added =>
    intro world component args name
    simp only [Host.actions, World.log_beginInit, Option.elim_some, List.filterMap_append,
      Reflection.registrations_of_hasApi hasApi, Reflection.filterMap_builtInRegistrations,
      List.append_assoc]
  case apart =>
    intro hne
    simp only [Reflection.length_ownActions]
    simp [hne, hne.symm]
  case together =>
    intro heq
    rw [Reflection.length_ownActions, ← heq]
    split <;> simp_all
  case directives =>
    rw [Reflection.exists_target_iff hasApi (by simp)]
    simp
  case routes =>
    rw [Reflection.exists_target_iff hasApi (by simp)]
    simp

theorem builtIns_default : (widget []).hasApi = true ∧
    (({} : World widgetBodies).beginInit {} "Widget" 1 .null
        (some (widget []))).host.actions "init" =
      [⟨"init", (widget []).directivesCallback 1, 11, .exact 0⟩] ∧
    ∃ registration ∈ (widget []).registrations 1 {},
      registration.callback?.map Callback.target = some (.registerRoutes 1) := by
  have own := builtIns {} (widget []) 1 rfl
  have hfit : HookKind.action.acceptsName "rest_api_init" = true := by decide
  exact ⟨rfl, (own.added {} "Widget" .null "init").trans rfl, own.routes.mpr hfit⟩

/-- A name with a capital letter is none for an action, so the class directives are not applied. -/
theorem unwired_capital : ¬∀ (settings : Settings) (reflection : Reflection widgetBodies)
    (serial : Serial) (component : Identity) (args : Value) (world : World widgetBodies)
    (hook : String), reflection.hasApi = true →
      hook = settings.apiInit ∨ hook = settings.routeInit →
      ((world.beginInit settings component serial args
          (some reflection)).host.actions hook).length =
        ((world.beginInit settings component serial args
          (some reflection.unexposed)).host.actions hook).length +
            if settings.apiInit = settings.routeInit then 2 else 1 := by
  intro h
  have hcount := h { apiInit := "appInit" } (widget []) 1 "Widget" .null {} "appInit" rfl (.inl rfl)
  have hnone : ((({} : World widgetBodies).beginInit { apiInit := "appInit" } "Widget" 1 .null
      (some (widget []))).host.actions "appInit").length = 0 := by decide
  rw [hnone] at hcount
  split at hcount <;> cases hcount

end HookWiring
