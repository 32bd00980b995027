import HookWiring.Proofs.Binding
import HookWiring.Proofs.Calls
import HookWiring.Proofs.TrimmedPatterns

/-!
# What hooking registers

When a component is hooked the host receives, for every method in turn, its hooks and its commands
in the order of the text, and after them the two actions of every ajax handler; at the end stand
the two actions of a component with an API. All names that are read from documentation fit their
grammar, so every directive with a name is among them. A handler without a name is called after its
method, and the name of a method need not fit: such a handler is left out.
-/

namespace HookWiring

variable {B : Bodies}

/-! ### Names that are read -/

section Names

open Text Directive

theorem accepts_of_name? {kind : HookKind} {allowed : Char → Bool} {text name rest : List Char}
    (hkind : kind.allows = allowed) (h : name? allowed text = some (name, rest)) :
    kind.acceptsName (String.ofList name) = true := by
  obtain ⟨rfl, -, hne⟩ := name?_cases h
  rw [HookKind.acceptsName, String.toList_ofList, Bool.and_eq_true, hkind, Bool.not_eq_true',
    List.isEmpty_eq_false_iff]
  exact ⟨hne, List.all_takeWhile⟩

theorem allows_of_mem_hookKinds {kind : HookKind} (h : kind ∈ hookKinds) :
    kind.allows = HookKind.isNameChar := by
  have hcommand : HookKind.command ∉ hookKinds := by decide
  cases kind with
  | command => exact absurd h hcommand
  | _ => rfl

theorem kind_mem_of_hooks {doc : String} {hook : Hook} (h : hook ∈ hooks doc) :
    hook.kind ∈ hookKinds := by
  obtain ⟨line, -, h⟩ := List.mem_filterMap.mp h
  exact (hookOfLine?_cases h).1

theorem accepts_of_hooks {doc : String} {hook : Hook} (h : hook ∈ hooks doc) :
    hook.kind.acceptsName hook.name = true := by
  obtain ⟨line, -, h⟩ := List.mem_filterMap.mp h
  obtain ⟨hkind, rest, text, name, behind, -, -, hread, hname, -⟩ := hookOfLine?_cases h
  rw [hname]
  exact accepts_of_name? (allows_of_mem_hookKinds hkind) hread

theorem accepts_of_ajax {doc name : String} (h : some name ∈ ajax doc) :
    HookKind.ajax.acceptsName name = true := by
  obtain ⟨line, -, h⟩ := List.mem_filterMap.mp h
  obtain ⟨rest, -, -, hname⟩ := ajaxOfLine?_eq_some_iff.mp h
  obtain ⟨text, -, hname⟩ := Option.bind_eq_some_iff.mp hname.symm
  obtain ⟨⟨_, behind⟩, hread, rfl⟩ := Option.map_eq_some_iff.mp hname
  exact accepts_of_name? rfl hread

theorem accepts_of_commands {doc name : String} (h : name ∈ commands doc) :
    HookKind.command.acceptsName name = true := by
  obtain ⟨line, -, h⟩ := List.mem_filterMap.mp h
  obtain ⟨rest, text, read, behind, -, htext, hread, rfl⟩ := commandOfLine?_cases h
  obtain ⟨rfl, -⟩ := afterBlanks?_cases htext
  obtain ⟨rfl, -, hne⟩ := name?_cases hread
  obtain ⟨c, more, hcons, hwhite⟩ := exists_command_eq_cons hne
  rw [HookKind.acceptsName, String.toList_ofList, Bool.and_eq_true, Bool.not_eq_true',
    List.isEmpty_eq_false_iff, List.all_eq_true]
  refine ⟨hcons ▸ trimEnd_cons_ne_nil hwhite more, fun d hd => ?_⟩
  exact List.mem_takeWhile_imp ((trimEnd_isPrefix _).subset hd)

end Names

/-! ### Registrations of a method -/

def hookRegistration (callback : Callback B) (argCount : Nat) (hook : Directive.Hook) :
    Registration B :=
  let binding : Binding B :=
    { name := hook.name, callback, priority := hook.priority.getD 11, argCount := .exact argCount }
  match hook.kind with
  | .action => .action binding
  | .filter => .filter binding
  | _ => .shortcode hook.name callback

def handlerRegistrations (settings : Settings) (callback : Callback B) (argCount : Nat)
    (name : String) : List (Registration B) :=
  [settings.ajaxPrivate, settings.ajaxPublic].map fun stem => .action
    { name := stem ++ "_" ++ name, callback, priority := 11, argCount := .exact argCount }

def handlerNames (method : Method B) : List String :=
  (Directive.ajax method.doc).map fun name => name.getD (Text.snakeCase method.name)

def methodRegistrations (settings : Settings) (callback : Callback B) (method : Method B)
    (handlers : List String) : List (Registration B) :=
  (Directive.hooks method.doc).map (hookRegistration callback method.argCount) ++
    (Directive.commands method.doc).map (.command · callback) ++
    handlers.flatMap (handlerRegistrations settings callback method.argCount)

def builtInRegistrations (settings : Settings) (reflection : Reflection B) (serial : Serial) :
    List (Registration B) :=
  [(settings.apiInit, reflection.directivesCallback serial),
    (settings.routeInit, reflection.routesCallback serial)].filterMap fun (name, callback) =>
      if HookKind.action.acceptsName name then
        some (.action { name, callback, priority := 11, argCount := .exact 0 })
      else none

section Lists

variable {α β γ : Type}

theorem flatMap_filterMap (items : List α) (read : α → Option β) (next : β → List γ) :
    (items.filterMap read).flatMap next =
      items.flatMap fun item => (read item).toList.flatMap next := by
  rw [List.filterMap_eq_flatMap_toList, List.flatMap_assoc]

theorem flatMap_filter (items : List α) (test : α → Bool) (next : α → List β) :
    (items.filter test).flatMap next =
      items.flatMap fun item => if test item then next item else [] := by
  induction items with
  | nil => rfl
  | cons item more ih =>
    rw [List.filter_cons, List.flatMap_cons, ← ih]
    split <;> rfl

end Lists

section Registrations

variable {settings : Settings} {kind : HookKind} {name : String} {callback : Callback B}

theorem flatMap_registrations_declare? (priority : Int) (argCount : ArgCount) :
    (declare? kind name priority argCount callback).toList.flatMap
        (Declaration.registrations settings) =
      if kind.acceptsName name then registrations settings kind name callback
        { priority := some priority, argCount := some argCount }
      else [] := by
  rw [declare?, Declaration.make]
  split
  · exact List.flatMap_singleton _ _
  · rfl

theorem registrations_of_hook {doc : String} {hook : Directive.Hook}
    (h : hook ∈ Directive.hooks doc) (settings : Settings) (callback : Callback B) (argCount : Nat) :
    registrations settings hook.kind hook.name callback
        { priority := some ((hook.priority.map Int.ofNat).getD directivePriority),
          argCount := some (.exact argCount) } =
      [hookRegistration callback argCount hook] := by
  have hkind := kind_mem_of_hooks h
  obtain ⟨kind, name, priority⟩ := hook
  have hpriority : (priority.map Int.ofNat).getD directivePriority = (priority.getD 11 : Nat) := by
    cases priority <;> rfl
  have hothers : HookKind.ajax ∉ Directive.hookKinds ∧ HookKind.command ∉ Directive.hookKinds := by
    decide
  rw [hpriority]
  cases kind with
  | action | filter | shortcode => rfl
  | ajax => exact absurd hkind hothers.1
  | command => exact absurd hkind hothers.2

theorem methodDeclarations_flatMap (settings : Settings) (method : Method B)
    (callback : Callback B) :
    (Reflection.methodDeclarations method callback).flatMap (Declaration.registrations settings) =
      methodRegistrations settings callback method
        ((handlerNames method).filter HookKind.ajax.acceptsName) := by
  simp only [Reflection.methodDeclarations, List.flatMap_append, flatMap_filterMap,
    flatMap_registrations_declare?]
  rw [methodRegistrations, flatMap_filter, handlerNames, List.flatMap_map, List.map_eq_flatMap,
    List.map_eq_flatMap]
  congr 1
  · congr 1
    · refine List.flatMap_congr fun hook h => ?_
      rw [if_pos (accepts_of_hooks h), registrations_of_hook h]
    · refine List.flatMap_congr fun name h => ?_
      rw [if_pos (accepts_of_commands h)]
      rfl

theorem callback?_of_mem_methodRegistrations {method : Method B} {handlers : List String}
    {registration : Registration B}
    (h : registration ∈ methodRegistrations settings callback method handlers) :
    registration.callback? = some callback := by
  simp only [methodRegistrations, List.mem_append] at h
  rcases h with (h | h) | h
  · obtain ⟨⟨kind, name, priority⟩, -, rfl⟩ := List.mem_map.mp h
    cases kind <;> rfl
  · obtain ⟨name, -, rfl⟩ := List.mem_map.mp h
    rfl
  · obtain ⟨name, -, h⟩ := List.mem_flatMap.mp h
    obtain ⟨stem, -, rfl⟩ := List.mem_map.mp h
    rfl

end Registrations

namespace Reflection

def requested (reflection : Reflection B) (settings : Settings) (serial : Serial)
    (handlers : Method B → List String) : List (Registration B) :=
  (reflection.methods.zipIdx.flatMap fun (method, index) =>
      methodRegistrations settings (reflection.methodCallback serial index method) method
        (handlers method)) ++
    if reflection.hasApi then builtInRegistrations settings reflection serial else []

theorem apiDeclarations_flatMap (reflection : Reflection B) (settings : Settings)
    (serial : Serial) :
    (reflection.apiDeclarations serial settings).flatMap (Declaration.registrations settings) =
      if reflection.hasApi then builtInRegistrations settings reflection serial else [] := by
  have hcases (name : String) (callback : Callback B) :
      (declare? .action name directivePriority (.exact 0) callback).toList.flatMap
          (Declaration.registrations settings) =
        (if HookKind.action.acceptsName name then
          some (.action { name, callback, priority := 11, argCount := .exact 0 })
        else none : Option (Registration B)).toList := by
    rw [flatMap_registrations_declare?]
    split <;> rfl
  rw [apiDeclarations]
  split
  · rw [flatMap_filterMap, builtInRegistrations, List.filterMap_eq_flatMap_toList]
    simp only [List.flatMap_cons, List.flatMap_nil, id, hcases]
  · rfl

theorem registrations_eq (reflection : Reflection B) (settings : Settings) (serial : Serial) :
    reflection.registrations serial settings = reflection.requested settings serial fun method =>
      (handlerNames method).filter HookKind.ajax.acceptsName := by
  rw [registrations, Declaration.registerAll, declarations, List.flatMap_append,
    apiDeclarations_flatMap, List.flatMap_assoc, requested]
  simp only [methodDeclarations_flatMap]

end Reflection

structure Hooking (program : Program B) (life : Life) (reflection : Reflection B)
    (world : World B) : Prop where
  step : ∀ {α ρ : Type} (resume : Except String (Except WiringError Serial) → Code B ρ)
    (below : Stack B α ρ),
    program.step ⟨.done (some reflection), .sequence life .hooking resume below, world⟩ =
      some ⟨program.code life .initialising, .sequence life .initialising resume below,
        world.beginInit program.settings life.component life.serial life.args (some reflection)⟩
  log : (world.beginInit program.settings life.component life.serial life.args
      (some reflection)).host.log =
    world.host.log ++ reflection.requested program.settings life.serial fun method =>
      (handlerNames method).filter HookKind.ajax.acceptsName
  shared : ∀ (method : Method B) (index : Nat) (handlers : List String),
    ∀ registration ∈ methodRegistrations program.settings
      (reflection.methodCallback life.serial index method) method handlers,
    registration.callback? = some (reflection.methodCallback life.serial index method)
  bound : ∀ (method : Method B) (index : Nat) (args : List Value),
    program.invoke (reflection.methodCallback life.serial index method) args =
      Program.withHost (program.method method.body life.serial args)
  apart : ∀ (method other : Method B) (index place : Nat),
    (reflection.methodCallback life.serial index method).target.key =
      (reflection.methodCallback life.serial place other).target.key → index = place
  fitting : ∀ doc : String,
    (∀ hook ∈ Directive.hooks doc, hook.kind.acceptsName hook.name = true) ∧
    (∀ name ∈ Directive.commands doc, HookKind.command.acceptsName name = true) ∧
    ∀ name, some name ∈ Directive.ajax doc → HookKind.ajax.acceptsName name = true

theorem hooking (program : Program B) (life : Life) (reflection : Reflection B)
    (world : World B) : Hooking program life reflection world := by
  constructor
  case step => exact fun resume below => rfl
  case log =>
    rw [World.log_beginInit, ← Reflection.registrations_eq]
    rfl
  case shared => exact fun method index handlers _ h => callback?_of_mem_methodRegistrations h
  case bound => exact fun method index args => rfl
  case apart =>
    intro method other index place h
    cases h
    rfl
  case fitting =>
    exact fun doc => ⟨fun hook => accepts_of_hooks, fun name => accepts_of_commands,
      fun name => accepts_of_ajax⟩

/-! ## A component with one method -/

def widgetBodies : Bodies :=
  ⟨Unit, Empty, Empty⟩

def widget (methods : List (Method widgetBodies)) : Reflection widgetBodies :=
  { component := "Widget", classDoc := "", methods, hasApi := true }

def widgetProgram (methods : List (Method widgetBodies)) : Program widgetBodies where
  settings := {}
  component _ :=
    { construct := fun _ => .done ()
      hooks := fun _ => .done (some (widget methods))
      init := fun _ _ => .done () }
  method _ _ _ := .done (.ok .null)
  setter := nofun
  handler := nofun

def saving : Method widgetBodies :=
  { name := "saveItem", argCount := 2, doc := " @ajax\n @command acme save\n @action save_item, 5",
    body := () }

theorem hooking_saving :
    (({} : World widgetBodies).beginInit {} "Widget" 1 .null (some (widget [saving]))).host.log =
      [ .action ⟨"save_item", (widget [saving]).methodCallback 1 0 saving, 5, .exact 2⟩,
        .command "acme save" ((widget [saving]).methodCallback 1 0 saving),
        .action ⟨"wp_ajax_save_item", (widget [saving]).methodCallback 1 0 saving, 11, .exact 2⟩,
        .action
          ⟨"wp_ajax_nopriv_save_item", (widget [saving]).methodCallback 1 0 saving, 11, .exact 2⟩,
        .action ⟨"init", (widget [saving]).directivesCallback 1, 11, .exact 0⟩,
        .action ⟨"rest_api_init", (widget [saving]).routesCallback 1, 11, .exact 0⟩ ] ∧
    "acme save" ∈ Directive.commands saving.doc ∧
    HookKind.command.acceptsName "acme save" = true := by
  have step := hooking (widgetProgram [saving]) ⟨"Widget", 1, .null⟩ (widget [saving]) {}
  have hmem : "acme save" ∈ Directive.commands saving.doc := by decide
  exact ⟨step.log.trans rfl, hmem, (step.fitting saving.doc).2.1 _ hmem⟩

def marked : Method widgetBodies :=
  { name := "r#type", argCount := 0, doc := " @ajax", body := () }

/-- Not every handler is registered: one without a name may be called after an unfit method. -/
theorem unfit_handler : ¬∀ (settings : Settings) (reflection : Reflection widgetBodies)
    (serial : Serial) (component : Identity) (args : Value) (world : World widgetBodies),
    (world.beginInit settings component serial args (some reflection)).host.log =
      world.host.log ++ reflection.requested settings serial handlerNames := by
  intro h
  have hlength := congrArg List.length (h {} (widget [marked]) 1 "Widget" .null {})
  have hsent : (({} : World widgetBodies).beginInit {} "Widget" 1 .null
      (some (widget [marked]))).host.log.length = 2 := by decide
  have hasked : (({} : World widgetBodies).host.log ++
      (widget [marked]).requested {} 1 handlerNames).length = 4 := by decide
  rw [hsent, hasked] at hlength
  cases hlength

end HookWiring
