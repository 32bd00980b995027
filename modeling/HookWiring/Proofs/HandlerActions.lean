import HookWiring.Proofs.ApiFiring
import HookWiring.Proofs.StableOrder

/-!
# Actions behind handlers

An ajax handler is behind two actions, one for requests with a login and one for requests without.
With default settings the name of the second is that of the first with `nopriv_` between the prefix
and the name of the handler. So a handler whose own name starts with `nopriv_` has its first action
in common with the second one of another handler. All other handlers are kept apart.
-/

namespace HookWiring

variable {B : Bodies}

def Declaration.binding (declaration : Declaration B) (action : String) : Binding B :=
  { name := action, callback := declaration.callback, priority := declaration.priority,
    argCount := declaration.argCount }

/-! ### Names of actions -/

namespace Settings

variable {name other : String}

theorem ajaxNames_default (name : String) :
    ({} : Settings).ajaxNames name = ["wp_ajax_" ++ name, "wp_ajax_nopriv_" ++ name] :=
  rfl

theorem public_eq (name : String) :
    "wp_ajax_nopriv_" ++ name = "wp_ajax_" ++ ("nopriv_" ++ name) := by
  rw [← String.append_assoc]
  rfl

theorem login_ne_public (name : String) : "wp_ajax_" ++ name ≠ "wp_ajax_nopriv_" ++ name := by
  intro h
  rw [public_eq, String.append_right_inj] at h
  have hlength := congrArg String.length h
  rw [String.length_append] at hlength
  have hprefix : "nopriv_".length = 7 := rfl
  omega

theorem login_mem_ajaxNames_iff : "wp_ajax_" ++ name ∈ ({} : Settings).ajaxNames other ↔
    other = name ∨ "nopriv_" ++ other = name := by
  rw [ajaxNames_default, List.mem_cons, List.mem_singleton, public_eq, String.append_right_inj,
    String.append_right_inj, eq_comm, eq_comm (b := "nopriv_" ++ other)]

theorem public_mem_ajaxNames_iff : "wp_ajax_nopriv_" ++ name ∈ ({} : Settings).ajaxNames other ↔
    other = name ∨ other = "nopriv_" ++ name := by
  rw [ajaxNames_default, List.mem_cons, List.mem_singleton, String.append_right_inj, public_eq,
    String.append_right_inj, or_comm, eq_comm, eq_comm (b := other)]

end Settings

/-! ### Registered handlers -/

section Registered

variable {declarations : List (Declaration B)}

theorem Declaration.registrations_of_ajax {declaration : Declaration B}
    (ajax : declaration.kind = .ajax) : declaration.registrations {} =
      [.action (declaration.binding ("wp_ajax_" ++ declaration.name)),
        .action (declaration.binding ("wp_ajax_nopriv_" ++ declaration.name))] := by
  obtain ⟨kind, name, priority, argCount, callback⟩ := declaration
  cases ajax
  rfl

/-- The two actions of a handler have different names, so at most one of them is the given one. -/
theorem Declaration.filterMap_registrations {declaration : Declaration B}
    (ajax : declaration.kind = .ajax) (action : String) :
    (declaration.registrations {}).filterMap (Registration.actionNamed? action) =
      if action ∈ ({} : Settings).ajaxNames declaration.name then [declaration.binding action]
      else [] := by
  have hne := Settings.login_ne_public declaration.name
  rw [Declaration.registrations_of_ajax ajax, Settings.ajaxNames_default]
  by_cases hlogin : action = "wp_ajax_" ++ declaration.name
  · subst hlogin
    simp [Registration.actionNamed?, binding, hne.symm]
  · by_cases hpublic : action = "wp_ajax_nopriv_" ++ declaration.name
    · subst hpublic
      simp [Registration.actionNamed?, binding, hne]
    · simp [Registration.actionNamed?, binding, hlogin, hpublic, Ne.symm hlogin, Ne.symm hpublic]

theorem actions_registerAll (ajax : ∀ declaration ∈ declarations, declaration.kind = .ajax)
    (action : String) :
    (({} : Host B).register (Declaration.registerAll {} declarations)).actions action =
      (declarations.filter fun declaration =>
        action ∈ ({} : Settings).ajaxNames declaration.name).map (·.binding action) := by
  change (declarations.flatMap (Declaration.registrations {})).filterMap
    (Registration.actionNamed? action) = _
  induction declarations with
  | nil => rfl
  | cons declaration more ih =>
    obtain ⟨hfirst, hmore⟩ := List.forall_mem_cons.mp ajax
    rw [List.flatMap_cons, List.filterMap_append, Declaration.filterMap_registrations hfirst,
      ih hmore]
    by_cases hmem : action ∈ ({} : Settings).ajaxNames declaration.name
    · simp [hmem]
    · simp [hmem]

end Registered

/-- The action belongs to the handlers: each has one binding, in order, and a firing runs them. -/
structure Host.Serves (host : Host B) (action : String) (handlers : List (Declaration B)) :
    Prop where
  actions : host.actions action = handlers.map (·.binding action)
  runs : ∀ scheduled, Host.Schedule (handlers.map (·.binding action)) scheduled →
    ∀ (program : Program B) (world : World B), world.host = host →
      ∀ (args : List Value) (depth : Nat),
        (Code.fire action args).run (program.serve depth) world =
          ((Code.runEach args scheduled).run (program.serve depth) world).bind
            fun reached after => .returned (reached.map fun _ => handlers.length) after

theorem Host.serves {host : Host B} {action : String} {handlers : List (Declaration B)}
    (hactions : host.actions action = handlers.map (·.binding action)) :
    host.Serves action handlers where
  actions := hactions
  runs := by
    rintro scheduled schedule program world rfl args depth
    have hlength : (Host.inOrder (world.host.actions action)).length = handlers.length := by
      rw [(Host.inOrder_perm _).length_eq, hactions, List.length_map]
    rw [program.run_fire, hlength, hactions, schedule.eq_inOrder]

structure HandlerActions (declarations : List (Declaration B)) (host : Host B) : Prop where
  login : ∀ name, host.Serves ("wp_ajax_" ++ name)
    (declarations.filter fun handler => handler.name = name ∨ "nopriv_" ++ handler.name = name)
  anonymous : ∀ name, host.Serves ("wp_ajax_nopriv_" ++ name)
    (declarations.filter fun handler => handler.name = name ∨ handler.name = "nopriv_" ++ name)
  apart : ∀ name, (∀ handler ∈ declarations,
      "nopriv_" ++ handler.name ≠ name ∧ handler.name ≠ "nopriv_" ++ name) →
    ∀ action ∈ ({} : Settings).ajaxNames name,
      host.Serves action (declarations.filter fun handler => handler.name = name)

theorem handlerActions (declarations : List (Declaration B))
    (ajax : ∀ declaration ∈ declarations, declaration.kind = .ajax) :
    HandlerActions declarations
      (({} : Host B).register (Declaration.registerAll {} declarations)) := by
  constructor
  case login =>
    intro name
    refine Host.serves ((actions_registerAll ajax _).trans ?_)
    simp only [Settings.login_mem_ajaxNames_iff]
  case anonymous =>
    intro name
    refine Host.serves ((actions_registerAll ajax _).trans ?_)
    simp only [Settings.public_mem_ajaxNames_iff]
  case apart =>
    intro name hapart action hmem
    refine Host.serves ((actions_registerAll ajax action).trans ?_)
    congr 1
    refine List.filter_congr fun handler hhandler => ?_
    obtain ⟨hfirst, hsecond⟩ := hapart handler hhandler
    rw [Settings.ajaxNames_default, List.mem_cons, List.mem_singleton] at hmem
    rcases hmem with rfl | rfl
    · simp [Settings.login_mem_ajaxNames_iff, hfirst]
    · simp [Settings.public_mem_ajaxNames_iff, hsecond]

def pingHandler (name : String) (index : Nat) : Declaration widgetBodies :=
  { kind := .ajax, name, priority := 11, argCount := .exact 0,
    callback := { component := "Widget", method := name, target := .method 1 index () } }

def pingHandlers : List (Declaration widgetBodies) :=
  [pingHandler "ping" 0, pingHandler "nopriv_ping" 1, pingHandler "pong" 2]

theorem handlerActions_pings :
    (∀ handler ∈ pingHandlers, handler.kind = .ajax) ∧
    ∃ host : Host widgetBodies, HandlerActions pingHandlers host ∧
      (host.actions "wp_ajax_nopriv_ping").map (·.callback.method) = ["ping", "nopriv_ping"] ∧
      host.Serves "wp_ajax_nopriv_pong" [pingHandler "pong" 2] := by
  have ajax : ∀ handler ∈ pingHandlers, handler.kind = .ajax := by decide
  have actions := handlerActions pingHandlers ajax
  have hpong : ∀ handler ∈ pingHandlers,
      "nopriv_" ++ handler.name ≠ "pong" ∧ handler.name ≠ "nopriv_" ++ "pong" := by decide
  have hping := congrArg (List.map fun binding => binding.callback.method)
    (actions.anonymous "ping").actions
  exact ⟨ajax, _, actions, hping, actions.apart "pong" hpong _ (by decide)⟩

/-- Not every handler is kept apart: the public action of one can be the login action of another. -/
theorem shared_action : ¬∀ (declarations : List (Declaration widgetBodies)) (name : String),
    (∀ handler ∈ declarations,
      handler.kind = .ajax ∧ HookKind.ajax.acceptsName handler.name = true) →
    HookKind.ajax.acceptsName name = true → ∀ action ∈ ({} : Settings).ajaxNames name,
      (({} : Host widgetBodies).register (Declaration.registerAll {} declarations)).Serves action
        (declarations.filter fun handler => handler.name = name) := by
  intro h
  have hserves := h pingHandlers "ping" (by decide) (by decide) "wp_ajax_nopriv_ping" (by decide)
  have hbound : ((({} : Host widgetBodies).register (Declaration.registerAll {}
      pingHandlers)).actions "wp_ajax_nopriv_ping").length = 2 := by decide
  have hnamed : (pingHandlers.filter fun handler => handler.name = "ping").length = 1 := by decide
  rw [hserves.actions, List.length_map, hnamed] at hbound
  cases hbound

end HookWiring
