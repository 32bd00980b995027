import HookWiring.Proofs.BuiltIns
import HookWiring.Proofs.ClassDirectives
import HookWiring.System.Firing

/-!
# Firing the hooks of an API

A host fires the two hooks of an API whenever it likes, each as often as it likes. Firing the first
gives the metadata of the instance its annotated values; from then on the metadata stays. Firing the
second registers the routes under the path that the metadata then has. Where both hooks have one
name a single firing does both, and the metadata comes first, since the two actions have the same
priority and the one for the metadata was registered first.
-/

namespace HookWiring

variable {B : Bodies}

def Code.fireAll : List (String × List Value) → Code B (List (Except CallbackError Nat))
  | [] => .done []
  | (name, args) :: rest =>
    (fire name args).bind fun count => (fireAll rest).bind fun counts => .done (count :: counts)

def Settings.initHooks (settings : Settings) : List String :=
  [settings.apiInit, settings.routeInit]

namespace World

def metadata (world : World B) (serial : Serial) : Api :=
  (world.instanceAt serial).api

def mountRoutes (world : World B) (serial : Serial) : World B :=
  { world with host := world.host.register ((world.metadata serial).mounted.map .route) }

def fired (settings : Settings) (serial : Serial) (directives : List Directive.Api)
    (world : World B) (name : String) : World B :=
  let annotated :=
    if settings.apiInit = name then world.changeApi serial (·.annotated directives) else world
  if settings.routeInit = name then annotated.mountRoutes serial else annotated

def directed (settings : Settings) (serial : Serial) (directives : List Directive.Api)
    (world : World B) (name : String) : World B :=
  if settings.apiInit = name then world.changeApi serial (·.annotated directives) else world

theorem fired_eq (settings : Settings) (serial : Serial) (directives : List Directive.Api)
    (world : World B) (name : String) : world.fired settings serial directives name =
      if settings.routeInit = name then
        (world.directed settings serial directives name).mountRoutes serial
      else world.directed settings serial directives name :=
  rfl

/-- The instance is there, its reflection is wired, and no other action is on the two hooks. -/
structure Exposes (world : World B) (settings : Settings) (reflection : Reflection B)
    (life : Life) : Prop where
  alive : world.hostAlive = true
  bears : world.Bears life
  alone : ∃ earlier later, world.host.log =
      earlier ++ reflection.registrations life.serial settings ++ later ∧
    ∀ name ∈ settings.initHooks, ∀ registration ∈
      earlier ++ reflection.unexposed.registrations life.serial settings ++ later,
      registration.actionNamed? name = none

namespace Exposes

variable {world : World B} {settings : Settings} {reflection : Reflection B} {life : Life}

theorem changeApi (exposes : world.Exposes settings reflection life) (change : Api → Api) :
    (world.changeApi life.serial change).Exposes settings reflection life where
  alive := exposes.alive
  bears := by
    have hcomponents : (world.changeApi life.serial change).instances.map Instance.component =
        world.instances.map Instance.component :=
      world.components_modifyInstance life.serial fun _ => rfl
    exact exposes.bears.mono (hcomponents ▸ List.prefix_rfl)
  alone := exposes.alone

theorem mountRoutes (exposes : world.Exposes settings reflection life) :
    (world.mountRoutes life.serial).Exposes settings reflection life where
  alive := exposes.alive
  bears := exposes.bears
  alone := by
    obtain ⟨earlier, later, hlog, hnone⟩ := exposes.alone
    let routes : List (Registration B) := (world.metadata life.serial).mounted.map .route
    refine ⟨earlier, later ++ routes, ?_, ?_⟩
    · rw [World.mountRoutes, Host.log_register, hlog, List.append_assoc]
    · intro name hname registration hmem
      rw [← List.append_assoc] at hmem
      rcases List.mem_append.mp hmem with hmem | hmem
      · exact hnone name hname registration hmem
      · obtain ⟨route, -, rfl⟩ := List.mem_map.mp hmem
        rfl

theorem directed (exposes : world.Exposes settings reflection life)
    (directives : List Directive.Api) (name : String) :
    (world.directed settings life.serial directives name).Exposes settings reflection life := by
  rw [World.directed]
  split
  · exact exposes.changeApi _
  · exact exposes

theorem fired (exposes : world.Exposes settings reflection life)
    (directives : List Directive.Api) (name : String) :
    (world.fired settings life.serial directives name).Exposes settings reflection life := by
  rw [fired_eq]
  split
  · exact (exposes.directed directives name).mountRoutes
  · exact exposes.directed directives name

theorem actions_eq (exposes : world.Exposes settings reflection life)
    (hasApi : reflection.hasApi = true) {name : String} (hname : name ∈ settings.initHooks) :
    world.host.actions name = reflection.ownActions settings life.serial name := by
  obtain ⟨earlier, later, hlog, hnone⟩ := exposes.alone
  have hnil (part : List (Registration B)) (h : part ⊆
      earlier ++ reflection.unexposed.registrations life.serial settings ++ later) :
      part.filterMap (Registration.actionNamed? name) = [] :=
    List.filterMap_eq_nil_iff.mpr fun registration hmem => hnone name hname _ (h hmem)
  rw [Host.actions, hlog, Reflection.registrations_of_hasApi hasApi]
  simp only [List.filterMap_append, Reflection.filterMap_builtInRegistrations]
  rw [hnil earlier (by simp), hnil later (by simp),
    hnil (reflection.unexposed.registrations life.serial settings)
      (by simp [List.subset_append_of_subset_left])]
  simp

end Exposes

end World

/-! ### One firing -/

namespace Host

theorem inOrder_of_priority {bindings : List (Binding B)} {priority : Int}
    (h : ∀ binding ∈ bindings, binding.priority = priority) : inOrder bindings = bindings := by
  apply List.mergeSort_of_pairwise
  apply List.pairwise_of_forall_mem_list
  intro first hfirst second hsecond
  simp [h first hfirst, h second hsecond]

end Host

namespace Reflection

variable {reflection : Reflection B} {settings : Settings} {serial : Serial} {name : String}

theorem priority_of_mem_ownAction {hook : String} {callback : Callback B} {binding : Binding B}
    (h : binding ∈ ownAction hook callback name) : binding.priority = 11 := by
  rw [ownAction] at h
  split at h
  · rw [List.mem_singleton.mp h]
  · cases h

theorem length_of_mem_initHooks
    (fits : ∀ name ∈ settings.initHooks, HookKind.action.acceptsName name = true)
    (hname : name ∈ settings.initHooks) :
    (reflection.ownActions settings serial name).length =
      if settings.apiInit = settings.routeInit then 2 else 1 := by
  obtain ⟨hfirst, hsecond⟩ := List.forall_mem_cons.mp fits
  rw [length_ownActions, hfirst, List.forall_mem_singleton.mp hsecond]
  simp only [Settings.initHooks, List.mem_cons, List.not_mem_nil, or_false] at hname
  rcases hname with rfl | rfl
  · by_cases h : settings.apiInit = settings.routeInit <;> simp [h, eq_comm]
  · by_cases h : settings.apiInit = settings.routeInit <;> simp [h]

theorem inOrder_ownActions : Host.inOrder (reflection.ownActions settings serial name) =
    reflection.ownActions settings serial name := by
  apply Host.inOrder_of_priority
  intro binding hmem
  rcases List.mem_append.mp hmem with hmem | hmem
  · exact priority_of_mem_ownAction hmem
  · exact priority_of_mem_ownAction hmem

end Reflection

namespace Program

variable {program : Program B}

theorem run_runEach_append {σ : Type} (server : Server B σ) (args : List Value)
    (first second : List (Binding B)) (state : σ) :
    (Code.runEach args (first ++ second)).run server state =
      ((Code.runEach args first).run server state).bind fun
        | .ok _ => (Code.runEach args second).run server
        | .error error => fun after => .returned (.error error) after := by
  induction first generalizing state with
  | nil => rfl
  | cons binding more ih =>
    rw [List.cons_append, Code.runEach, Code.runEach, Code.run_bind, Code.run_bind]
    cases (Code.call binding.callback (binding.takeArgs args)).run server state with
    | returned answer after =>
      cases answer with
      | ok => exact ih after
      | error => rfl
    | panicked => rfl
    | exhausted => rfl

variable (program) in
theorem run_fire (name : String) (args : List Value) (depth : Nat) (world : World B) :
    (Code.fire name args).run (program.serve depth) world =
      ((Code.runEach args (Host.inOrder (world.host.actions name))).run (program.serve depth)
        world).bind fun reached after =>
          .returned (reached.map fun _ => (Host.inOrder (world.host.actions name)).length)
            after := by
  change ((Code.query (.actions name)).bind fun bindings =>
    (Code.runEach args bindings).bind _).run (program.serve depth) world = _
  rw [run_query_bind]
  change ((Code.runEach args (Host.inOrder (world.host.actions name))).bind _).run
    (program.serve depth) world = _
  rw [Code.run_bind]
  congr 1
  funext reached after
  cases reached <;> rfl

theorem run_ownAction {hook name : String} {callback : Callback B} {world after : World B}
    {depth : Nat} (fits : HookKind.action.acceptsName hook = true)
    (invoked : ∀ args, ∃ value, (program.invoke callback args).run (program.serve depth) world =
      .returned (.ok value) after) (args : List Value) :
    (Code.runEach args (Reflection.ownAction hook callback name)).run
        (program.serve (depth + 1)) world =
      .returned (.ok ()) (if hook = name then after else world) := by
  by_cases hname : hook = name
  · obtain ⟨value, hvalue⟩ := invoked (args.take 0)
    rw [Reflection.ownAction, if_pos ⟨hname, fits⟩, if_pos hname, Code.runEach, Code.run_bind]
    have hcall : (Code.call callback (args.take 0)).run (program.serve (depth + 1)) world =
        .returned (.ok value) after := by
      simp only [Code.call, Code.request, Code.run, serve, hvalue]
    exact congrArg (Outcome.bind · _) hcall
  · rw [Reflection.ownAction, if_neg fun h => hname h.1, if_neg hname]
    rfl

theorem invoke_directivesCallback {base : Reflection B} (alone : base.setters = .empty)
    (serial : Serial) (args : List Value) (depth : Nat) (world : World B) :
    (program.invoke (base.withApi.directivesCallback serial) args).run (program.serve depth) world =
      .returned (.ok .null)
        (world.changeApi serial (·.annotated (Directive.api base.classDoc))) := by
  have happly := program.run_applyDirectives alone serial depth world
  change ((program.applyDirectives base.withApi serial).bind fun _ =>
    (Code.done (.ok .null) : Code B (Except CallbackError Value))).run (program.serve depth)
      world = _
  rw [Code.run_bind, happly]
  rfl

variable (program) in
theorem run_registerRoutes (serial : Serial) (depth : Nat) (world : World B) :
    (Code.registerRoutes serial).run (program.serve depth) world =
      .returned (world.metadata serial).mounted.length (world.mountRoutes serial) :=
  (run_query_bind depth (.read serial) _ world).trans (run_query_bind depth _ _ world)

theorem invoke_routesCallback {reflection : Reflection B} {serial : Serial} {world : World B}
    (alive : world.hostAlive = true) (args : List Value) (depth : Nat) :
    (program.invoke (reflection.routesCallback serial) args).run (program.serve depth) world =
      .returned (.ok (.ofNat (world.instanceAt serial).api.mounted.length))
        (world.mountRoutes serial) := by
  refine (run_withHost alive depth).trans ?_
  change ((Code.registerRoutes serial).bind _).run (program.serve depth) world = _
  rw [Code.run_bind, run_registerRoutes]
  rfl

end Program

/-! ### Any number of firings -/

namespace World

variable {program : Program B} {life : Life} {base : Reflection B} {world : World B}
variable {settings : Settings} {directives : List Directive.Api}

def firedAll (settings : Settings) (serial : Serial) (directives : List Directive.Api)
    (world : World B) (names : List String) : World B :=
  names.foldl (World.fired settings serial directives) world

theorem firedAll_append (names more : List String) (serial : Serial) :
    world.firedAll settings serial directives (names ++ more) =
      (world.firedAll settings serial directives names).firedAll settings serial directives more :=
  List.foldl_append

theorem Exposes.run_ownActions (exposes : world.Exposes program.settings base.withApi life)
    (alone : base.setters = .empty)
    (fits : ∀ name ∈ program.settings.initHooks, HookKind.action.acceptsName name = true)
    (name : String) (args : List Value) (depth : Nat) :
    (Code.runEach args (base.withApi.ownActions program.settings life.serial name)).run
        (program.serve (depth + 1)) world =
      .returned (.ok ())
        (world.fired program.settings life.serial (Directive.api base.classDoc) name) := by
  obtain ⟨hfirst, hsecond⟩ := List.forall_mem_cons.mp fits
  -- the routes are registered in the world that the directives have left
  have halive := (exposes.directed (Directive.api base.classDoc) name).alive
  have hdirectives : (Code.runEach args (Reflection.ownAction program.settings.apiInit
      (base.withApi.directivesCallback life.serial) name)).run (program.serve (depth + 1)) world =
      .returned (.ok ())
        (world.directed program.settings life.serial (Directive.api base.classDoc) name) :=
    Program.run_ownAction hfirst (fun args =>
      ⟨_, Program.invoke_directivesCallback alone life.serial args depth world⟩) args
  rw [Reflection.ownActions, Program.run_runEach_append, hdirectives]
  exact Program.run_ownAction (hsecond _ List.mem_cons_self) (fun args =>
    ⟨_, Program.invoke_routesCallback halive args depth⟩) args

theorem Exposes.run_fire (exposes : world.Exposes program.settings base.withApi life)
    (alone : base.setters = .empty)
    (fits : ∀ name ∈ program.settings.initHooks, HookKind.action.acceptsName name = true)
    {name : String} (hname : name ∈ program.settings.initHooks) (args : List Value) (depth : Nat) :
    (Code.fire name args).run (program.serve (depth + 1)) world =
      .returned (.ok (base.withApi.ownActions program.settings life.serial name).length)
        (world.fired program.settings life.serial (Directive.api base.classDoc) name) := by
  have hbindings : Host.inOrder (world.host.actions name) =
      base.withApi.ownActions program.settings life.serial name := by
    rw [exposes.actions_eq rfl hname, Reflection.inOrder_ownActions]
  rw [program.run_fire, hbindings, exposes.run_ownActions alone fits name args depth]
  rfl

theorem Exposes.run_fireAll (exposes : world.Exposes program.settings base.withApi life)
    (alone : base.setters = .empty)
    (fits : ∀ name ∈ program.settings.initHooks, HookKind.action.acceptsName name = true)
    (firings : List (String × List Value))
    (hnames : ∀ firing ∈ firings, firing.1 ∈ program.settings.initHooks) (depth : Nat) :
    (Code.fireAll firings).run (program.serve (depth + 1)) world =
      .returned (firings.map fun firing =>
          .ok (base.withApi.ownActions program.settings life.serial firing.1).length)
        (world.firedAll program.settings life.serial (Directive.api base.classDoc)
          (firings.map Prod.fst)) := by
  induction firings generalizing world with
  | nil => rfl
  | cons firing more ih =>
    obtain ⟨hname, hmore⟩ := List.forall_mem_cons.mp hnames
    have hfirst := exposes.run_fire alone fits hname firing.2 depth
    have hrest := ih (exposes.fired (Directive.api base.classDoc) firing.1) hmore
    rw [Code.fireAll, Code.run_bind, hfirst, Outcome.bind_returned, Code.run_bind, hrest]
    rfl

theorem instanceAt_changeApi (bears : world.Bears life) (change : Api → Api) :
    (world.changeApi life.serial change).instanceAt life.serial =
      { world.instanceAt life.serial with api := change (world.instanceAt life.serial).api } := by
  obtain ⟨-, hget⟩ := bears
  rw [List.getElem?_map, Option.map_eq_some_iff] at hget
  obtain ⟨found, hfound, -⟩ := hget
  simp only [instanceAt, changeApi, modifyInstance, List.getElem?_modify_eq, hfound,
    Option.map_eq_map, Option.map_some, Option.getD_some]

theorem Exposes.metadata_fired {reflection : Reflection B}
    (exposes : world.Exposes settings reflection life) (name : String) :
    (world.fired settings life.serial directives name).metadata life.serial =
      if settings.apiInit = name then (world.metadata life.serial).annotated directives
      else world.metadata life.serial := by
  have hinstances : (world.fired settings life.serial directives name).instances =
      (world.directed settings life.serial directives name).instances := by
    rw [fired_eq]
    split <;> rfl
  rw [metadata, instanceAt, hinstances, World.directed]
  split
  · exact congrArg Instance.api (instanceAt_changeApi exposes.bears _)
  · rfl

theorem Exposes.metadata_firedAll {reflection : Reflection B}
    (exposes : world.Exposes settings reflection life) (names : List String) :
    (world.firedAll settings life.serial directives names).metadata life.serial =
      if settings.apiInit ∈ names then (world.metadata life.serial).annotated directives
      else world.metadata life.serial := by
  induction names generalizing world with
  | nil => rfl
  | cons name more ih =>
    change ((world.fired settings life.serial directives name).firedAll settings life.serial
      directives more).metadata life.serial = _
    rw [ih (exposes.fired directives name), exposes.metadata_fired]
    by_cases hname : settings.apiInit = name
    · simp [hname, Api.annotated_annotated]
    · simp [hname]

theorem log_fired (serial : Serial) (name : String) :
    (world.fired settings serial directives name).host.log = world.host.log ++
      if settings.routeInit = name then
        ((world.fired settings serial directives name).metadata serial).mounted.map .route
      else [] := by
  have hlog : (world.directed settings serial directives name).host.log = world.host.log := by
    rw [directed]
    split <;> rfl
  rw [fired_eq]
  split
  · rw [mountRoutes, Host.log_register, hlog]
    rfl
  · rw [hlog, List.append_nil]

theorem log_firedAll_concat (serial : Serial) (names : List String) (name : String) :
    (world.firedAll settings serial directives (names ++ [name])).host.log =
      (world.firedAll settings serial directives names).host.log ++
        if settings.routeInit = name then
          ((world.firedAll settings serial directives (names ++ [name])).metadata
            serial).mounted.map .route
        else [] := by
  rw [firedAll_append]
  exact log_fired serial name

end World

/--
Firing the hooks of an API, in any order and as often as the host likes: `after` gives the worlds
that the hooks with some names lead to.
-/
structure ApiFiring (program : Program B) (serial : Serial) (directives : List Directive.Api)
    (world : World B) (after : List String → World B) : Prop where
  fires : ∀ firings : List (String × List Value),
    (∀ firing ∈ firings, firing.1 ∈ program.settings.initHooks) → ∀ depth : Nat,
      (Code.fireAll firings).run (program.serve (depth + 1)) world =
        .returned (firings.map fun _ =>
            .ok (if program.settings.apiInit = program.settings.routeInit then 2 else 1))
          (after (firings.map Prod.fst))
  fields : ∀ names, program.settings.apiInit ∈ names → ∀ field,
    ((after names).metadata serial).field field =
      (Api.lastValue? directives field).getD ((world.metadata serial).field field)
  table : ∀ names, ((after names).metadata serial).routes = (world.metadata serial).routes
  kept : ∀ names more, program.settings.apiInit ∈ names ∨ program.settings.apiInit ∉ more →
    (after (names ++ more)).metadata serial = (after names).metadata serial
  appended : ∀ names name, (after (names ++ [name])).host.log = (after names).host.log ++
    if program.settings.routeInit = name then
      ((after (names ++ [name])).metadata serial).mounted.map .route
    else []
  mounted : ∀ api : Api, api.space ≠ "" → api.version ≠ "" →
    api.mounted = api.routes.entries.map fun (basePath, config) =>
      { mount := api.space ++ "/v" ++ api.version ++ api.subpath, basePath, config }
  nothing : ∀ api : Api,
    api.mounted = [] ↔ api.space = "" ∨ api.version = "" ∨ api.routes.entries = []
  filled : ∀ names field, ((after names).metadata serial).field field = "" →
    (world.metadata serial).field field = ""

theorem apiFiring (program : Program B) (life : Life) (base : Reflection B) (world : World B)
    (alone : base.setters = .empty)
    (fits : ∀ name ∈ program.settings.initHooks, HookKind.action.acceptsName name = true)
    (exposes : world.Exposes program.settings base.withApi life) :
    ApiFiring program life.serial (Directive.api base.classDoc) world
      (world.firedAll program.settings life.serial (Directive.api base.classDoc)) := by
  constructor
  case fires =>
    intro firings hnames depth
    rw [exposes.run_fireAll alone fits firings hnames depth]
    congr 1
    refine List.map_congr_left fun firing hmem => ?_
    rw [Reflection.length_of_mem_initHooks fits (hnames firing hmem)]
  case fields =>
    intro names hname field
    rw [exposes.metadata_firedAll, if_pos hname, Api.field_annotated]
  case table =>
    intro names
    rw [exposes.metadata_firedAll]
    split <;> rfl
  case kept =>
    intro names more h
    simp only [exposes.metadata_firedAll, List.mem_append]
    rcases h with h | h <;> simp [h]
  case appended => exact fun names name => World.log_firedAll_concat life.serial names name
  case mounted => exact fun api => Api.mounted_of_named
  case nothing => exact fun api => Api.mounted_eq_nil_iff
  case filled =>
    intro names field hempty
    rw [exposes.metadata_firedAll] at hempty
    split at hempty
    · exact (Api.field_annotated_eq_empty_iff.mp hempty).1
    · exact hempty

def catalogue : Reflection widgetBodies :=
  { component := "Widget"
    classDoc := " @api-Namespace acme\n @api-version 2\n * @api-VERSION 3 */" }

def catalogueWorld : World widgetBodies where
  host := ⟨catalogue.withApi.registrations 1 {}⟩
  instances := [{ component := "Widget", api := { routes := ⟨[("/items", .null)]⟩ } }]

theorem apiFiring_catalogue :
    catalogueWorld.Exposes (widgetProgram []).settings catalogue.withApi ⟨"Widget", 1, .null⟩ ∧
    ∃ after : World widgetBodies,
      (Code.fireAll [("init", []), ("rest_api_init", [.null])]).run ((widgetProgram []).serve 1)
        catalogueWorld = .returned [.ok 1, .ok 1] after ∧
      after.host.routes = [{ mount := "acme/v3", basePath := "/items", config := .null }] := by
  have fits : ∀ name ∈ (widgetProgram []).settings.initHooks,
      HookKind.action.acceptsName name = true := by decide
  have exposes : catalogueWorld.Exposes (widgetProgram []).settings catalogue.withApi
      ⟨"Widget", 1, .null⟩ :=
    { alive := rfl
      bears := ⟨Nat.one_pos, rfl⟩
      alone := ⟨[], [], (List.append_nil _).symm, nofun⟩ }
  have firing := apiFiring (widgetProgram []) ⟨"Widget", 1, .null⟩ catalogue catalogueWorld rfl fits
    exposes
  exact ⟨exposes, _, firing.fires [("init", []), ("rest_api_init", [.null])] (by decide) 0, by rfl⟩

end HookWiring
