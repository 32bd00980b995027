import HookWiring.Session.Setup
import HookWiring.System.Autoload

/-!
# Steps of a session

A session is a list of steps, each answered by a result and the events that it caused. Steps on
the host need the host to be held, steps on the registry need the registry; saved callbacks and
handles outlive both.
-/

namespace HookWiring.Session

inductive HostStep where
  | registrations
  | actions (name : String)
  | filters (name : String)
  | shortcodes
  | commands
  | routes
  | count
  | clear
  | fire (name : String) (args : List Value)
  | filter (name : String) (value : Value) (extra : List Value)
  | call (index : Option Nat) (args : List Value)
  | save (index : Option Nat) (name : String)

structure DeclarationSpec where
  kind : HookKind
  name : String
  priority : Int
  argCount : ArgCount
  component : Identity
  method : String
  body : HandlerBody

inductive RegistryStep where
  | get (member : Member)
  | state (member : Member)
  | size
  | concurrent (member : Member) (threads : Nat) (args : Value)
  | loadRegistered
  | api (member : Member) (change : Option ApiChange)
  | registerRoutes (member : Member)
  | paths (member : Member) (path : String)
  | settings
  | debug
  | add (spec : HandlerSpec)
  | register (declarations : List DeclarationSpec)
  | bind (declarations : List DeclarationSpec)

inductive Step where
  | host (step : HostStep)
  | registry (step : RegistryStep)
  | acquire (member : Member) (args : Value) (strict : Bool) (saveAs : String)
  | callSaved (name : String) (args : List Value)
  | sameHandle (member : Member) (first second : String)
  | dropHost
  | dropRegistry
  | nothing

structure State where
  world : World bodies := {}
  callbacks : Table String (Callback bodies) := .empty
  handles : Table String (Member × Serial) := .empty

structure Answer where
  result : Value
  events : List Value

namespace State

def run {ρ : Type} (setup : Setup) (state : State) (code : Code bodies ρ) :
    Except String ρ × State :=
  match code.run (setup.program.serve Setup.depth) state.world with
  | .returned value world => (.ok value, { state with world })
  | .panicked message world => (.error message, { state with world })
  | .exhausted => (.error "requests are nested too deeply", state)

def report (setup : Setup) (state : State) (code : Code bodies Value) : Value × State :=
  let (result, after) := state.run setup code
  match result with
  | .ok value => (value, after)
  | .error message => (Report.panicked message, after)

end State

def dropped : Value := .object [("error", .text "Dropped")]

/-- The columns of a callback among callbacks; it is numbered by the first with its closure. -/
def callbackColumns (callbacks : List (Callback bodies)) (callback : Callback bodies) :
    List (String × Value) :=
  [ ("component", .text callback.component), ("method", .text callback.method),
    ("cb", .ofNat (callback.firstSharing callbacks)) ]

def bindingRow (callbacks : List (Callback bodies)) (type : String) (binding : Binding bodies) :
    Value :=
  .object (("type", .text type) :: ("name", .text binding.name) ::
    ("priority", .ofInt binding.priority) :: ("arg_count", Report.argCount binding.argCount) ::
    callbackColumns callbacks binding.callback)

def namedRow (callbacks : List (Callback bodies)) (type name : String)
    (callback : Callback bodies) : Value :=
  .object (("type", .text type) :: ("name", .text name) :: callbackColumns callbacks callback)

def registrationRow (callbacks : List (Callback bodies)) : Registration bodies → Value
  | .action binding => bindingRow callbacks "action" binding
  | .filter binding => bindingRow callbacks "filter" binding
  | .shortcode name callback => namedRow callbacks "shortcode" name callback
  | .command name callback => namedRow callbacks "command" name callback
  | .route r => .object [("type", .text "route"), ("prefix", .text r.mount),
      ("base_path", .text r.basePath), ("config", r.config)]

def registrationRows (host : Host bodies) : Value :=
  .list (host.log.map (registrationRow host.callbacks))

def namedMethods (entries : List (String × Callback bodies)) : Value :=
  .list (entries.map fun (name, callback) => .list [.text name, .text callback.method])

def callbackAt? (host : Host bodies) (index : Option Nat) : Option (Callback bodies) := do
  (← host.log[← index]?).callback?

def callAndReport (callback : Callback bodies) (args : List Value) : Code bodies Value := do
  return Report.called (← Code.call callback args)

def HostStep.run (setup : Setup) (state : State) : HostStep → Value × State
  | .registrations => (registrationRows state.world.host, state)
  | .actions name => (registrationRows ⟨(state.world.host.actions name).map .action⟩, state)
  | .filters name => (registrationRows ⟨(state.world.host.filters name).map .filter⟩, state)
  | .shortcodes => (namedMethods state.world.host.shortcodes, state)
  | .commands => (namedMethods state.world.host.commands, state)
  | .routes => (.list (state.world.host.routes.map Report.route), state)
  | .count => (.ofNat state.world.host.log.length, state)
  | .clear => (.null, { state with world := { state.world with host := {} } })
  | .fire name args => state.report setup do return Report.fired (← Code.fire name args)
  | .filter name value extra =>
    state.report setup do return Report.called (← Code.filter name value extra)
  | .call index args => match callbackAt? state.world.host index with
    | some callback => state.report setup (callAndReport callback args)
    | none => (.null, state)
  | .save index name => match callbackAt? state.world.host index with
    | some callback => (.text callback.debug,
        { state with callbacks := state.callbacks.insert name callback })
    | none => (.null, state)

def registryDebug (settings : Settings) (identities : Nat) : String :=
  "Registry \x7b settings: Settings \x7b ajax_prefix: " ++ Text.quote settings.ajaxPrivate ++
    ", ajax_nopriv_prefix: " ++ Text.quote settings.ajaxPublic ++
    ", api_init_hook: " ++ Text.quote settings.apiInit ++
    ", route_init_hook: " ++ Text.quote settings.routeInit ++
    " \x7d, identities: " ++ toString identities ++ ", .. \x7d"

def DeclarationSpec.declare (spec : DeclarationSpec) :
    Code bodies (Except WiringError (Declaration bodies)) := do
  let callback ← Code.query (.newHandler spec.component spec.method spec.body)
  return Declaration.make spec.kind spec.name spec.priority spec.argCount callback

def declareAll :
    List DeclarationSpec → Code bodies (Except WiringError (List (Declaration bodies)))
  | [] => .done (.ok [])
  | spec :: rest => spec.declare.bind fun
    | .error error => .done (.error error)
    | .ok declaration => (declareAll rest).bind fun
      | .error error => .done (.error error)
      | .ok more => .done (.ok (declaration :: more))

/-- Ask for a component from several threads; all of them get the instance, or see the failure. -/
def acquireRepeatedly (member : Member) (args : Value) : Nat → Code bodies (List Serial)
  | 0 => .done []
  | threads + 1 => do
    let first ← (Code.acquire member.identity args false).attempt
    let rest ← acquireRepeatedly member args threads
    match first with
    | .ok (.ok serial) => return serial :: rest
    | _ => return rest

def allSame : List Serial → Bool
  | [] => true
  | first :: rest => rest.all (· == first)

def acquireAndSave (setup : Setup) (state : State) (member : Member) (args : Value)
    (strict : Bool) (saveAs : String) : Value × State :=
  let (result, after) := state.run setup do
    let answer ← Code.acquire member.identity args strict
    return (answer, ← Report.acquired answer)
  match result with
  | .error message => (Report.panicked message, after)
  | .ok (.ok serial, value) =>
    (value, { after with handles := after.handles.insert saveAs (member, serial) })
  | .ok (.error _, value) => (value, after)

def withInstance (member : Member) (code : Serial → Code bodies Value) : Code bodies Value := do
  match ← Code.query (.instanceOf member.identity) with
  | some serial => code serial
  | none => return .null

def RegistryStep.code (setup : Setup) : RegistryStep → Code bodies Value
  | .get member => do Report.found (← Code.query (.instanceOf member.identity))
  | .state member => do return Report.state (← Code.query (.state member.identity))
  | .size => do
    let size ← Code.query .size
    return .list [.ofNat size, .bool (size == 0)]
  | .concurrent member threads args => do
    let handles ← acquireRepeatedly member args threads
    return .object [("handles", .ofNat handles.length), ("same", .bool (allSame handles))]
  | .loadRegistered => do
    match ← Code.loadAll (Member.autoloaded.map Member.identity) with
    | .ok loaded => return .object [("loaded", .ofNat loaded)]
    | .error error => return Report.wiringError error
  | .api member change => withInstance member fun serial => changeApi serial change
  | .registerRoutes member => withInstance member fun serial => do
    return .object [("registered", .ofNat (← Code.registerRoutes serial))]
  | .paths member path => do
    let source := member.source.toList
    let resolver := setup.resolver.map Resolver.paths
    return .object [
      ("file", .text (String.ofList (PackageLocation.entryFile source))),
      ("dir", .text (String.ofList (PackageLocation.dir source path.toList resolver))),
      ("url", .text (String.ofList (PackageLocation.url source path.toList resolver)))]
  | .settings => return .object [
      ("ajax", .list [.text setup.settings.ajaxPrivate, .text setup.settings.ajaxPublic]),
      ("api_init", .text setup.settings.apiInit), ("route_init", .text setup.settings.routeInit)]
  | .debug => do return .text (registryDebug setup.settings (← Code.query .size))
  | .add spec => addHandler setup.settings spec
  | .register specs => do
    match ← declareAll specs with
    | .error error => return Report.wiringError error
    | .ok declarations =>
      Code.query (.register (Declaration.registerAll setup.settings declarations))
      return .object [("registered", .ofNat declarations.length)]
  | .bind specs => do
    match ← declareAll specs with
    | .error error => return Report.wiringError error
    | .ok declarations =>
      Code.query (.register (declarations.filterMap Declaration.commandRegistration?))
      return .object [("bound", .list (declarations.map fun declaration =>
        .bool declaration.commandRegistration?.isSome))]

def State.handle? (state : State) (member : Member) (name : String) : Option Serial :=
  match state.handles.get? name with
  | some (owner, serial) => if owner = member then some serial else none
  | none => none

def Step.run (setup : Setup) (state : State) : Step → Value × State
  | .host step => if state.world.hostHeld then step.run setup state else (dropped, state)
  | .registry step =>
    if state.world.registryHeld then state.report setup (step.code setup) else (dropped, state)
  | .acquire member args strict saveAs =>
    if state.world.registryHeld then acquireAndSave setup state member args strict saveAs
    else (dropped, state)
  | .callSaved name args => match state.callbacks.get? name with
    | some callback => state.report setup (callAndReport callback args)
    | none => (.null, state)
  | .sameHandle member first second =>
    match state.handle? member first, state.handle? member second with
    | some a, some b => (.bool (a == b), state)
    | _, _ => (.null, state)
  | .dropHost => (.null, { state with world := { state.world with hostHeld := false } })
  | .dropRegistry => (.null, { state with world := { state.world with registryHeld := false } })
  | .nothing => (.null, state)

def eventsSince (earlier later : World bodies) : List Value :=
  (later.journal.drop earlier.journal.length).filterMap event?

def runSteps (setup : Setup) : State → List Step → List Answer
  | _, [] => []
  | state, step :: rest =>
    let (result, after) := step.run setup state
    { result, events := eventsSince state.world after.world } :: runSteps setup after rest

def run (setup : Setup) (steps : List Step) : List Answer :=
  runSteps setup {} steps

structure Inspection where
  declarations : List (Declaration bodies)
  applied : Except String Nat
  events : List Value

def inspect (setup : Setup) (member : Member) (reflection : Reflection bodies) : Inspection :=
  let serial : Serial := 1
  let start : State := { world := { instances := [{ component := member.identity }] } }
  let (applied, after) := start.run setup (setup.program.applyDirectives reflection serial)
  { declarations := reflection.declarations serial setup.settings
    applied
    events := eventsSince start.world after.world ++
      [Report.api (after.world.instanceAt serial).api] }

end HookWiring.Session
