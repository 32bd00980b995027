import HookWiring.Session.Member
import HookWiring.System.Code

/-!
# Reports

How a session writes down what it sees, as values: errors, panics, instances, route metadata and
lifecycle states.
-/

namespace HookWiring.Session.Report

def panicked (message : String) : Value :=
  .object [("panic", .text message)]

def callbackErrorKind : CallbackError → String
  | .argument _ => "Argument"
  | .unencodable => "Return"
  | .detached => "Detached"
  | .custom _ => "Custom"

def callbackError (error : CallbackError) : Value :=
  let position := match error with
    | .argument index => [("index", Value.ofNat index)]
    | _ => []
  .object (("error", .text (callbackErrorKind error)) :: ("message", .text error.message) ::
    position)

def wiringErrorKind : WiringError → String
  | .duplicate _ => "DuplicateInstantiation"
  | .reentrant _ => "ReentrantInstantiation"
  | .failed _ => "FailedInstantiation"
  | .invalidName _ _ => "InvalidHookName"
  | .callback _ => "Callback"
  | .custom _ => "Custom"

def wiringError (error : WiringError) : Value :=
  .object [("error", .text (wiringErrorKind error)), ("message", .text error.message)]

def called : Except CallbackError Value → Value
  | .ok value => .object [("value", value)]
  | .error error => callbackError error

def fired : Except CallbackError Nat → Value
  | .ok ran => .object [("ran", .ofNat ran)]
  | .error error => callbackError error

def optionalText : Option String → Value
  | some text => .text text
  | none => .null

def api (api : Api) : Value :=
  .object [
    ("namespace", .text api.space),
    ("version", .text api.version),
    ("subspace", .text api.subspace),
    ("prefix", optionalText api.mount?),
    ("routes", .list (api.routes.entries.map fun (path, config) => .list [.text path, config]))]

def route (route : Route) : Value :=
  .object [("prefix", .text route.mount), ("base_path", .text route.basePath),
    ("config", route.config)]

def state : LifecycleState → Value
  | .uninitialized => .text "Uninitialized"
  | .constructed => .text "Constructed"
  | .hooked => .text "Hooked"
  | .ready => .text "Ready"
  | .failed => .text "Failed"

def argCount : ArgCount → Value
  | .exact count => .ofNat count
  | .unbounded => .text "unbounded"

def instanceDebug (component : Identity) (serial : Serial) : String :=
  let name := ((Member.ofIdentity? component).map Member.name).getD component
  "Handle(" ++ name ++ "#" ++ toString serial ++ ")"

variable {B : Bodies}

def handle (serial : Serial) : Code B Value := do
  let found ← Code.query (.read serial)
  return .object [("serial", .ofNat serial), ("args", found.args),
    ("debug", .text (instanceDebug found.component serial))]

def acquired : Except WiringError Serial → Code B Value
  | .ok serial => handle serial
  | .error error => .done (wiringError error)

def found : Option Serial → Code B Value
  | some serial => handle serial
  | none => .done .null

end HookWiring.Session.Report
