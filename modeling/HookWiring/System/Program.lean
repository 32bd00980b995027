import HookWiring.Settings
import HookWiring.System.Code
import HookWiring.Wiring

/-!
# Programs

A program gives the components their code: how each is constructed, hooked and initialised, and
what the named bodies of methods, setters and handlers do. From these it follows what running a
callback does. A method of a component needs its host; without one the callback is detached.
-/

namespace HookWiring

structure Component (B : Bodies) where
  construct : Serial → Code B Unit
  hooks : Serial → Code B (Option (Reflection B))
  init : Serial → Value → Code B Unit

structure Program (B : Bodies) where
  settings : Settings
  component : Identity → Component B
  method : B.Method → Serial → List Value → Code B (Except CallbackError Value)
  setter : B.Setter → Serial → String → Code B Unit
  handler : B.Handler → (component : Identity) → (method : String) → List Value →
    Code B (Except CallbackError Value)

def Code.registerRoutes {B : Bodies} (serial : Serial) : Code B Nat := do
  let routes := (← query (.read serial)).api.mounted
  query (.register (routes.map .route))
  return routes.length

namespace Program

variable {B : Bodies} (program : Program B)

def runSetter (serial : Serial) : Setter B → String → Code B Unit
  | .field field, value => Code.query (.change serial (.set field value))
  | .custom body, value => program.setter body serial value

def runSetters (serial : Serial) : List (Setter B × String) → Code B Unit
  | [] => .done ()
  | (setter, value) :: rest =>
    (program.runSetter serial setter value).bind fun _ => runSetters serial rest

def applyDirectives (reflection : Reflection B) (serial : Serial) : Code B Nat :=
  (program.runSetters serial reflection.setterCalls).bind fun _ =>
    .done reflection.setterCalls.length

def withHost {ρ : Type} (code : Code B (Except CallbackError ρ)) :
    Code B (Except CallbackError ρ) := do
  if ← Code.query .hostAlive then code else return .error .detached

def invoke (callback : Callback B) (args : List Value) : Code B (Except CallbackError Value) :=
  match callback.target with
  | .method serial _ body => withHost (program.method body serial args)
  | .applyDirectives serial reflection => do
    let _ ← program.applyDirectives reflection serial
    return .ok .null
  | .registerRoutes serial => withHost do
    return .ok (.ofNat (← Code.registerRoutes serial))
  | .handler _ body => program.handler body callback.component callback.method args

end Program

end HookWiring
