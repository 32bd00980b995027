import HookWiring.HookKind
import HookWiring.Text.Quoted

/-!
# Errors

What can go wrong when a component is requested, a hook is declared or a callback is run. Each
error is its cause; the wording is in one function for each type.
-/

namespace HookWiring

/-- The name under which a registry knows a component. -/
abbrev Identity := String

inductive CallbackError where
  | argument (index : Nat)
  | unencodable
  /-- The host that the callback was registered with is gone. -/
  | detached
  | custom (message : String)
  deriving DecidableEq, Repr

inductive WiringError where
  | duplicate (component : Identity)
  /-- A component asked for itself while its own sequence was running. -/
  | reentrant (component : Identity)
  | failed (component : Identity)
  | invalidName (kind : HookKind) (name : String)
  | callback (error : CallbackError)
  | custom (message : String)
  deriving DecidableEq, Repr

def CallbackError.message : CallbackError → String
  | .argument index => "argument " ++ toString index ++ " could not be decoded"
  | .unencodable => "return value could not be encoded"
  | .detached => "callback invoked after its host was dropped"
  | .custom text => text

def WiringError.message : WiringError → String
  | .duplicate component => "component `" ++ component ++ "` is already instantiated"
  | .reentrant component =>
    "component `" ++ component ++ "` was requested while it was still being constructed"
  | .failed component =>
    "component `" ++ component ++ "` failed during construction and cannot be instantiated"
  | .invalidName kind name => "invalid " ++ kind.tag ++ " name: " ++ Text.quote name
  | .callback error => "callback error: " ++ error.message
  | .custom text => text

end HookWiring
