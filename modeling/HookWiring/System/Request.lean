import HookWiring.Host
import HookWiring.System.Lifecycle

/-!
# Requests

What the code of components and hosts may ask of the system it runs in. A query is answered at
once and runs no other code. The other two requests do run code: asking for a component starts its
sequence when it has none yet, and calling a callback runs the callback. Every request has a type
of answers.
-/

namespace HookWiring

structure Instance where
  component : Identity
  args : Value := .null
  api : Api := {}

/-- A request that is answered at once. -/
inductive Query (B : Bodies) where
  | state (component : Identity)
  | instanceOf (component : Identity)
  | size
  | actions (name : String)
  | filters (name : String)
  | registrationCount
  | register (registrations : List (Registration B))
  | newHandler (component : Identity) (method : String) (body : B.Handler)
  | read (serial : Serial)
  | store (serial : Serial) (args : Value)
  | change (serial : Serial) (change : ApiChange)
  | note (value : Value)
  | hostAlive
  | registryAlive

abbrev Query.Answer {B : Bodies} : Query B → Type
  | .state _ => LifecycleState
  | .instanceOf _ => Option Serial
  | .size => Nat
  | .actions _ => List (Binding B)
  | .filters _ => List (Binding B)
  | .registrationCount => Nat
  | .register _ => Unit
  | .newHandler _ _ _ => Callback B
  | .read _ => Instance
  | .store _ _ => Unit
  | .change _ _ => Unit
  | .note _ => Unit
  | .hostAlive => Bool
  | .registryAlive => Bool

def Query.registered {B : Bodies} : Query B → List (Registration B)
  | .register registrations => registrations
  | _ => []

inductive Request (B : Bodies) where
  | query (query : Query B)
  /-- Ask for the instance of a component; a strict request refuses one that is there already. -/
  | acquire (component : Identity) (args : Value) (strict : Bool)
  | call (callback : Callback B) (args : List Value)

abbrev Request.Answer {B : Bodies} : Request B → Type
  | .query q => q.Answer
  | .acquire _ _ _ => Except WiringError Serial
  | .call _ _ => Except CallbackError Value

end HookWiring
