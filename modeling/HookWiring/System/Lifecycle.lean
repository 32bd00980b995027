import HookWiring.Callback

/-!
# Lifecycle of components

Every component that was ever requested has a slot with three entries: how far its lifecycle has
come, its instance once the sequence has come to its end, and whether the sequence is running. If
a step of the sequence panics, the component has failed for good. A request is answered from the
slot as soon as one of the entries says how; otherwise the sequence has to be run.
-/

namespace HookWiring

inductive LifecycleState where
  | uninitialized
  /-- The instance exists; its hooks are not registered. -/
  | constructed
  /-- The hooks are registered; the instance is not initialised. -/
  | hooked
  | ready
  | failed
  deriving DecidableEq, Repr

structure Slot where
  state : LifecycleState := .uninitialized
  instance? : Option Serial := none
  constructing : Bool := false
  deriving DecidableEq, Repr

namespace Slot

def ready? (slot : Slot) : Option Serial :=
  if slot.constructing then none else slot.instance?

/-- The answer of a slot to a request, unless the sequence has to be run. -/
def answer? (slot : Slot) (component : Identity) (strict : Bool) :
    Option (Except WiringError Serial) :=
  if slot.constructing then some (.error (.reentrant component))
  else if slot.state = .failed then some (.error (.failed component))
  else slot.instance?.map fun serial =>
    if strict then .error (.duplicate component) else .ok serial

end Slot

inductive Milestone where
  | constructing (serial : Serial)
  | hooking
  | initialising (args : Value)
  | ready
  | failed

end HookWiring
