import HookWiring.System.Code

/-!
# Firing of hooks

Running the actions of a name and passing a value through its filters. The bindings are fixed when
the hook is fired, so a hook that is registered while it runs takes part only in the next firing.
Each callback gets as many arguments as it was registered for, and the first failure ends the
firing.
-/

namespace HookWiring

variable {B : Bodies}

def Binding.takeArgs (binding : Binding B) (args : List Value) : List Value :=
  args.take binding.argCount.limit

namespace Code

def runEach (args : List Value) : List (Binding B) → Code B (Except CallbackError Unit)
  | [] => .done (.ok ())
  | binding :: rest =>
    (call binding.callback (binding.takeArgs args)).bind fun
      | .ok _ => runEach args rest
      | .error error => .done (.error error)

def passThrough (extra : List Value) :
    List (Binding B) → Value → Code B (Except CallbackError Value)
  | [], value => .done (.ok value)
  | binding :: rest, value =>
    (call binding.callback (binding.takeArgs (value :: extra))).bind fun
      | .ok next => passThrough extra rest next
      | .error error => .done (.error error)

def fire (name : String) (args : List Value) : Code B (Except CallbackError Nat) := do
  let bindings ← query (.actions name)
  match ← runEach args bindings with
  | .ok _ => return .ok bindings.length
  | .error error => return .error error

def filter (name : String) (value : Value) (extra : List Value) :
    Code B (Except CallbackError Value) := do
  passThrough extra (← query (.filters name)) value

end Code

end HookWiring
