import HookWiring.Argument
import HookWiring.System.Code

/-!
# Methods with typed inputs

A method with typed parameters reads its inputs before its body runs. If an argument does not
decode, the body is not run at all.
-/

namespace HookWiring.Code

variable {B : Bodies} {params : List Param}

def onInputs (result : Except CallbackError (Inputs params))
    (body : Inputs params → Code B (Except CallbackError Value)) :
    Code B (Except CallbackError Value) :=
  match result with
  | .ok inputs => body inputs
  | .error error => .done (.error error)

def withInputs (params : List Param) (args : List Value)
    (body : Inputs params → Code B (Except CallbackError Value)) :
    Code B (Except CallbackError Value) :=
  onInputs (readInputs args 0 params) body

end HookWiring.Code
