import HookWiring.System.Code

/-!
# Autoloading

Loading a list of components with null arguments. Components that are ready are only looked up,
and the first one that is not handed out ends the loading.
-/

namespace HookWiring.Code

variable {B : Bodies}

def loadAll : List Identity → Code B (Except WiringError Nat)
  | [] => .done (.ok 0)
  | component :: rest =>
    (acquire component .null false).bind fun
      | .error error => .done (.error error)
      | .ok _ => (loadAll rest).bind fun
        | .ok loaded => .done (.ok (loaded + 1))
        | .error error => .done (.error error)

end HookWiring.Code
