import HookWiring.Session.Member
import HookWiring.Source.Signature
import HookWiring.System.Program

/-!
# The beacon

A component that is loaded without being asked for. It answers one action and keeps its arguments,
unless it is told to panic.
-/

namespace HookWiring.Session.Beacon

def block : Source.Block :=
  { items := [.function
      { name := "ping", doc := [.doc " @action wp_footer"], receiver := some "&self" }] }

variable {B : Bodies}

def reflection? (ping : B.Method) : Option (Reflection B) :=
  (Source.outline "autoload" block).toOption.map fun outline =>
    outline.reflection Member.beacon.identity fun _ => some ping

def isLost : Value → Bool
  | .text text => text == "panic"
  | _ => false

def component (ping : B.Method) : Component B where
  construct _ := return ()
  hooks _ := return reflection? ping
  init serial args :=
    if isLost args then .panic "beacon lost" else Code.query (.store serial args)

end HookWiring.Session.Beacon
