import HookWiring.Declaration

/-!
# Hosts

A host keeps the registrations it receives, in order. Its views by kind and name are read off that
list. When an action or filter runs, its bindings are taken in ascending priority, and those of
equal priority in the order in which they were registered.
-/

namespace HookWiring

structure Binding (B : Bodies) where
  name : String
  callback : Callback B
  priority : Int
  argCount : ArgCount

inductive Registration (B : Bodies) where
  | action (binding : Binding B)
  | filter (binding : Binding B)
  | shortcode (name : String) (callback : Callback B)
  | route (route : Route)
  | command (name : String) (callback : Callback B)

namespace Registration

variable {B : Bodies}

def callback? : Registration B → Option (Callback B)
  | .action binding => some binding.callback
  | .filter binding => some binding.callback
  | .shortcode _ callback => some callback
  | .route _ => none
  | .command _ callback => some callback

def actionNamed? (name : String) : Registration B → Option (Binding B)
  | .action binding => if binding.name = name then some binding else none
  | _ => none

def filterNamed? (name : String) : Registration B → Option (Binding B)
  | .filter binding => if binding.name = name then some binding else none
  | _ => none

def shortcode? : Registration B → Option (String × Callback B)
  | .shortcode name callback => some (name, callback)
  | _ => none

def command? : Registration B → Option (String × Callback B)
  | .command name callback => some (name, callback)
  | _ => none

def route? : Registration B → Option Route
  | .route r => some r
  | _ => none

end Registration

structure Host (B : Bodies) where
  log : List (Registration B) := []

namespace Host

variable {B : Bodies}

def register (host : Host B) (registrations : List (Registration B)) : Host B :=
  ⟨host.log ++ registrations⟩

def actions (host : Host B) (name : String) : List (Binding B) :=
  host.log.filterMap (Registration.actionNamed? name)

def filters (host : Host B) (name : String) : List (Binding B) :=
  host.log.filterMap (Registration.filterNamed? name)

def shortcodes (host : Host B) : List (String × Callback B) :=
  host.log.filterMap Registration.shortcode?

def commands (host : Host B) : List (String × Callback B) :=
  host.log.filterMap Registration.command?

def routes (host : Host B) : List Route :=
  host.log.filterMap Registration.route?

def callbacks (host : Host B) : List (Callback B) :=
  host.log.filterMap Registration.callback?

def inOrder (bindings : List (Binding B)) : List (Binding B) :=
  bindings.mergeSort fun a b => a.priority ≤ b.priority

@[simp] theorem log_register (host : Host B) (registrations : List (Registration B)) :
    (host.register registrations).log = host.log ++ registrations :=
  rfl

theorem inOrder_perm (bindings : List (Binding B)) : (inOrder bindings).Perm bindings :=
  List.mergeSort_perm bindings _

end Host

end HookWiring
