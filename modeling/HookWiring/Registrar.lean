import HookWiring.Host
import HookWiring.Settings

/-!
# Registrations of declarations

What a host receives for a declaration. An ajax handler becomes two actions, one for requests with
a login and one for requests without; every other kind becomes one registration. Shortcodes and
commands have neither priority nor argument count.
-/

namespace HookWiring

variable {B : Bodies}

def registrations (settings : Settings) (kind : HookKind) (name : String) (callback : Callback B)
    (args : HookArgs) : List (Registration B) :=
  let binding (name : String) : Binding B :=
    { name, callback, priority := args.priorityInEffect, argCount := args.argCountInEffect }
  match kind with
  | .action => [.action (binding name)]
  | .filter => [.filter (binding name)]
  | .shortcode => [.shortcode name callback]
  | .ajax => (settings.ajaxNames name).map fun full => .action (binding full)
  | .command => [.command name callback]

namespace Declaration

def registrations (settings : Settings) (declaration : Declaration B) : List (Registration B) :=
  HookWiring.registrations settings declaration.kind declaration.name declaration.callback
    declaration.hookArgs

def registerAll (settings : Settings) (declarations : List (Declaration B)) :
    List (Registration B) :=
  declarations.flatMap (registrations settings)

def commandRegistration? (declaration : Declaration B) : Option (Registration B) :=
  if declaration.kind = .command then some (.command declaration.name declaration.callback)
  else none

end Declaration

end HookWiring
