import HookWiring.Directive.Ajax
import HookWiring.Directive.Command
import HookWiring.Registrar
import HookWiring.Text.SnakeCase

/-!
# Wiring of reflections

The declarations that a reflection yields for an instance. Every method whose documentation
carries directives gets one callback, which all declarations of the method share: first its hooks,
then its commands, then its ajax handlers. An ajax handler without a name is called by the snake
case of its method. A component with an API then gets two actions of its own, one that applies the
class directives and one that registers the routes. A declaration whose name does not fit the
grammar of its kind is left out.
-/

namespace HookWiring

variable {B : Bodies}

def declare? (kind : HookKind) (name : String) (priority : Int) (argCount : ArgCount)
    (callback : Callback B) : Option (Declaration B) :=
  (Declaration.make kind name priority argCount callback).toOption

namespace Reflection

def methodCallback (reflection : Reflection B) (serial : Serial) (index : Nat)
    (method : Method B) : Callback B :=
  { component := reflection.component, method := method.name
    target := .method serial index method.body }

def methodDeclarations (method : Method B) (callback : Callback B) : List (Declaration B) :=
  let argCount := ArgCount.exact method.argCount
  (Directive.hooks method.doc).filterMap (fun hook =>
      let priority := (hook.priority.map Int.ofNat).getD directivePriority
      declare? hook.kind hook.name priority argCount callback) ++
    (Directive.commands method.doc).filterMap (fun name =>
      declare? .command name defaultPriority .unbounded callback) ++
    (Directive.ajax method.doc).filterMap (fun name =>
      declare? .ajax (name.getD (Text.snakeCase method.name)) directivePriority argCount callback)

def directivesCallback (reflection : Reflection B) (serial : Serial) : Callback B :=
  { component := reflection.component, method := "apply_api_annotations"
    target := .applyDirectives serial reflection }

def routesCallback (reflection : Reflection B) (serial : Serial) : Callback B :=
  { component := reflection.component, method := "register_endpoints"
    target := .registerRoutes serial }

def apiDeclarations (reflection : Reflection B) (serial : Serial) (settings : Settings) :
    List (Declaration B) :=
  if reflection.hasApi then
    [ declare? .action settings.apiInit directivePriority (.exact 0)
        (reflection.directivesCallback serial),
      declare? .action settings.routeInit directivePriority (.exact 0)
        (reflection.routesCallback serial) ].filterMap id
  else []

def declarations (reflection : Reflection B) (serial : Serial) (settings : Settings) :
    List (Declaration B) :=
  reflection.methods.zipIdx.flatMap (fun (method, index) =>
      methodDeclarations method (reflection.methodCallback serial index method)) ++
    reflection.apiDeclarations serial settings

def registrations (reflection : Reflection B) (serial : Serial) (settings : Settings) :
    List (Registration B) :=
  Declaration.registerAll settings (reflection.declarations serial settings)

end Reflection

end HookWiring
