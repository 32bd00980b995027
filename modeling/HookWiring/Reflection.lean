import HookWiring.Api
import HookWiring.Directive.Api
import HookWiring.Error

/-!
# Reflections

The static description of a component: its methods with their documentation, its class
documentation, and the setters that class directives may call. Setter keys do not distinguish
ASCII case, and a later setter for a key replaces the earlier one in its place.

A component brings code of three sorts: bodies of methods, setters, and handlers that it registers
with a host by itself. A reflection refers to such code by name; `Bodies` says what the names are.
-/

namespace HookWiring

/-- The names of the code that components bring. -/
structure Bodies where
  Method : Type
  Setter : Type
  Handler : Type

structure Method (B : Bodies) where
  name : String
  argCount : Nat
  doc : String
  body : B.Method

inductive Setter (B : Bodies) where
  | field (field : ApiField)
  | custom (body : B.Setter)

structure Reflection (B : Bodies) where
  component : Identity
  classDoc : String
  methods : List (Method B) := []
  setters : Table String (Setter B) := .empty
  hasApi : Bool := false

inductive Reflection.Part (B : Bodies) where
  | method (method : Method B)
  | setter (key : String) (setter : Setter B)
  | api

def asciiLower (text : String) : String :=
  String.ofList (text.toList.map Char.toLower)

namespace Reflection

variable {B : Bodies}

def addMethod (reflection : Reflection B) (method : Method B) : Reflection B :=
  { reflection with methods := reflection.methods ++ [method] }

def addSetter (reflection : Reflection B) (key : String) (setter : Setter B) : Reflection B :=
  { reflection with setters := reflection.setters.insert (asciiLower key) setter }

def withApi (reflection : Reflection B) : Reflection B :=
  let exposed := { reflection with hasApi := true }
  [ApiField.space, .version, .subspace].foldl
    (fun r field => r.addSetter field.key (.field field)) exposed

def add (reflection : Reflection B) : Part B → Reflection B
  | .method method => reflection.addMethod method
  | .setter key setter => reflection.addSetter key setter
  | .api => reflection.withApi

def assemble (component : Identity) (classDoc : String) (parts : List (Part B)) : Reflection B :=
  parts.foldl add { component, classDoc }

def setter? (reflection : Reflection B) (directive : Directive.Api) : Option (Setter B) :=
  reflection.setters.get? (asciiLower directive.key)

def setterCalls (reflection : Reflection B) : List (Setter B × String) :=
  (Directive.api reflection.classDoc).filterMap fun directive =>
    (reflection.setter? directive).map fun setter => (setter, directive.value)

def debugMethod (method : Method B) : String :=
  "Method \x7b name: " ++ Text.quote method.name ++ ", arg_count: " ++ toString method.argCount ++
    ", doc: " ++ Text.quote method.doc ++ ", .. \x7d"

def debug (reflection : Reflection B) : String :=
  "Reflection \x7b component: " ++ Text.quote reflection.component ++
    ", class_doc: " ++ Text.quote reflection.classDoc ++
    ", methods: [" ++ ", ".intercalate (reflection.methods.map debugMethod) ++
    "], setters: [" ++ ", ".intercalate (reflection.setters.keys.map Text.quote) ++
    "], api: " ++ toString reflection.hasApi ++ " \x7d"

end Reflection

end HookWiring
