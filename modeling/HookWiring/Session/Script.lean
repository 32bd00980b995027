import HookWiring.Session.Bodies
import HookWiring.System.Firing

/-!
# Scripted components

A script says what a component does while it is constructed, hooked and initialised: a list of
actions for each phase, and the reflection it is hooked with. The result of every action is noted.
An action may catch the panic of what it runs; one that does not is cut short by it, and with it
the script.
-/

namespace HookWiring.Session

structure HandlerSpec where
  kind : HookKind
  name : String
  args : HookArgs
  component : Identity
  method : String
  body : HandlerBody

inductive Deed where
  | panic (message : String)
  | fire (name : String) (args : List Value)
  | add (spec : HandlerSpec)
  | change (change : Option ApiChange)
  | size
  | acquire (member : Member) (args : Value) (strict : Bool)
  | load (member : Member)
  | get (member : Member)
  | state (member : Member)
  | nothing (verb : String)

structure Action where
  deed : Deed
  caught : Bool := false

abbrev Part := Reflection.Part bodies

structure ReflectionSpec where
  component : Identity
  classDoc : String
  parts : List Part

def ReflectionSpec.reflection (spec : ReflectionSpec) : Reflection bodies :=
  .assemble spec.component spec.classDoc spec.parts

structure Script where
  reflection : Option ReflectionSpec := none
  construct : List Action := []
  hooks : List Action := []
  init : List Action := []

def addHandler (settings : Settings) (spec : HandlerSpec) : Code bodies Value := do
  let callback ← Code.query (.newHandler spec.component spec.method spec.body)
  Code.query (.register (registrations settings spec.kind spec.name callback spec.args))
  return .object [("count", .ofNat (← Code.query .registrationCount))]

def changeApi (serial : Serial) (change : Option ApiChange) : Code bodies Value := do
  if let some update := change then Code.query (.change serial update)
  return Report.api (← Code.query (.read serial)).api

namespace Deed

def verb : Deed → String
  | .panic _ => "panic"
  | .fire _ _ => "fire"
  | .add _ => "add"
  | .change _ => "api"
  | .size => "len"
  | .acquire _ _ strict => if strict then "construct" else "instance"
  | .load _ => "load"
  | .get _ => "get"
  | .state _ => "state"
  | .nothing verb => verb

/-- What a deed does and its result. While hooks are made there is no instance to change. -/
def run (settings : Settings) (instance? : Option Serial) : Deed → Code bodies Value
  | .panic message => .panic message
  | .fire name args => do return Report.fired (← Code.fire name args)
  | .add spec => addHandler settings spec
  | .change update => match instance? with
    | some serial => changeApi serial update
    | none => return .null
  | .size => do return .ofNat (← Code.query .size)
  | .acquire member args strict => do
    Report.acquired (← Code.acquire member.identity args strict)
  | .load member => do Report.acquired (← Code.acquire member.identity .null false)
  | .get member => do Report.found (← Code.query (.instanceOf member.identity))
  | .state member => do return Report.state (← Code.query (.state member.identity))
  | .nothing _ => return .null

end Deed

namespace Action

def run (settings : Settings) (member : Member) (phase : String) (instance? : Option Serial)
    (action : Action) : Code bodies Unit := do
  let deed := action.deed.run settings instance?
  let result ←
    if action.caught then do
      match ← deed.attempt with
      | .ok value => pure value
      | .error message => pure (Report.panicked message)
    else deed
  Code.query (.note (.object [("at", .text phase), ("component", .text member.name),
    ("do", .text action.deed.verb), ("result", result)]))

def runAll (settings : Settings) (member : Member) (phase : String) (instance? : Option Serial) :
    List Action → Code bodies Unit
  | [] => .done ()
  | action :: rest =>
    (action.run settings member phase instance?).bind fun _ =>
      runAll settings member phase instance? rest

end Action

def Script.component (script : Script) (settings : Settings) (member : Member) :
    Component bodies where
  construct serial := Action.runAll settings member "construct" (some serial) script.construct
  hooks _ := do
    Action.runAll settings member "on_hooks" none script.hooks
    return script.reflection.map ReflectionSpec.reflection
  init serial args := do
    Code.query (.store serial args)
    Action.runAll settings member "init" (some serial) script.init

end HookWiring.Session
