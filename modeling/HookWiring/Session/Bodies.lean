import HookWiring.Session.Orders
import HookWiring.Session.Report

/-!
# Named bodies

The bodies that the components of a session can give to methods, setters and handlers, and what
each of them does.
-/

namespace HookWiring.Session

inductive MethodBody where
  | tag (number : Nat)
  | echo
  | self
  | upper
  | append
  | sum
  | fail
  | panic
  /-- An empty object, or a result without encoding if there are arguments. -/
  | badReturn
  | debug
  | hook
  | instanceOf
  | nothing
  | order (method : Orders.OrderMethod)
  | ping

inductive SetterBody where
  | route
  | panic
  | note (key : String)

inductive HandlerBody where
  | echo
  | count
  | first
  | append
  | fail
  | panic
  | nothing

abbrev bodies : Bodies :=
  { Method := MethodBody, Setter := SetterBody, Handler := HandlerBody }

def MethodBody.ofName : String → MethodBody
  | "tag0" => .tag 0
  | "tag1" => .tag 1
  | "tag2" => .tag 2
  | "tag3" => .tag 3
  | "echo" => .echo
  | "self" => .self
  | "upper" => .upper
  | "append" => .append
  | "sum" => .sum
  | "fail" => .fail
  | "panic" => .panic
  | "bad_return" => .badReturn
  | "debug" => .debug
  | "hook" => .hook
  | "instance" => .instanceOf
  | _ => .nothing

def setterOfName : String → Setter bodies
  | "namespace" => .field .space
  | "version" => .field .version
  | "subspace" => .field .subspace
  | "route" => .custom .route
  | "panic" => .custom .panic
  | "other" => .custom (.note "other")
  | _ => .custom (.note "note")

def HandlerBody.ofName : String → HandlerBody
  | "echo" => .echo
  | "count" => .count
  | "first" => .first
  | "append" => .append
  | "fail" => .fail
  | "panic" => .panic
  | _ => .nothing

def asciiUpper (text : String) : String :=
  String.ofList (text.toList.map Char.toUpper)

def registerLate (name : String) : Code bodies Unit := do
  let handler : Code bodies (Callback bodies) :=
    Code.query (.newHandler "Late" name HandlerBody.first)
  let action ← handler
  Code.query (.register
    [.action { name, callback := action, priority := 1, argCount := .exact 1 }])
  let filter ← handler
  Code.query (.register
    [.filter { name, callback := filter, priority := 1, argCount := .exact 2 }])
  let shortcode ← handler
  Code.query (.register [.shortcode name shortcode])
  let command ← handler
  Code.query (.register [.command name command])
  Code.query (.register [.route { mount := "late/v0", basePath := name, config := .null }])

def requestNamed (name : String) : Code bodies Value :=
  match Member.ofName? name with
  | some member => do Report.acquired (← Code.acquire member.identity .null false)
  | none => return .null

namespace MethodBody

def run (body : MethodBody) (serial : Serial) (args : List Value) :
    Code bodies (Except CallbackError Value) :=
  match body with
  | .tag number => do
    Code.query (.note (.object [("tag", .ofNat number), ("args", .list args)]))
    return .ok .null
  | .echo => return .ok (.list args)
  | .self => do
    let found ← Code.query (.read serial)
    return .ok (.object [("serial", .ofNat serial), ("args", found.args)])
  | .upper => Code.withInputs [.positional .text] args fun (text, _) =>
    return .ok (.text (asciiUpper text))
  | .append => Code.withInputs [.positional .text, .positional (.option .text)] args
    fun (text, ending, _) => return .ok (.text (String.append text (Option.getD ending "!")))
  | .sum => Code.withInputs [.positional .u32, .positional .u32] args
    fun (a, b, _) => return .ok (.ofNat (UInt32.toUInt64 a + UInt32.toUInt64 b).toNat)
  | .fail => return .error (.custom "method failed")
  | .panic => .panic "method panicked"
  | .badReturn => return if args.isEmpty then .ok (.object []) else .error .unencodable
  | .debug => return .ok (.text ("Invocation \x7b args: " ++ Value.debugList args ++ ", .. \x7d"))
  | .hook => Code.withInputs [.positional .text] args fun (name, _) => do
    registerLate name
    return .ok .null
  | .instanceOf => do
    if ← Code.query .registryAlive then
      Code.withInputs [.positional .text] args fun (name, _) => do
        return .ok (← requestNamed name)
    else return .error .detached
  | .nothing => return .ok .null
  | .order method => method.run serial args
  | .ping => return .ok (.text "pong")

end MethodBody

def SetterBody.run (body : SetterBody) (serial : Serial) (value : String) : Code bodies Unit :=
  match body with
  | .route => Code.query (.change serial (.add value
      (.object [("from", .text "annotation")])))
  | .panic => .panic value
  | .note key => Code.query (.note (.object [(key, .text value)]))

def firstText : List Value → String
  | .text text :: _ => text
  | _ => "?"

def HandlerBody.run (body : HandlerBody) (component : Identity) (method : String)
    (args : List Value) : Code bodies (Except CallbackError Value) := do
  Code.query (.note (.object
    [("ran", .list [.text component, .text method]), ("args", .list args)]))
  match body with
  | .echo => return .ok (.list args)
  | .count => return .ok (.ofNat args.length)
  | .first => return .ok (args.head?.getD .null)
  | .append => return .ok (.text (firstText args ++ "+" ++ method))
  | .fail => return .error (.custom (method ++ " failed"))
  | .panic => .panic (method ++ " panicked")
  | .nothing => return .ok .null

end HookWiring.Session
