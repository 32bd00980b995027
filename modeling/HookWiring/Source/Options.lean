import HookWiring.Source.Error
import HookWiring.Source.Token

/-!
# Options of a component

The attribute of a component lists options: `api` exposes the route table, `autoload` has the
component loaded without being asked for. An option may be followed by one comma. Options may come
in any order and more than once; the first token that is no option decides the error.
-/

namespace HookWiring.Source

structure Options where
  api : Bool := false
  autoload : Bool := false
  deriving DecidableEq, Repr

namespace Options

def add (options : Options) : Token → Except Error Options
  | .word "api" => .ok { options with api := true }
  | .word "autoload" => .ok { options with autoload := true }
  | .word word =>
    if word ∈ keywords then .error (.keyword word) else .error (.unknownOption word)
  | .rawWord word => .error (.unknownOption ("r#" ++ word))
  | _ => .error .expectedIdentifier

def addAll : Options → List Token → Except Error Options
  | options, [] => .ok options
  | options, token :: .mark ',' :: rest => do (← options.add token).addAll rest
  | options, token :: rest => do (← options.add token).addAll rest

def parse (tokens : List Token) : Except Error Options :=
  addAll {} tokens

def read (listed : String) : Except Error Options :=
  match tokens? (withoutByteOrderMark listed.toList) with
  | some tokens => parse tokens
  | none => .error .malformed

end Options

end HookWiring.Source
