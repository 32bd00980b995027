import HookWiring.Source.TypeText

/-!
# Receivers

The first parameter of a function, when it is the component itself. A shared receiver is `&self`,
with or without a lifetime. A receiver may carry attributes of its own. A parameter whose name
a pair of colons follows at once is none: the pair belongs to a path.
-/

namespace HookWiring.Source

inductive Receiver where
  | shared
  /-- By value, by a unique reference, or by a type that is written out. -/
  | other
  deriving DecidableEq, Repr

def afterAttributes : Nat → List Token → List Token
  | attributes + 1, .mark '#' :: .mark '[' :: rest =>
    afterAttributes attributes (afterGroup 1 rest)
  | _, tokens => tokens

def afterLifetime : List Token → List Token
  | .apostrophe :: .word _ :: rest => rest
  | .apostrophe :: .rawWord _ :: rest => rest
  | tokens => tokens

/-- Whether nothing follows the name of a parameter but its type, behind a colon, if it has one. -/
def endsName : List Token → Bool
  | [] => true
  | .mark ':' :: _ => true
  | _ => false

/-- The receiver that these tokens write; a parameter of another name is none. -/
def Receiver.ofTokens? (tokens : List Token) : Option Receiver :=
  match afterAttributes tokens.length tokens with
  | .mark '&' :: rest => match afterLifetime rest with
    | [.word "self"] => some .shared
    | [.word "mut", .word "self"] => some .other
    | _ => none
  | .word "self" :: rest => if endsName rest then some .other else none
  | .word "mut" :: .word "self" :: rest => if endsName rest then some .other else none
  | _ => none

def Receiver.read? (text : String) : Option Receiver :=
  Receiver.ofTokens? (tokens text)

end HookWiring.Source
