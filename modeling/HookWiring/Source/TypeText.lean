import HookWiring.Source.Keyword
import HookWiring.Source.Token

/-!
# Types of parameters

A parameter receives the call itself when its type is a path whose last segment is `Invocation`.
Generic arguments and a qualifying type in angle brackets do not matter. References, tuples, sums
of bounds and all other forms of types are not paths. Three dots in the place of a type say that
further arguments may follow; they are no parameter.
-/

namespace HookWiring.Source

def Token.opens (token : Token) : Bool :=
  brackets.any fun pair => token == .mark pair.1

def Token.closes (token : Token) : Bool :=
  brackets.any fun pair => token == .mark pair.2

def afterAngles : (angles groups : Nat) → List Token → List Token
  | _, _, [] => []
  | angles, groups, token :: rest =>
    if token.opens then afterAngles angles (groups + 1) rest
    else if token.closes then afterAngles angles (groups - 1) rest
    else if groups = 0 ∧ token = .mark '<' then afterAngles (angles + 1) groups rest
    else if groups = 0 ∧ token = .mark '>' then
      if angles ≤ 1 then rest else afterAngles (angles - 1) groups rest
    else afterAngles angles groups rest

def afterGroup : (groups : Nat) → List Token → List Token
  | _, [] => []
  | groups, token :: rest =>
    if token.opens then afterGroup (groups + 1) rest
    else if token.closes then if groups ≤ 1 then rest else afterGroup (groups - 1) rest
    else afterGroup groups rest

/-- Whether a plus stands outside all brackets, so that a type is a sum of bounds. -/
def isSum : (angles groups : Nat) → List Token → Bool
  | _, _, [] => false
  | angles, groups, token :: rest =>
    if token.opens then isSum angles (groups + 1) rest
    else if token.closes then isSum angles (groups - 1) rest
    else if groups = 0 ∧ token = .mark '<' then isSum (angles + 1) groups rest
    else if groups = 0 ∧ token = .mark '>' then isSum (angles - 1) groups rest
    else if groups = 0 ∧ angles = 0 ∧ token = .mark '+' then true
    else isSum angles groups rest

/--
What follows the arguments of a path segment. Arguments in parentheses, with their result, end
the path.
-/
def afterArguments : List Token → List Token
  | .pathSeparator :: .mark '<' :: rest => afterAngles 1 0 rest
  | .mark '<' :: rest => afterAngles 1 0 rest
  | .pathSeparator :: .mark '(' :: rest => afterResult (afterGroup 1 rest)
  | .mark '(' :: rest => afterResult (afterGroup 1 rest)
  | rest => rest
where
  afterResult : List Token → List Token
    | .arrow :: _ => []
    | rest => rest

def Token.isSegment : Token → Bool
  | .word name => !keywords.contains name || pathKeywords.contains name
  | .rawWord _ => true
  | _ => false

def lastSegment? : Nat → List Token → Option Token
  | steps + 1, segment :: rest =>
    if segment.isSegment then
      match afterArguments rest with
      | [] => some segment
      | .pathSeparator :: more => lastSegment? steps more
      | _ => none
    else none
  | _, _ => none

def pathEnd? (type : List Token) : Option Token :=
  if isSum 0 0 type then none
  else match type with
    | .pathSeparator :: rest => lastSegment? rest.length rest
    | .mark '<' :: rest => match afterAngles 1 0 rest with
      | .pathSeparator :: more => lastSegment? more.length more
      | _ => none
    | _ => lastSegment? type.length type

def isInvocation (type : String) : Bool :=
  pathEnd? (tokens type) == some (.word "Invocation")

def isVariadic (type : String) : Bool :=
  tokens type == [.mark '.', .mark '.', .mark '.']

end HookWiring.Source
