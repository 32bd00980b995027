import HookWiring.Source.Comment
import HookWiring.Source.Keyword
import HookWiring.Source.Literal

/-!
# Tokens of component sources

The lexical units of attributes, receivers and types: identifiers, string literals, other
literals and punctuation. White space and comments separate tokens, and a comment that documents
stands for the attribute it abbreviates. Brackets have to match. Only the value of a string literal
matters later, so every other literal is one opaque token. The apostrophe of a lifetime is a token
of its own: a name has to follow it, but what follows is read as if no apostrophe stood there.
-/

namespace HookWiring.Source

open Text

inductive Token where
  | word (text : String)
  | rawWord (text : String)
  | apostrophe
  | text (value : String)
  | literal
  | pathSeparator
  | arrow
  | mark (c : Char)
  deriving DecidableEq, Repr

/-- The beginnings of a text that would be a literal and cannot begin an identifier. -/
def literalBeginnings : List (List Char) :=
  ["r\"", "r#\"", "r##", "b\"", "b'", "br\"", "br#", "c\"", "cr\"", "cr#"].map String.toList

def identifier? (text : List Char) : Option (Token × List Char) :=
  match text with
  | 'r' :: '#' :: rest => (afterIdentifier? rest).bind fun after =>
      let name := String.ofList (rest.takeWhile isIdentifierPart)
      if name ∈ unmarkableWords then none else some (.rawWord name, after)
  | _ => (afterIdentifier? text).map fun after =>
      (.word (String.ofList (text.takeWhile isIdentifierPart)), after)

/-- Whether a text begins with the name of a lifetime: an identifier that no apostrophe closes. -/
def beginsLifetime (text : List Char) : Bool :=
  match identifier? text with
  | none => false
  | some (_, '\'' :: _) => false
  | some (.word _, '#' :: _) => false
  | some _ => true

def punctuation : List Char :=
  "~!@#$%^&*-=+|;:,<.>/?".toList

def brackets : List (Char × Char) :=
  [('(', ')'), ('[', ']'), ('\x7b', '\x7d')]

def isMarkToken (c : Char) : Bool :=
  punctuation.contains c || brackets.any fun pair => pair.1 == c || pair.2 == c

def token? (text : List Char) : Option (Token × List Char) :=
  match string? text, afterCharacter? text, afterNumber? text with
  | some (.text, value, after), _, _ => some (.text (String.ofList value), after)
  | some (_, _, after), _, _ => some (.literal, after)
  | none, some after, _ => some (.literal, after)
  | none, none, some after => some (.literal, after)
  | none, none, none => match text with
    | '\'' :: rest => if beginsLifetime rest then some (.apostrophe, rest) else none
    | ':' :: ':' :: rest => some (.pathSeparator, rest)
    | '-' :: '>' :: rest => some (.arrow, rest)
    | '/' :: '/' :: _ => none
    | '/' :: '*' :: _ => none
    | c :: rest =>
      if isMarkToken c then some (.mark c, rest)
      else if literalBeginnings.any fun start => start.isPrefixOf text then none
      else identifier? text
    | [] => none

def docAttribute (text : List Char) : List Token :=
  [.mark '[', .word "doc", .mark '=', .text (String.ofList text), .mark ']']

def Comment.tokens : Comment → List Token
  | .plain => []
  | .outer text => .mark '#' :: docAttribute text
  | .inner text => .mark '#' :: .mark '!' :: docAttribute text

/-- The tokens at the start of a text, none for a separator or a plain comment, and the rest. -/
def step? (text : List Char) : Option (List Token × List Char) :=
  match text with
  | [] => some ([], [])
  | c :: rest =>
    if isSeparator c then some ([], rest)
    else match comment? text with
      | some (comment, after) => some (comment.tokens, after)
      | none => (token? text).map fun (token, after) => ([token], after)

def scan? : Nat → List Char → Option (List Token)
  | _, [] => some []
  | 0, _ => none
  | steps + 1, text => do
    let (found, rest) ← step? text
    return found ++ (← scan? steps rest)

def isBalanced : (due : List Char) → List Token → Bool
  | due, [] => due.isEmpty
  | due, .mark c :: rest =>
    match brackets.find? fun pair => pair.1 == c || pair.2 == c with
    | none => isBalanced due rest
    | some (opening, closing) =>
      if c = opening then isBalanced (closing :: due) rest
      else match due with
        | [] => false
        | expected :: outer => expected == closing && isBalanced outer rest
  | due, _ :: rest => isBalanced due rest

/-- The tokens of a text. Every step takes a character, so its length bounds the steps. -/
def tokens? (text : List Char) : Option (List Token) :=
  (scan? text.length text).filter (isBalanced [])

def tokens (fragment : String) : List Token :=
  (tokens? fragment.toList).getD []

def withoutByteOrderMark : List Char → List Char
  | '\ufeff' :: rest => rest
  | text => text

end HookWiring.Source
