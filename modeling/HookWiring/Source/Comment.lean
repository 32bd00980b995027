import HookWiring.Text.Blank

/-!
# Comments of component sources

A line comment ends before the line break, a block comment at the mark that closes it, and block
comments nest. A comment whose opening mark is lengthened by one character documents what it is
attached to: its text is part of the source, and may not hold a carriage return on its own.
-/

namespace HookWiring.Source

open Text

def blockComment? : (depth : Nat) → List Char → Option (List Char × List Char)
  | _, [] => none
  | depth, '/' :: '*' :: rest =>
    (blockComment? (depth + 1) rest).map fun (inside, after) => ('/' :: '*' :: inside, after)
  | 0, '*' :: '/' :: rest => some ([], rest)
  | depth + 1, '*' :: '/' :: rest =>
    (blockComment? depth rest).map fun (inside, after) => ('*' :: '/' :: inside, after)
  | depth, c :: rest => (blockComment? depth rest).map fun (inside, after) => (c :: inside, after)

def lineComment : List Char → List Char × List Char
  | [] => ([], [])
  | '\n' :: rest => ([], '\n' :: rest)
  | '\r' :: '\n' :: rest => ([], '\n' :: rest)
  | c :: rest =>
    let (inside, after) := lineComment rest
    (c :: inside, after)

/-- Whether every carriage return of a text belongs to a line break. -/
def hasOnlyLineBreaks : List Char → Bool
  | [] => true
  | '\r' :: '\n' :: rest => hasOnlyLineBreaks rest
  | '\r' :: _ => false
  | _ :: rest => hasOnlyLineBreaks rest

/-- A comment: what it documents with, if it does, and for what. -/
inductive Comment where
  | plain
  | outer (text : List Char)
  | inner (text : List Char)

def documenting? (make : List Char → Comment) (read : List Char × List Char) :
    Option (Comment × List Char) :=
  if hasOnlyLineBreaks read.1 then some (make read.1, read.2) else none

def comment? : List Char → Option (Comment × List Char)
  | '/' :: '/' :: '!' :: rest => documenting? .inner (lineComment rest)
  | '/' :: '/' :: '/' :: '/' :: rest => some (.plain, (lineComment rest).2)
  | '/' :: '/' :: '/' :: rest => documenting? .outer (lineComment rest)
  | '/' :: '/' :: rest => some (.plain, (lineComment rest).2)
  | '/' :: '*' :: '!' :: rest => (blockComment? 0 rest).bind (documenting? .inner)
  | '/' :: '*' :: '*' :: '/' :: rest => some (.plain, rest)
  | '/' :: '*' :: '*' :: '*' :: rest =>
    (blockComment? 0 ('*' :: '*' :: rest)).map fun (_, after) => (.plain, after)
  | '/' :: '*' :: '*' :: rest => (blockComment? 0 rest).bind (documenting? .outer)
  | '/' :: '*' :: rest => (blockComment? 0 rest).map fun (_, after) => (.plain, after)
  | _ => none

/-- Whether a character separates tokens: white space or a mark of writing direction. -/
def isSeparator (c : Char) : Bool :=
  isWhiteSpace c || c == '\u200e' || c == '\u200f'

end HookWiring.Source
