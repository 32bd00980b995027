import HookWiring.Text.Identifier

/-!
# Literals of component sources

Strings, characters and numbers as they are written, each with an optional suffix. A quoted
literal is a text, a run of bytes or a text for a foreign reader that ends in NUL; the three
differ in the escapes and characters they admit. Reading a literal gives what follows it, and for
a string also its characters; nothing is read from a malformed one.
-/

namespace HookWiring.Source

open Text

/-! ### Identifiers and suffixes -/

def afterIdentifier? : List Char → Option (List Char)
  | [] => none
  | c :: rest => if isIdentifierStart c then some (rest.dropWhile isIdentifierPart) else none

def afterSuffix (text : List Char) : List Char :=
  (afterIdentifier? text).getD text

/-- What follows the suffix of a number; a number does not run into a word. -/
def afterNumberSuffix? (text : List Char) : Option (List Char) :=
  match afterSuffix text with
  | [] => some []
  | c :: rest => if isIdentifierPart c then none else some (c :: rest)

/-! ### Escapes -/

def hexDigit? (c : Char) : Option Nat :=
  if c.isDigit then some (c.toNat - '0'.toNat)
  else if 'a' ≤ c ∧ c ≤ 'f' then some (c.toNat - 'a'.toNat + 10)
  else if 'A' ≤ c ∧ c ≤ 'F' then some (c.toNat - 'A'.toNat + 10)
  else none

def charOfCode? (code : Nat) : Option Char :=
  if code.isValidChar then some (Char.ofNat code) else none

/--
The character of a braced code point, after the brace, and what follows: one to six hexadecimal
digits, with underscores behind the first.
-/
def braced? : (count value : Nat) → List Char → Option (Char × List Char)
  | _, _, [] => none
  | count, value, c :: rest =>
    match hexDigit? c with
    | some digit => if count = 6 then none else braced? (count + 1) (16 * value + digit) rest
    | none =>
      if count = 0 then none
      else if c = '_' then braced? count value rest
      else if c = '\x7d' then (charOfCode? value).map fun code => (code, rest)
      else none

def afterContinuation? : List Char → Option (List Char)
  | [] => none
  | '\r' :: '\n' :: rest => afterContinuation? rest
  | '\r' :: _ => none
  | c :: rest =>
    if c = ' ' ∨ c = '\t' ∨ c = '\n' then afterContinuation? rest else some (c :: rest)

inductive Content where
  | text
  | bytes
  | terminated
  deriving DecidableEq

def Content.admits : Content → Char → Bool
  | .text, _ => true
  | .bytes, c => c.toNat < 128
  | .terminated, c => c != '\x00'

def Content.admitsCode : Content → (high low : Nat) → Bool
  | .text, high, _ => high < 8
  | .bytes, _, _ => true
  | .terminated, high, low => high != 0 || low != 0

def simpleEscape? : Char → Option Char
  | 'n' => some '\n'
  | 'r' => some '\r'
  | 't' => some '\t'
  | '\\' => some '\\'
  | '\'' => some '\''
  | '"' => some '"'
  | '0' => some '\x00'
  | _ => none

def escape? (content : Content) : List Char → Option (Char × List Char)
  | 'x' :: high :: low :: rest => do
    let high ← hexDigit? high
    let low ← hexDigit? low
    if content.admitsCode high low then some (Char.ofNat (16 * high + low), rest) else none
  | 'u' :: '\x7b' :: rest =>
    if content = .bytes then none
    else (braced? 0 0 rest).filter fun (c, _) => content.admits c
  | c :: rest =>
    ((simpleEscape? c).filter fun e => e != '\x00' || content != .terminated).map
      fun e => (e, rest)
  | [] => none

/-! ### Quoted literals -/

def prepend (before : List Char) (read : List Char × List Char) : List Char × List Char :=
  (before ++ read.1, read.2)

def cooked? (content : Content) : Nat → List Char → Option (List Char × List Char)
  | 0, _ => none
  | steps + 1, text =>
    match text with
    | [] => none
    | '"' :: rest => some ([], rest)
    | '\r' :: '\n' :: rest => (cooked? content steps rest).map (prepend ['\n'])
    | '\r' :: _ => none
    | '\\' :: '\n' :: rest => (afterContinuation? rest).bind (cooked? content steps)
    | '\\' :: '\r' :: rest => (afterContinuation? ('\r' :: rest)).bind (cooked? content steps)
    | '\\' :: rest => (escape? content rest).bind fun (c, rest) =>
        (cooked? content steps rest).map (prepend [c])
    | c :: rest =>
      if content.admits c then (cooked? content steps rest).map (prepend [c]) else none

def raw? (content : Content) (hashes : Nat) : List Char → Option (List Char × List Char)
  | [] => none
  | '\r' :: '\n' :: rest => (raw? content hashes rest).map (prepend ['\r', '\n'])
  | '\r' :: _ => none
  | c :: rest =>
    if c = '"' ∧ (List.replicate hashes '#').isPrefixOf rest then some ([], rest.drop hashes)
    else if content.admits c then (raw? content hashes rest).map (prepend [c])
    else none

def maxHashes : Nat := 255

def afterRawMark? (content : Content) (text : List Char) : Option (List Char × List Char) :=
  let hashes := (text.takeWhile (· = '#')).length
  match text.dropWhile (· = '#') with
  | '"' :: body => if hashes ≤ maxHashes then raw? content hashes body else none
  | _ => none

def afterQuote? (content : Content) (body : List Char) : Option (List Char × List Char) :=
  cooked? content (body.length + 1) body

def string? (text : List Char) : Option (Content × List Char × List Char) :=
  let found := match text with
    | '"' :: body => (afterQuote? .text body).map (Content.text, ·)
    | 'r' :: rest => (afterRawMark? .text rest).map (Content.text, ·)
    | 'b' :: '"' :: body => (afterQuote? .bytes body).map (Content.bytes, ·)
    | 'b' :: 'r' :: rest => (afterRawMark? .bytes rest).map (Content.bytes, ·)
    | 'c' :: '"' :: body => (afterQuote? .terminated body).map (Content.terminated, ·)
    | 'c' :: 'r' :: rest => (afterRawMark? .terminated rest).map (Content.terminated, ·)
    | _ => none
  found.map fun (content, value, rest) => (content, value, afterSuffix rest)

def afterApostrophe? (content : Content) (text : List Char) : Option (List Char) :=
  let inside := match text with
    | '\\' :: rest => (escape? content rest).map Prod.snd
    | c :: rest => if content.admits c then some rest else none
    | [] => none
  match inside with
  | some ('\'' :: rest) => some (afterSuffix rest)
  | _ => none

def afterCharacter? : List Char → Option (List Char)
  | '\'' :: rest => afterApostrophe? .text rest
  | 'b' :: '\'' :: rest => afterApostrophe? .bytes rest
  | _ => none

/-! ### Numbers -/

def afterDigits? (base : Nat) : (seen : Bool) → List Char → Option (List Char)
  | seen, [] => if seen then some [] else none
  | seen, c :: rest =>
    match hexDigit? c with
    | some digit =>
      if digit < base then afterDigits? base true rest
      else if c.isDigit ∨ ¬ seen then none
      else some (c :: rest)
    | none =>
      if c = '_' ∧ (seen ∨ base ≠ 10) then afterDigits? base seen rest
      else if seen ∧ c ≠ '_' then some (c :: rest)
      else none

def afterWhole? (text : List Char) : Option (List Char) :=
  let digits := match text with
    | '0' :: 'x' :: rest => afterDigits? 16 false rest
    | '0' :: 'o' :: rest => afterDigits? 8 false rest
    | '0' :: 'b' :: rest => afterDigits? 2 false rest
    | _ => afterDigits? 10 false text
  digits.bind afterNumberSuffix?

/-- What follows an exponent after its letter, if it has a digit; one sign may come before that. -/
def afterExponent? : (signed valued : Bool) → List Char → Option (List Char)
  | _, valued, [] => if valued then some [] else none
  | signed, valued, c :: rest =>
    if c.isDigit then afterExponent? signed true rest
    else if c = '_' then afterExponent? signed valued rest
    else if valued then some (c :: rest)
    else if (c = '+' ∨ c = '-') ∧ ¬ signed then afterExponent? true valued rest
    else none

/--
What follows the digits of a number with a point or an exponent. A point is none if another point
or a word follows it; letters that make no exponent are left to the suffix when there is a point.
-/
def afterFraction? : (pointed : Bool) → List Char → Option (List Char)
  | pointed, [] => if pointed then some [] else none
  | pointed, c :: rest =>
    if c.isDigit ∨ c = '_' then afterFraction? pointed rest
    else if c = '.' ∧ ¬ pointed then
      match rest with
      | next :: _ => if next = '.' ∨ isIdentifierStart next then none else afterFraction? true rest
      | [] => afterFraction? true rest
    else if c = 'e' ∨ c = 'E' then
      match afterExponent? false false rest with
      | some after => some after
      | none => if pointed then some (c :: rest) else none
    else if pointed then some (c :: rest)
    else none

def afterNumber? (text : List Char) : Option (List Char) :=
  match text with
  | [] => none
  | c :: rest =>
    if c.isDigit then
      match (afterFraction? false rest).bind afterNumberSuffix? with
      | some after => some after
      | none => afterWhole? text
    else none

end HookWiring.Source
