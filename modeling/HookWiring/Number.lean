import HookWiring.Double
import HookWiring.Text.Numeral

/-!
# Numbers

A number is whole or a double. A numeral without point and exponent is whole as long as it fits
64 bits; minus zero and every other numeral are doubles. The text of a double always shows a
point or an exponent.
-/

namespace HookWiring

inductive Number where
  | whole (n : Int)
  | double (x : Double)
  deriving DecidableEq

namespace Number

structure Numeral where
  negative : Bool
  whole : List Char
  fraction : Option (List Char)
  exponent : Option Int

def splitSign : List Char → Bool × List Char
  | '-' :: rest => (true, rest)
  | '+' :: rest => (false, rest)
  | rest => (false, rest)

def readExponent? (text : List Char) : Option Int :=
  let (negative, digits) := splitSign text
  if digits.isEmpty ∨ ¬ digits.all Char.isDigit then none
  else some (if negative then -Text.digitsValue digits else Text.digitsValue digits)

def readTail? (negative : Bool) (whole : List Char) (fraction : Option (List Char)) :
    List Char → Option Numeral
  | [] => some { negative, whole, fraction, exponent := none }
  | letter :: rest =>
    if letter = 'e' ∨ letter = 'E' then
      (readExponent? rest).map fun exponent =>
        { negative, whole, fraction, exponent := some exponent }
    else none

/-- The numeral that a text spells: no needless zero leads it, and digits surround its point. -/
def Numeral.read? (text : List Char) : Option Numeral :=
  let (negative, unsigned) := match text with
    | '-' :: rest => (true, rest)
    | rest => (false, rest)
  let whole := unsigned.takeWhile Char.isDigit
  if whole.isEmpty ∨ (whole.head? = some '0' ∧ whole.length ≠ 1) then none
  else match unsigned.dropWhile Char.isDigit with
    | '.' :: rest =>
      let fraction := rest.takeWhile Char.isDigit
      if fraction.isEmpty then none
      else readTail? negative whole (some fraction) (rest.dropWhile Char.isDigit)
    | rest => readTail? negative whole none rest

def maxSignificand : Nat := 18446744073709551615

/-- A significand lengthened by digits as long as it is kept exactly, and the digits left over. -/
def lengthen : (significand : Nat) → List Char → Nat × List Char
  | significand, [] => (significand, [])
  | significand, digit :: rest =>
    let next := 10 * significand + (digit.toNat - '0'.toNat)
    if next ≤ maxSignificand then lengthen next rest else (significand, digit :: rest)

def Numeral.double? (numeral : Numeral) : Option Double :=
  let (significand, dropped) := lengthen 0 numeral.whole
  let fraction := numeral.fraction.getD []
  let (significand, unused) := lengthen significand fraction
  let shift : Int := (dropped.length : Int) - (fraction.length - unused.length : Nat)
  (Magnitude.ofDecimal? significand (shift + numeral.exponent.getD 0)).map fun magnitude =>
    { negative := numeral.negative, magnitude }

def isKeptWhole (negative : Bool) (value : Nat) : Bool :=
  if negative then 0 < value && value ≤ 9223372036854775808 else value ≤ maxSignificand

def Numeral.number? (numeral : Numeral) : Option Number :=
  let value := Text.digitsValue numeral.whole
  if numeral.fraction.isNone ∧ numeral.exponent.isNone ∧ isKeptWhole numeral.negative value then
    some (.whole (if numeral.negative then -value else value))
  else numeral.double?.map .double

def read? (text : String) : Option Number :=
  (Numeral.read? text.toList).bind Numeral.number?

/-- Digits without the zeros at their end, which move into the exponent. -/
def normalise (digits : List Char) (exponent : Int) : List Char × Int :=
  let trailing := digits.reverse.takeWhile (· == '0')
  ((digits.reverse.dropWhile (· == '0')).reverse, exponent + trailing.length)

def renderExponent (exponent : Int) : List Char :=
  'e' :: (if exponent < 0 then '-' else '+') :: Nat.toDigits 10 exponent.natAbs

/--
The text of significant digits times a power of ten. The point is written out when it falls at
most sixteen places to the right of the first digit and less than five zeros before it; further
out the number is written with an exponent.
-/
def scientific (digits : List Char) (exponent : Int) : List Char :=
  let point : Int := digits.length + exponent
  if 0 ≤ exponent ∧ point ≤ 16 then
    digits ++ List.replicate exponent.toNat '0' ++ ['.', '0']
  else if 0 < point ∧ point ≤ 16 then
    digits.take point.toNat ++ '.' :: digits.drop point.toNat
  else if -5 < point ∧ point ≤ 0 then
    '0' :: '.' :: (List.replicate (-point).toNat '0' ++ digits)
  else match digits with
    | [digit] => digit :: renderExponent (point - 1)
    | digit :: rest => digit :: '.' :: (rest ++ renderExponent (point - 1))
    | [] => ['0', '.', '0']

def renderMagnitude (x : Magnitude) : List Char :=
  if x.coefficient = 0 then ['0', '.', '0']
  else
    let decimal := x.shortest
    let (digits, exponent) := normalise (Nat.toDigits 10 decimal.digits) decimal.exponent
    scientific digits exponent

def render : Number → String
  | .whole n => toString n
  | .double x =>
    let text := renderMagnitude x.magnitude
    String.ofList (if x.negative then '-' :: text else text)

end Number

end HookWiring
