/-!
# Doubles

The finite numbers of double precision: a sign and a coefficient of at most 53 bits times a power
of two. A ratio is rounded to the nearest of them, and a decimal numeral is read by rounding its
digits and the power of ten first and their product or quotient afterwards. The text of a double
has the fewest digits that lie nearer to it than to any other double.
-/

namespace HookWiring

structure Magnitude where
  coefficient : Nat
  exponent : Int
  deriving DecidableEq

namespace Magnitude

def minExponent : Int := -1074

def zero : Magnitude := { coefficient := 0, exponent := minExponent }

-- Powers are written out, for what instance a caret stands for depends on the imports.
def ratio (x : Magnitude) : Nat × Nat :=
  (x.coefficient * Nat.pow 2 x.exponent.toNat, Nat.pow 2 (-x.exponent).toNat)

/-- A quotient rounded to the nearest whole number, a half to the even neighbour. -/
def roundHalfEven (numerator denominator : Nat) : Nat :=
  let quotient := numerator / denominator
  let twice := 2 * (numerator % denominator)
  if twice < denominator ∨ (twice = denominator ∧ quotient % 2 = 0) then quotient else quotient + 1

/-- The exponent that leaves a ratio a coefficient of 53 bits, or the least one if it has less. -/
def exponentOfRatio (numerator denominator : Nat) : Int :=
  let estimate : Int := numerator.log2 - denominator.log2 - 53
  let fits :=
    numerator * Nat.pow 2 (-estimate).toNat < denominator * Nat.pow 2 (estimate.toNat + 53)
  max minExponent (if fits then estimate else estimate + 1)

def ofRatio (numerator denominator : Nat) : Magnitude :=
  if numerator = 0 then zero
  else
    let exponent := exponentOfRatio numerator denominator
    let coefficient :=
      roundHalfEven (numerator * Nat.pow 2 (-exponent).toNat)
        (denominator * Nat.pow 2 exponent.toNat)
    if coefficient = Nat.pow 2 53 then { coefficient := Nat.pow 2 52, exponent := exponent + 1 }
    else { coefficient, exponent }

def isFinite (x : Magnitude) : Bool :=
  decide (x.exponent ≤ 971)

def mul (x y : Magnitude) : Magnitude :=
  ofRatio (x.ratio.1 * y.ratio.1) (x.ratio.2 * y.ratio.2)

def div (x y : Magnitude) : Magnitude :=
  ofRatio (x.ratio.1 * y.ratio.2) (x.ratio.2 * y.ratio.1)

def maxPower : Nat := 308

def powerOfTen (n : Nat) : Magnitude := ofRatio (Nat.pow 10 n) 1

def descend : (steps : Nat) → Magnitude → Magnitude
  | 0, x => x
  | steps + 1, x =>
    if x.coefficient = 0 then x else descend steps (x.div (powerOfTen maxPower))

def ofDecimal? (digits : Nat) : (exponent : Int) → Option Magnitude
  | .ofNat power =>
    let significand := ofRatio digits 1
    if significand.coefficient = 0 then some significand
    else if power ≤ maxPower then
      let product := significand.mul (powerOfTen power)
      if product.isFinite then some product else none
    else none
  | .negSucc power =>
    let steps := power / maxPower
    some ((descend steps (ofRatio digits 1)).div (powerOfTen (power + 1 - steps * maxPower)))

structure Decimal where
  digits : Nat
  exponent : Int
  deriving DecidableEq, Repr

/-- The number of digits before the point, negative when zeros follow the point. -/
def pointPosition (x : Magnitude) : Int :=
  let (numerator, denominator) := x.ratio
  (Nat.toDigits 10 (numerator * Nat.pow 10 330 / denominator)).length - 330

/--
The decimal of so many digits that rounds to this magnitude and is nearest to it, if there is one.
A decimal rounds to a magnitude when it lies at most half way to its neighbours; the half-way
points themselves count when the coefficient is even. The neighbour below a power of two is twice
as near.
-/
def decimalOfLength? (x : Magnitude) (length : Nat) : Option Decimal :=
  let exponent := x.pointPosition - length
  let (numerator, denominator) := x.ratio
  -- Everything is scaled so that the last place of the decimal is worth `unit`.
  let unit := 4 * denominator * Nat.pow 10 exponent.toNat
  let value := 4 * numerator * Nat.pow 10 (-exponent).toNat
  let gap := Nat.pow 2 x.exponent.toNat * Nat.pow 10 (-exponent).toNat
  let below := if x.coefficient = Nat.pow 2 52 ∧ minExponent < x.exponent then gap else 2 * gap
  let above := 2 * gap
  let rounds (n : Nat) : Bool :=
    if x.coefficient % 2 = 0 then value ≤ n * unit + below ∧ n * unit ≤ value + above
    else value < n * unit + below ∧ n * unit < value + above
  let nearest := roundHalfEven value unit
  let candidates := [nearest, value / unit, value / unit + 1]
  (candidates.find? rounds).map fun digits => { digits, exponent }

/-- The shortest decimal that rounds to this magnitude, and of those the nearest. -/
def shortest (x : Magnitude) : Decimal :=
  (((List.range 17).map (· + 1)).findSome? x.decimalOfLength?).getD { digits := 0, exponent := 0 }

end Magnitude

structure Double where
  negative : Bool
  magnitude : Magnitude
  deriving DecidableEq

end HookWiring
