import Linkage.Number.Binary64

namespace Linkage

/-!
# Rounding exact values to decimals

A finite double is an exact fraction.  Here that fraction is rounded to a
number of decimal places or of significant digits, a tie going to the even
neighbour.  All the arithmetic is on whole numbers.
-/

/-- A decimal number `±coefficient * 10 ^ exponent`. -/
structure Decimal where
  negative : Bool
  coefficient : Nat
  exponent : Int
  deriving Repr, DecidableEq

/-- A non-negative fraction; the denominator is positive wherever it is used. -/
structure Ratio where
  numerator : Nat
  denominator : Nat
  deriving Repr, DecidableEq

namespace Ratio

/-- The fraction `mantissa * 2 ^ exponent`. -/
def ofBinary
    (mantissa : Nat)
    (exponent : Int) : Ratio :=
  if 0 ≤ exponent then
    ⟨mantissa <<< exponent.toNat, 1⟩
  else
    ⟨mantissa, 1 <<< (-exponent).toNat⟩

/-- The fraction multiplied by a power of ten. -/
def scaleTen
    (ratio : Ratio)
    (power : Int) : Ratio :=
  if 0 ≤ power then
    ⟨ratio.numerator * Nat.pow 10 power.toNat, ratio.denominator⟩
  else
    ⟨ratio.numerator, ratio.denominator * Nat.pow 10 (-power).toNat⟩

/-- Whether the first fraction is below the second. -/
def below
    (first second : Ratio) : Bool :=
  first.numerator * second.denominator <
    second.numerator * first.denominator

/-- The whole number at or below a fraction. -/
def floor
    (ratio : Ratio) : Nat :=
  ratio.numerator / ratio.denominator

/-- The whole number nearest to a fraction; a tie goes to the even one. -/
def roundEven
    (ratio : Ratio) : Nat :=
  let quotient := ratio.floor
  let doubled := 2 * (ratio.numerator % ratio.denominator)
  if doubled < ratio.denominator then
    quotient
  else if ratio.denominator < doubled then
    quotient + 1
  else
    quotient + quotient % 2

/-- How many decimal digits a whole number has. -/
def digitCount
    (number : Nat) : Nat :=
  (Nat.toDigits 10 number).length

/--
The power of ten of the leading digit of a positive fraction: the fraction is
at least `10 ^ k` and below `10 ^ (k + 1)`.
-/
def leadingPower
    (ratio : Ratio) : Int :=
  if ratio.denominator ≤ ratio.numerator then
    (digitCount ratio.floor : Int) - 1
  else
    let digits := digitCount (ratio.denominator / ratio.numerator)
    if ratio.denominator ≤ ratio.numerator * Nat.pow 10 (digits - 1) then
      -((digits : Int) - 1)
    else
      -(digits : Int)

end Ratio

namespace Decimal

/-- Drop up to `count` trailing zeros of a coefficient. -/
private def dropZeros :
    Nat → Nat → Int → Nat × Int
  | 0, coefficient, exponent => (coefficient, exponent)
  | count + 1, coefficient, exponent =>
      if coefficient % 10 = 0 then
        dropZeros count (coefficient / 10) (exponent + 1)
      else
        (coefficient, exponent)

/-- The same number without trailing zeros; zero has exponent zero. -/
def normalize
    (decimal : Decimal) : Decimal :=
  if decimal.coefficient = 0 then
    { decimal with exponent := 0 }
  else
    let (coefficient, exponent) :=
      dropZeros (Ratio.digitCount decimal.coefficient)
        decimal.coefficient decimal.exponent
    { decimal with coefficient, exponent }

/-- Round a fraction to a number of places after the decimal point. -/
def ofPlaces
    (negative : Bool)
    (ratio : Ratio)
    (places : Int) : Decimal :=
  normalize ⟨negative, (ratio.scaleTen places).roundEven, -places⟩

/-- Round a fraction to a number of significant digits. -/
def ofDigits
    (negative : Bool)
    (ratio : Ratio)
    (digits : Nat) : Decimal :=
  if ratio.numerator = 0 then
    ⟨negative, 0, 0⟩
  else
    ofPlaces negative ratio ((digits : Int) - 1 - ratio.leadingPower)

end Decimal

/-!
## Precision of reported values

Reported values are rounded so that the last bits of a long computation, which
depend on the order of its sums, do not show.
-/

/-- How exactly a value is reported. -/
inductive Precision where
  /-- Seventeen significant digits, enough to tell any two doubles apart. -/
  | exact
  /-- Eight places below one, nine significant digits from one on. -/
  | kinematic
  /-- Five places below one, six significant digits from one on. -/
  | difference
  deriving Repr, DecidableEq

/-- Round an exact fraction to a precision. -/
def Precision.round
    (precision : Precision)
    (negative : Bool)
    (ratio : Ratio) : Decimal :=
  let small := ratio.below ⟨1, 1⟩
  match precision with
  | .exact => Decimal.ofDigits negative ratio 17
  | .kinematic =>
      if small then
        Decimal.ofPlaces negative ratio 8
      else
        Decimal.ofDigits negative ratio 9
  | .difference =>
      if small then
        Decimal.ofPlaces negative ratio 5
      else
        Decimal.ofDigits negative ratio 6

/--
Text of a reported value: the coefficient, the letter `e`, and the power of
ten.  Zero stands alone; it keeps its sign only when reported exactly.
-/
def Precision.text
    (precision : Precision)
    (value : Float) : String :=
  match ExactValue.ofFloat value with
  | .undefined => "nan"
  | .infinite negative => if negative then "-inf" else "inf"
  | .finite negative mantissa exponent =>
      let rounded :=
        precision.round negative (Ratio.ofBinary mantissa exponent)
      let sign := if negative then "-" else ""
      if rounded.coefficient = 0 then
        if precision = .exact then sign ++ "0" else "0"
      else
        sign ++ toString rounded.coefficient ++ "e" ++
          toString rounded.exponent

end Linkage
