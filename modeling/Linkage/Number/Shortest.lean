import Linkage.Number.Decimal

namespace Linkage

/-!
# Shortest decimal text of a double

The text of a double has the fewest digits that still identify it, and among
the decimals with that many digits the one nearest to the double.  The digits
are written positionally, whatever the magnitude, and a whole number has no
decimal point.

A decimal identifies a double when it lies in the interval of numbers that
round to it.  The ends of that interval are halfway to the neighbouring
doubles, and belong to it when the mantissa is even.
-/

/-- The numbers that round to one positive double. -/
structure RoundingInterval where
  lower : Ratio
  upper : Ratio
  endsIncluded : Bool
  deriving Repr, DecidableEq

namespace RoundingInterval

/--
The interval of `mantissa * 2 ^ exponent`.  Just above a power of two the
neighbour below is half as far away as the one above; only the smallest
exponent has no such gap.
-/
def ofBinary
    (mantissa : Nat)
    (exponent : Int) : RoundingInterval :=
  let narrow := mantissa = 1 <<< 52 ∧ -1074 < exponent
  { lower :=
      if narrow then
        Ratio.ofBinary (4 * mantissa - 1) (exponent - 2)
      else
        Ratio.ofBinary (2 * mantissa - 1) (exponent - 1)
    upper := Ratio.ofBinary (2 * mantissa + 1) (exponent - 1)
    endsIncluded := mantissa % 2 == 0 }

/-- Whether a fraction rounds to the double of the interval. -/
def contains
    (interval : RoundingInterval)
    (ratio : Ratio) : Bool :=
  if interval.endsIncluded then
    !ratio.below interval.lower && !interval.upper.below ratio
  else
    interval.lower.below ratio && ratio.below interval.upper

end RoundingInterval

namespace Decimal

/--
The decimal with the given number of digits that identifies a double, if there
is one.  Of two it is the nearer, and of two equally near ones the larger.
-/
def identifying?
    (interval : RoundingInterval)
    (value : Ratio)
    (digits : Nat) : Option Decimal :=
  let places := (digits : Int) - 1 - value.leadingPower
  let scaled := value.scaleTen places
  let below := scaled.floor
  let belowFits :=
    interval.contains (Ratio.scaleTen ⟨below, 1⟩ (-places))
  let aboveFits :=
    interval.contains (Ratio.scaleTen ⟨below + 1, 1⟩ (-places))
  let remainder := scaled.numerator % scaled.denominator
  let belowNearer := 2 * remainder < scaled.denominator
  if belowFits && (belowNearer || !aboveFits) then
    some ⟨false, below, -places⟩
  else if aboveFits then
    some ⟨false, below + 1, -places⟩
  else
    none

/-- The first identifying decimal among the digit counts listed. -/
def firstIdentifying?
    (interval : RoundingInterval)
    (value : Ratio)
    (counts : List Nat) : Option Decimal :=
  counts.findSome? (identifying? interval value)

/--
The shortest decimal of `mantissa * 2 ^ exponent`.  Seventeen digits identify
any double, so the search ends there.
-/
def shortest
    (mantissa : Nat)
    (exponent : Int) : Decimal :=
  let value := Ratio.ofBinary mantissa exponent
  let interval := RoundingInterval.ofBinary mantissa exponent
  match firstIdentifying? interval value (List.range' 1 17) with
  | some decimal => normalize decimal
  | none => ofDigits false value 17

/-- Digits of a decimal written positionally, without its sign. -/
def positionalText
    (decimal : Decimal) : String :=
  let digits := Nat.toDigits 10 decimal.coefficient
  if 0 ≤ decimal.exponent then
    String.ofList (digits ++ List.replicate decimal.exponent.toNat '0')
  else
    let places := (-decimal.exponent).toNat
    let padded :=
      List.replicate (places + 1 - digits.length) '0' ++ digits
    let whole := padded.take (padded.length - places)
    let fraction := padded.drop (padded.length - places)
    String.ofList (whole ++ '.' :: fraction)

end Decimal

/-- Base numbers that can be shown in messages. -/
class PlainText (K : Type) where
  /-- Text of a number for a reader. -/
  plainText : K → String

/-- Shortest text of a double; zero keeps its sign. -/
def shortestText
    (value : Float) : String :=
  match ExactValue.ofFloat value with
  | .undefined => "NaN"
  | .infinite negative => if negative then "-inf" else "inf"
  | .finite negative mantissa exponent =>
      (if negative then "-" else "") ++
        (if mantissa = 0 then
          "0"
        else
          (Decimal.shortest mantissa exponent).positionalText)

instance : PlainText Float where
  plainText := shortestText

end Linkage
