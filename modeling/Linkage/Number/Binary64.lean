import Linkage.Number.Basic

namespace Linkage

/-!
# Binary floating point

Every finite double is a whole number times a power of two.  This module reads
a double as such a value, forms `a * b + c` on those exact values with a single
rounding at the end, and gives doubles their place among the number types.
-/

/-- The exact content of a double. -/
inductive ExactValue where
  /-- Not a number. -/
  | undefined
  /-- An infinity. -/
  | infinite (negative : Bool)
  /-- `mantissa * 2 ^ exponent`, negated if `negative`. -/
  | finite (negative : Bool) (mantissa : Nat) (exponent : Int)
  deriving Repr, DecidableEq

/-- Whether a sign bit says negative. -/
private def signIsNegative : Float.Model.UnpackedFloat.Sign → Bool
  | .negative => true
  | .positive => false

/-- Read a double exactly. -/
def ExactValue.ofFloat
    (value : Float) : ExactValue :=
  match value.toModel.unpack with
  | .notANumber => .undefined
  | .infinity sign => .infinite (signIsNegative sign)
  | .zero sign => .finite (signIsNegative sign) 0 0
  | .finite sign mantissa exponent _ =>
      .finite (signIsNegative sign) mantissa exponent

/-- The whole number `±mantissa`, multiplied by a power of two. -/
private def scaledMantissa
    (negative : Bool)
    (mantissa shift : Nat) : Int :=
  let scaled := mantissa <<< shift
  if negative then -(scaled : Int) else scaled

/-- The double nearest to `mantissa * 2 ^ exponent`; a tie goes to even. -/
def nearestFloat
    (mantissa exponent : Int) : Float :=
  Float.ofModel
    (Float.Model.pack
      (Float.Model.UnpackedFloat.normalize
        Float.Model.Format.binary64 mantissa exponent .positive))

/--
The double nearest to `a * b + c`.

A product that is zero or not finite is exact already, and so is the sum of a
product with a value that is not finite; everything else is rounded from the
exact sum.  A product and a summand that cancel give positive zero.
-/
def fusedMulAdd
    (a b c : Float) : Float :=
  match ExactValue.ofFloat a, ExactValue.ofFloat b,
      ExactValue.ofFloat c with
  | .finite aNegative aMantissa aExponent,
    .finite bNegative bMantissa bExponent,
    .finite cNegative cMantissa cExponent =>
      if aMantissa * bMantissa = 0 then
        a * b + c
      else
        let productExponent := aExponent + bExponent
        let exponent :=
          if cMantissa = 0 then
            productExponent
          else
            min productExponent cExponent
        let product :=
          scaledMantissa (aNegative != bNegative)
            (aMantissa * bMantissa) (productExponent - exponent).toNat
        let summand :=
          scaledMantissa cNegative
            cMantissa (cExponent - exponent).toNat
        nearestFloat (product + summand) exponent
  | .finite .., .finite .., _ => c
  | _, _, _ => a * b + c

/-- The double nearest to a whole number. -/
instance instNatCastFloat : NatCast Float where
  natCast := Float.ofNat

instance : Elementary Float where
  sqrt := Float.sqrt
  sin := Float.sin
  cos := Float.cos

instance : FusedMulAdd Float where
  mulAdd := fusedMulAdd

end Linkage
