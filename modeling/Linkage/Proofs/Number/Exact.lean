import Mathlib.Algebra.Field.Basic
import Mathlib.Algebra.Order.Field.Basic
import Mathlib.Algebra.Ring.CharZero
import Mathlib.Tactic.FieldSimp
import Mathlib.Tactic.LinearCombination
import Mathlib.Tactic.Ring
import Linkage.Proofs.Number.ScalarMap

namespace Linkage

/-!
# Exact arithmetic

Statements about derivatives are statements about arithmetic without rounding.
The laws it has to obey are those of a commutative ring or a field, and the
few below about elementary functions.  Each is a class of its own, so that a
result asks only for the laws it rests on.

Dual numbers over exact numbers are exact again: they form a commutative ring
with a lawful sine and cosine.  What is proved over any such ring therefore
holds for values and for derivatives alike.
-/

/-- Cosine and sine of an angle are coordinates of a point of the circle. -/
class LawfulTrigonometry
    (T : Type) [CommRing T] [Elementary T] : Prop where
  cos_mul_cos_add_sin_mul_sin (angle : T) :
    Elementary.cos angle * Elementary.cos angle +
      Elementary.sin angle * Elementary.sin angle = 1

/-- Sine and cosine of a sum of angles, and of no angle at all. -/
class LawfulAngleSums
    (T : Type) [CommRing T] [Elementary T] : Prop where
  sin_add (first second : T) :
    Elementary.sin (first + second) =
      Elementary.sin first * Elementary.cos second +
        Elementary.cos first * Elementary.sin second
  cos_add (first second : T) :
    Elementary.cos (first + second) =
      Elementary.cos first * Elementary.cos second -
        Elementary.sin first * Elementary.sin second
  sin_zero : Elementary.sin (0 : T) = 0
  cos_zero : Elementary.cos (0 : T) = 1

/-- Fusing a product and a sum changes nothing where nothing is rounded. -/
class LawfulFusedMulAdd
    (K : Type) [CommRing K] [FusedMulAdd K] : Prop where
  mulAdd_eq (a b c : K) :
    FusedMulAdd.mulAdd a b c = a * b + c

/-- The square of the root of a positive number is that number. -/
class LawfulSqrt
    (K : Type) [Field K] [LinearOrder K] [Elementary K] : Prop where
  sqrt_mul_sqrt {number : K} (positive : 0 < number) :
    Elementary.sqrt number * Elementary.sqrt number = number

/-- The root of zero is zero. -/
class LawfulRootOfZero
    (K : Type) [Zero K] [Elementary K] : Prop where
  sqrt_zero : Elementary.sqrt (0 : K) = 0

/-- To divide is to multiply by the reciprocal. -/
class LawfulDivision
    (T : Type) [CommRing T] [Div T] : Prop where
  div_eq_mul_reciprocal (a b : T) :
    a / b = a * (1 / b)

/-- Two halves make a whole. -/
class LawfulHalving
    (T : Type) [CommRing T] [Div T] : Prop where
  half_add_half (number : T) :
    number / two + number / two = number

attribute [simp] LawfulFusedMulAdd.mulAdd_eq

instance lawfulDivisionOfField
    {K : Type} [Field K] : LawfulDivision K where
  div_eq_mul_reciprocal := div_eq_mul_one_div

/-- In characteristic zero, two is not zero. -/
theorem two_ne_zero_of_charZero
    {K : Type} [Field K] [CharZero K] :
    (two : K) ≠ 0 := by
  rw [two, one_add_one_eq_two]
  exact two_ne_zero

instance lawfulHalvingOfField
    {K : Type} [Field K] [CharZero K] : LawfulHalving K where
  half_add_half number := by
    rw [two, one_add_one_eq_two, add_halves]

/-- A positive number has a root that is not zero. -/
theorem sqrt_ne_zero
    {K : Type} [Field K] [LinearOrder K] [Elementary K] [LawfulSqrt K]
    {number : K}
    (positive : 0 < number) :
    Elementary.sqrt number ≠ 0 := by
  intro rootIsZero
  have square := LawfulSqrt.sqrt_mul_sqrt positive
  rw [rootIsZero, mul_zero] at square
  exact positive.ne square

attribute [ext] Dual

namespace Dual

section Seed

variable {K : Type}

/-- Numbers that carry given derivatives. -/
def seed
    (values directions : List K) : List (Dual K) :=
  List.zipWith Dual.mk values directions

theorem length_seed
    {values directions : List K}
    (sameLength : values.length = directions.length) :
    (seed values directions).length = values.length := by
  simp [seed, sameLength]

theorem map_re_seed
    {values directions : List K}
    (sameLength : values.length = directions.length) :
    (seed values directions).map Dual.re = values := by
  induction values generalizing directions with
  | nil =>
      rfl
  | cons value values inductionHypothesis =>
      cases directions with
      | nil =>
          cases sameLength
      | cons direction directions =>
          exact congrArg (value :: ·)
            (inductionHypothesis (Nat.succ.inj sameLength))

/-- A seeded number carries the direction at its place. -/
theorem direction_of_seed
    {values directions : List K}
    {index : Nat}
    {number : Dual K}
    (found : (seed values directions)[index]? = some number) :
    directions[index]? = some number.eps := by
  obtain ⟨value, direction, _, directionFound, rfl⟩ :=
    List.getElem?_zipWith_eq_some.mp found
  exact directionFound

@[simp] theorem map_re_constant
    [Zero K]
    (values : List K) :
    (values.map (Constant.constant : K → Dual K)).map Dual.re =
      values := by
  rw [List.map_map]
  exact List.map_id values

end Seed

section Ring

variable {K : Type}
variable [CommRing K] [FusedMulAdd K] [LawfulFusedMulAdd K]

/-- Dual numbers over a commutative ring form a commutative ring. -/
instance commRing : CommRing (Dual K) where
  add_assoc a b c := by ext <;> simp [add_assoc]
  zero_add a := by ext <;> simp
  add_zero a := by ext <;> simp
  add_comm a b := by ext <;> simp [add_comm]
  neg_add_cancel a := by ext <;> simp
  sub_eq_add_neg a b := by ext <;> simp [sub_eq_add_neg]
  mul_assoc a b c := by ext <;> simp <;> ring
  one_mul a := by ext <;> simp
  mul_one a := by ext <;> simp
  mul_comm a b := by ext <;> simp <;> ring
  left_distrib a b c := by ext <;> simp <;> ring
  right_distrib a b c := by ext <;> simp <;> ring
  zero_mul a := by ext <;> simp
  mul_zero a := by ext <;> simp
  nsmul := nsmulRec
  zsmul := zsmulRec

/-- Constants among the dual numbers compute as the base numbers do. -/
instance preservesArithmetic_constant :
    PreservesArithmetic (Constant.constant : K → Dual K) where
  map_zero := rfl
  map_one := rfl
  map_add a b := by ext <;> simp
  map_sub a b := by ext <;> simp
  map_neg a := by ext <;> simp
  map_mul a b := by ext <;> simp

end Ring

section Field

variable {K : Type} [Field K]

@[simp] theorem re_div (a b : Dual K) :
    (a / b).re = a.re / b.re :=
  mul_one_div a.re b.re

@[simp] theorem re_sqrt [Elementary K] (a : Dual K) :
    (Elementary.sqrt a).re = Elementary.sqrt a.re := rfl

@[simp] theorem eps_sqrt [Elementary K] (a : Dual K) :
    (Elementary.sqrt a).eps =
      a.eps / (two * Elementary.sqrt a.re) := rfl

@[simp] theorem re_sin [Elementary K] (angle : Dual K) :
    (Elementary.sin angle).re = Elementary.sin angle.re := rfl

@[simp] theorem eps_sin [Elementary K] (angle : Dual K) :
    (Elementary.sin angle).eps =
      angle.eps * Elementary.cos angle.re := rfl

@[simp] theorem re_cos [Elementary K] (angle : Dual K) :
    (Elementary.cos angle).re = Elementary.cos angle.re := rfl

@[simp] theorem eps_cos [Elementary K] (angle : Dual K) :
    (Elementary.cos angle).eps =
      -angle.eps * Elementary.sin angle.re := rfl

/-- The quotient rule. -/
theorem eps_div (a b : Dual K) :
    (a / b).eps =
      (a.eps * b.re - a.re * b.eps) / (b.re * b.re) := by
  have definition :
      (a / b).eps =
        (a.eps * b.re - a.re * b.eps) * (1 / b.re) * (1 / b.re) := rfl
  rw [definition]
  ring

/-- Sine and cosine of a constant angle are constants. -/
instance preservesTrigonometry_constant
    [Elementary K] :
    PreservesTrigonometry (Constant.constant : K → Dual K) where
  map_sin angle := by ext <;> simp
  map_cos angle := by ext <;> simp

variable [FusedMulAdd K] [LawfulFusedMulAdd K]

/-- The chain rule keeps the derivative tangent to the circle. -/
instance lawfulTrigonometry
    [Elementary K] [LawfulTrigonometry K] :
    LawfulTrigonometry (Dual K) where
  cos_mul_cos_add_sin_mul_sin angle := by
    ext
    · simpa using
        LawfulTrigonometry.cos_mul_cos_add_sin_mul_sin angle.re
    · simp
      ring

/-- The derivative of a sum of angles is a sum of derivatives. -/
instance lawfulAngleSums
    [Elementary K] [LawfulAngleSums K] :
    LawfulAngleSums (Dual K) where
  sin_add first second := by
    ext
    · exact LawfulAngleSums.sin_add first.re second.re
    · simp [LawfulAngleSums.cos_add]
      ring
  cos_add first second := by
    ext
    · exact LawfulAngleSums.cos_add first.re second.re
    · simp [LawfulAngleSums.sin_add]
      ring
  sin_zero := by
    ext
    · exact LawfulAngleSums.sin_zero
    · simp
  cos_zero := by
    ext
    · exact LawfulAngleSums.cos_zero
    · simp

/-- Two is a constant, so a dual number is halved in both of its parts. -/
instance lawfulHalving
    [CharZero K] : LawfulHalving (Dual K) where
  half_add_half number := by
    have twoNotZero : (two : K) ≠ 0 := two_ne_zero_of_charZero
    have twoValue : (two : Dual K).re = two := rfl
    have twoIsConstant : (two : Dual K).eps = 0 := by
      simp [two]
    ext
    · simpa [twoValue] using
        LawfulHalving.half_add_half number.re
    · rw [eps_add, eps_div, twoValue, twoIsConstant, mul_zero, sub_zero,
        mul_div_mul_right _ _ twoNotZero]
      exact LawfulHalving.half_add_half number.eps

/-- This needs no divisor other than zero: the reciprocal of zero is zero. -/
instance lawfulDivision : LawfulDivision (Dual K) where
  div_eq_mul_reciprocal a b := by
    ext
    · simp [div_eq_mul_inv]
    · rcases eq_or_ne b.re 0 with isZero | notZero
      · simp [eps_div, isZero]
      · simp [eps_div]
        field_simp
        ring

end Field

end Dual

end Linkage
