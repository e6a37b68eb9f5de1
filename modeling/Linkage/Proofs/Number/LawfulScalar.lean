import Mathlib.Analysis.Complex.Trigonometric
import Mathlib.Analysis.Real.Sqrt
import Linkage.Proofs.Number.Exact

namespace Linkage

/-!
# Lawful scalars

What kinematics asks of its scalars are the laws below.  They are stated on the
operations that a scalar type comes with, so that they say the same of plain
numbers and of dual ones.  Which scalars can be divided by, and which have a
root, is decided by their values.

The real numbers, with their own root, sine and cosine, are lawful scalars.
Every law passes from the base numbers to the dual numbers over them, in the
value and in the derivative.
-/

variable {K T : Type}

/-- The laws of a commutative ring, for the operations of a type. -/
structure RingLaws
    (T : Type) [Zero T] [One T] [Add T] [Sub T] [Neg T] [Mul T] :
    Prop where
  add_assoc (a b c : T) : a + b + c = a + (b + c)
  add_comm (a b : T) : a + b = b + a
  zero_add (a : T) : 0 + a = a
  neg_add_cancel (a : T) : -a + a = 0
  sub_eq_add_neg (a b : T) : a - b = a + -b
  mul_assoc (a b c : T) : a * b * c = a * (b * c)
  mul_comm (a b : T) : a * b = b * a
  one_mul (a : T) : 1 * a = a
  add_mul (a b c : T) : (a + b) * c = a * c + b * c

/--
The laws of scalars of type `T` over base numbers of type `K`, each of which
has a value among the base numbers.
-/
structure LawfulScalar
    [Zero K] [One K] [Add K] [Sub K] [Neg K] [Mul K] [LT K]
    [Elementary K]
    [Zero T] [One T] [Add T] [Sub T] [Neg T] [Mul T] [Div T]
    [Elementary T] [Constant K T]
    (value : T → K) : Prop extends RingLaws T where
  div_mul_cancel (a : T) {b : T} (notZero : value b ≠ 0) : a / b * b = a
  mul_div_cancel (a : T) {b : T} (notZero : value b ≠ 0) : a * b / b = a
  div_eq_mul_reciprocal (a b : T) : a / b = a * (1 / b)
  sqrt_mul_sqrt {number : T} (positive : 0 < value number) :
    Elementary.sqrt number * Elementary.sqrt number = number
  sin_mul_sin_add_cos_mul_cos (angle : T) :
    Elementary.sin angle * Elementary.sin angle +
      Elementary.cos angle * Elementary.cos angle = 1
  constant_arithmetic : PreservesArithmetic (Constant.constant : K → T)
  constant_trigonometry :
    PreservesTrigonometry (Constant.constant : K → T)

/-- A commutative ring obeys the laws of one. -/
theorem ringLaws_of_commRing [CommRing T] : RingLaws T where
  add_assoc := add_assoc
  add_comm := add_comm
  zero_add := zero_add
  neg_add_cancel := neg_add_cancel
  sub_eq_add_neg := sub_eq_add_neg
  mul_assoc := mul_assoc
  mul_comm := mul_comm
  one_mul := one_mul
  add_mul := add_mul

/-- The equation of the circle, with the sine first. -/
theorem LawfulTrigonometry.sin_mul_sin_add_cos_mul_cos
    [CommRing T] [Elementary T] [LawfulTrigonometry T]
    (angle : T) :
    Elementary.sin angle * Elementary.sin angle +
      Elementary.cos angle * Elementary.cos angle = 1 := by
  rw [add_comm]
  exact cos_mul_cos_add_sin_mul_sin angle

/-- Base numbers whose roots, sine and cosine are exact are lawful scalars. -/
theorem lawfulScalar_self
    [Field K] [LinearOrder K]
    [Elementary K] [LawfulSqrt K] [LawfulTrigonometry K] :
    LawfulScalar (id : K → K) :=
  { ringLaws_of_commRing with
    div_mul_cancel := fun _ _ notZero => div_mul_cancel₀ _ notZero
    mul_div_cancel := fun _ _ notZero => mul_div_cancel_right₀ _ notZero
    div_eq_mul_reciprocal := LawfulDivision.div_eq_mul_reciprocal
    sqrt_mul_sqrt := LawfulSqrt.sqrt_mul_sqrt
    sin_mul_sin_add_cos_mul_cos :=
      LawfulTrigonometry.sin_mul_sin_add_cos_mul_cos
    constant_arithmetic := inferInstance
    constant_trigonometry := inferInstance }

/-- Root, sine and cosine of the real numbers are their own. -/
noncomputable instance elementaryReal : Elementary ℝ where
  sqrt := Real.sqrt
  sin := Real.sin
  cos := Real.cos

/-- Real numbers are not rounded. -/
noncomputable instance fusedMulAddReal : FusedMulAdd ℝ where
  mulAdd a b c := a * b + c

instance lawfulTrigonometryReal : LawfulTrigonometry ℝ where
  cos_mul_cos_add_sin_mul_sin angle := by
    have circle := Real.cos_sq_add_sin_sq angle
    rw [pow_two, pow_two] at circle
    exact circle

instance lawfulAngleSumsReal : LawfulAngleSums ℝ where
  sin_add := Real.sin_add
  cos_add := Real.cos_add
  sin_zero := Real.sin_zero
  cos_zero := Real.cos_zero

instance lawfulFusedMulAddReal : LawfulFusedMulAdd ℝ where
  mulAdd_eq _ _ _ := rfl

instance lawfulSqrtReal : LawfulSqrt ℝ where
  sqrt_mul_sqrt positive := Real.mul_self_sqrt positive.le

instance lawfulRootOfZeroReal : LawfulRootOfZero ℝ where
  sqrt_zero := Real.sqrt_zero

namespace Dual

variable [Field K] [FusedMulAdd K] [LawfulFusedMulAdd K]

/-- A quotient times its divisor is the dividend. -/
theorem div_mul_cancel
    (a : Dual K)
    {b : Dual K}
    (notZero : b.re ≠ 0) :
    a / b * b = a := by
  ext
  · rw [re_mul, re_div, div_mul_cancel₀ a.re notZero]
  · rw [eps_mul, LawfulFusedMulAdd.mulAdd_eq, re_div, eps_div]
    field_simp
    ring

/-- A product divided by one factor is the other. -/
theorem mul_div_cancel
    (a : Dual K)
    {b : Dual K}
    (notZero : b.re ≠ 0) :
    a * b / b = a := by
  ext
  · rw [re_div, re_mul, mul_div_cancel_right₀ a.re notZero]
  · rw [eps_div, eps_mul, LawfulFusedMulAdd.mulAdd_eq, re_mul]
    field_simp
    ring

variable [Elementary K]

/--
Where the value has a root other than zero, the square of the dual root is the
number.  The derivative of the root is half of a quotient, which the square
takes twice.
-/
theorem sqrt_mul_sqrt
    (twoNotZero : (two : K) ≠ 0)
    {number : Dual K}
    (square :
      Elementary.sqrt number.re * Elementary.sqrt number.re = number.re)
    (rootNotZero : Elementary.sqrt number.re ≠ 0) :
    Elementary.sqrt number * Elementary.sqrt number = number := by
  ext
  · exact square
  · rw [eps_mul, LawfulFusedMulAdd.mulAdd_eq, re_sqrt, eps_sqrt]
    have halves :
        Elementary.sqrt number.re *
              (number.eps / (two * Elementary.sqrt number.re)) +
            number.eps / (two * Elementary.sqrt number.re) *
              Elementary.sqrt number.re =
          two * Elementary.sqrt number.re *
            (number.eps / (two * Elementary.sqrt number.re)) := by
      rw [two]
      ring
    rw [halves, mul_div_cancel₀ _ (mul_ne_zero twoNotZero rootNotZero)]

/-- Roots of positive numbers pass to the dual numbers of positive value. -/
theorem sqrt_mul_sqrt_of_pos
    [LinearOrder K] [IsStrictOrderedRing K]
    (roots : ∀ number : K, 0 < number →
      Elementary.sqrt number * Elementary.sqrt number = number)
    {number : Dual K}
    (positive : 0 < number.re) :
    Elementary.sqrt number * Elementary.sqrt number = number := by
  have lawful : LawfulSqrt K := ⟨fun positive => roots _ positive⟩
  exact
    sqrt_mul_sqrt two_ne_zero_of_charZero (roots number.re positive)
      (sqrt_ne_zero positive)

/-- The equation of the circle passes to the dual numbers. -/
theorem sin_mul_sin_add_cos_mul_cos
    (circle : ∀ angle : K,
      Elementary.sin angle * Elementary.sin angle +
        Elementary.cos angle * Elementary.cos angle = 1)
    (angle : Dual K) :
    Elementary.sin angle * Elementary.sin angle +
      Elementary.cos angle * Elementary.cos angle = 1 := by
  have lawful : LawfulTrigonometry K := by
    refine ⟨fun angle => ?_⟩
    rw [add_comm]
    exact circle angle
  exact LawfulTrigonometry.sin_mul_sin_add_cos_mul_cos angle

/-- Whatever the base numbers obey as scalars, the dual numbers obey. -/
theorem lawfulScalar_of_base
    [LinearOrder K] [IsStrictOrderedRing K]
    (base : LawfulScalar (id : K → K)) :
    LawfulScalar (re : Dual K → K) :=
  { ringLaws_of_commRing with
    div_mul_cancel := div_mul_cancel
    mul_div_cancel := mul_div_cancel
    div_eq_mul_reciprocal := LawfulDivision.div_eq_mul_reciprocal
    sqrt_mul_sqrt :=
      sqrt_mul_sqrt_of_pos fun _ positive => base.sqrt_mul_sqrt positive
    sin_mul_sin_add_cos_mul_cos :=
      sin_mul_sin_add_cos_mul_cos base.sin_mul_sin_add_cos_mul_cos
    constant_arithmetic := inferInstance
    constant_trigonometry := inferInstance }

end Dual

/--
Dual numbers over a field are lawful scalars.  They form a commutative ring,
division by a number whose value is not zero undoes multiplication, and roots,
sine and cosine obey their equations as soon as those of the base numbers do.
So whatever kinematics asks of the plain numbers, the dual numbers give it.
-/
theorem dual_numbers_are_lawful_scalars
    [Field K] [FusedMulAdd K] [LawfulFusedMulAdd K] [Elementary K] :
    RingLaws (Dual K) ∧
      (∀ a b : Dual K, b.re ≠ 0 → a / b * b = a ∧ a * b / b = a) ∧
      (∀ [LinearOrder K] [IsStrictOrderedRing K],
        (∀ number : K, 0 < number →
          Elementary.sqrt number * Elementary.sqrt number = number) →
        ∀ number : Dual K, 0 < number.re →
          Elementary.sqrt number * Elementary.sqrt number = number) ∧
      ((∀ angle : K,
          Elementary.sin angle * Elementary.sin angle +
            Elementary.cos angle * Elementary.cos angle = 1) →
        ∀ angle : Dual K,
          Elementary.sin angle * Elementary.sin angle +
            Elementary.cos angle * Elementary.cos angle = 1) ∧
      ∀ [LinearOrder K] [IsStrictOrderedRing K],
        LawfulScalar (id : K → K) →
          LawfulScalar (Dual.re : Dual K → K) := by
  refine ⟨ringLaws_of_commRing, ?_, ?_, ?_, ?_⟩
  · intro a b notZero
    exact ⟨Dual.div_mul_cancel a notZero, Dual.mul_div_cancel a notZero⟩
  · intro _ _ roots number positive
    exact Dual.sqrt_mul_sqrt_of_pos roots positive
  · intro circle angle
    exact Dual.sin_mul_sin_add_cos_mul_cos circle angle
  · intro _ _ base
    exact Dual.lawfulScalar_of_base base

/-- A quotient, a root, a sine and a cosine with derivatives of their own. -/
theorem dual_numbers_are_lawful_scalars_real :
    RingLaws (Dual ℝ) ∧
      ((⟨3, 1⟩ : Dual ℝ) / ⟨2, 5⟩ * ⟨2, 5⟩ = ⟨3, 1⟩ ∧
        (⟨3, 1⟩ : Dual ℝ) * ⟨2, 5⟩ / ⟨2, 5⟩ = ⟨3, 1⟩) ∧
      Elementary.sqrt (⟨9, 4⟩ : Dual ℝ) * Elementary.sqrt ⟨9, 4⟩ =
        ⟨9, 4⟩ ∧
      Elementary.sin (⟨1, 2⟩ : Dual ℝ) * Elementary.sin ⟨1, 2⟩ +
        Elementary.cos ⟨1, 2⟩ * Elementary.cos ⟨1, 2⟩ = 1 ∧
      LawfulScalar (Dual.re : Dual ℝ → ℝ) := by
  have base : LawfulScalar (id : ℝ → ℝ) := lawfulScalar_self
  obtain ⟨ring, division, roots, circle, passes⟩ :=
    dual_numbers_are_lawful_scalars (K := ℝ)
  refine
    ⟨ring, division ⟨3, 1⟩ ⟨2, 5⟩ two_ne_zero, ?_,
      circle base.sin_mul_sin_add_cos_mul_cos ⟨1, 2⟩, passes base⟩
  exact
    roots (fun _ positive => base.sqrt_mul_sqrt positive) ⟨9, 4⟩
      (by norm_num)

end Linkage
