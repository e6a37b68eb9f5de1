import Linkage.Number.Dual

namespace Linkage

/-!
# Changing the scalars

A map between scalar types that keeps the operations can be applied before or
after a computation.  The value part of a dual number is such a map, and no
law of arithmetic is needed for that: the value of a result is computed by the
same operations, in the same order, from the values of its operands.
-/

variable {S T : Type}

/-- A map that keeps zero, one, sums, differences, negation and products. -/
class PreservesArithmetic
    [Zero S] [One S] [Add S] [Sub S] [Neg S] [Mul S]
    [Zero T] [One T] [Add T] [Sub T] [Neg T] [Mul T]
    (f : S → T) : Prop where
  map_zero : f 0 = 0
  map_one : f 1 = 1
  map_add (a b : S) : f (a + b) = f a + f b
  map_sub (a b : S) : f (a - b) = f a - f b
  map_neg (a : S) : f (-a) = -f a
  map_mul (a b : S) : f (a * b) = f a * f b

/-- A map that keeps the operations keeps the sum of one and one. -/
theorem PreservesArithmetic.map_two
    [Zero S] [One S] [Add S] [Sub S] [Neg S] [Mul S]
    [Zero T] [One T] [Add T] [Sub T] [Neg T] [Mul T]
    (f : S → T) [PreservesArithmetic f] :
    f two = two := by
  rw [two, PreservesArithmetic.map_add (f := f),
    PreservesArithmetic.map_one (f := f), two]

/-- A map that keeps sine and cosine. -/
class PreservesTrigonometry
    [Elementary S] [Elementary T]
    (f : S → T) : Prop where
  map_sin (angle : S) : f (Elementary.sin angle) = Elementary.sin (f angle)
  map_cos (angle : S) : f (Elementary.cos angle) = Elementary.cos (f angle)

/-- A map that keeps square roots. -/
class PreservesSqrt
    [Elementary S] [Elementary T]
    (f : S → T) : Prop where
  map_sqrt (number : S) :
    f (Elementary.sqrt number) = Elementary.sqrt (f number)

/-- A map that keeps quotients. -/
class PreservesDivision
    [Div S] [Div T]
    (f : S → T) : Prop where
  map_div (a b : S) : f (a / b) = f a / f b

/-- A map that keeps the constants of the base numbers. -/
class PreservesConstants
    (K : Type) [Constant K S] [Constant K T]
    (f : S → T) : Prop where
  map_constant (value : K) :
    f (Constant.constant value) = Constant.constant value

section Re

variable {K : Type}

instance preservesArithmetic_re
    [Zero K] [One K] [Add K] [Sub K] [Neg K] [Mul K] [FusedMulAdd K] :
    PreservesArithmetic (Dual.re : Dual K → K) where
  map_zero := rfl
  map_one := rfl
  map_add _ _ := rfl
  map_sub _ _ := rfl
  map_neg _ := rfl
  map_mul _ _ := rfl

instance preservesTrigonometry_re
    [One K] [Add K] [Neg K] [Mul K] [Div K] [Elementary K] :
    PreservesTrigonometry (Dual.re : Dual K → K) where
  map_sin _ := rfl
  map_cos _ := rfl

instance preservesSqrt_re
    [One K] [Add K] [Neg K] [Mul K] [Div K] [Elementary K] :
    PreservesSqrt (Dual.re : Dual K → K) where
  map_sqrt _ := rfl

/--
A quotient of dual numbers is a product with a reciprocal, so its value is the
quotient of the values only where the two are the same.
-/
theorem preservesDivision_re
    [One K] [Sub K] [Mul K] [Div K]
    (reciprocal : ∀ a b : K, a * (1 / b) = a / b) :
    PreservesDivision (Dual.re : Dual K → K) where
  map_div a b := reciprocal a.re b.re

instance preservesConstants_re
    [Zero K] :
    PreservesConstants K (Dual.re : Dual K → K) where
  map_constant _ := rfl

end Re

/-- Base numbers are constants of themselves. -/
instance preservesArithmetic_constant_self
    {K : Type} [Zero K] [One K] [Add K] [Sub K] [Neg K] [Mul K] :
    PreservesArithmetic (Constant.constant : K → K) where
  map_zero := rfl
  map_one := rfl
  map_add _ _ := rfl
  map_sub _ _ := rfl
  map_neg _ := rfl
  map_mul _ _ := rfl

instance preservesTrigonometry_constant_self
    {K : Type} [Elementary K] :
    PreservesTrigonometry (Constant.constant : K → K) where
  map_sin _ := rfl
  map_cos _ := rfl

end Linkage
