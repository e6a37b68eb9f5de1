import Linkage.Number.Basic

namespace Linkage

/-!
# Dual numbers

A dual number carries a value and one directional derivative.  Seeding the
positions of a mechanism with their rates makes every quantity computed from
them carry its own rate, by the ordinary rules of differentiation.

Each operation states the value and the derivative separately, so the value
part never depends on a derivative.
-/

/-- A value together with its derivative along one direction. -/
structure Dual (K : Type) where
  /-- The value. -/
  re : K
  /-- The derivative. -/
  eps : K
  deriving Repr, BEq, DecidableEq

namespace Dual

variable {K : Type}

/-- A constant: its derivative is zero. -/
def ofConstant
    [Zero K]
    (value : K) : Dual K :=
  ⟨value, 0⟩

/-- The variable of differentiation: its derivative is one. -/
def ofVariable
    [One K]
    (value : K) : Dual K :=
  ⟨value, 1⟩

instance [Zero K] : Constant K (Dual K) where
  constant := ofConstant

instance [Zero K] : Zero (Dual K) where
  zero := ofConstant 0

instance [Zero K] [One K] : One (Dual K) where
  one := ofConstant 1

instance [Add K] : Add (Dual K) where
  add a b := ⟨a.re + b.re, a.eps + b.eps⟩

instance [Sub K] : Sub (Dual K) where
  sub a b := ⟨a.re - b.re, a.eps - b.eps⟩

instance [Neg K] : Neg (Dual K) where
  neg a := ⟨-a.re, -a.eps⟩

/-- Product rule, with one rounding for the second product and the sum. -/
instance [Mul K] [FusedMulAdd K] : Mul (Dual K) where
  mul a b := ⟨a.re * b.re, FusedMulAdd.mulAdd a.re b.eps (a.eps * b.re)⟩

/-- Quotient rule, through the reciprocal of the divisor's value. -/
instance [One K] [Sub K] [Mul K] [Div K] : Div (Dual K) where
  div a b :=
    let inverse := 1 / b.re
    ⟨a.re * inverse,
      (a.eps * b.re - a.re * b.eps) * inverse * inverse⟩

/-- Chain rule for the elementary functions. -/
instance [One K] [Add K] [Neg K] [Mul K] [Div K] [Elementary K] :
    Elementary (Dual K) where
  sqrt a :=
    let root := Elementary.sqrt a.re
    ⟨root, a.eps / (two * root)⟩
  sin a := ⟨Elementary.sin a.re, a.eps * Elementary.cos a.re⟩
  cos a := ⟨Elementary.cos a.re, -a.eps * Elementary.sin a.re⟩

/-- Duals are ordered by their values alone. -/
def compare?
    [BEq K] [LT K] [DecidableLT K]
    (first second : Dual K) : Option Ordering :=
  compareNumbers? first.re second.re

/-- Whether both parts are finite. -/
def isFinite
    [Zero K] [Sub K] [BEq K]
    (number : Dual K) : Bool :=
  Linkage.isFinite number.re && Linkage.isFinite number.eps

section Parts

@[simp] theorem re_constant [Zero K] (value : K) :
    (Constant.constant value : Dual K).re = value := rfl

@[simp] theorem eps_constant [Zero K] (value : K) :
    (Constant.constant value : Dual K).eps = 0 := rfl

@[simp] theorem re_zero [Zero K] : (0 : Dual K).re = 0 := rfl

@[simp] theorem eps_zero [Zero K] : (0 : Dual K).eps = 0 := rfl

@[simp] theorem re_one [Zero K] [One K] : (1 : Dual K).re = 1 := rfl

@[simp] theorem eps_one [Zero K] [One K] : (1 : Dual K).eps = 0 := rfl

@[simp] theorem re_add [Add K] (a b : Dual K) :
    (a + b).re = a.re + b.re := rfl

@[simp] theorem eps_add [Add K] (a b : Dual K) :
    (a + b).eps = a.eps + b.eps := rfl

@[simp] theorem re_sub [Sub K] (a b : Dual K) :
    (a - b).re = a.re - b.re := rfl

@[simp] theorem eps_sub [Sub K] (a b : Dual K) :
    (a - b).eps = a.eps - b.eps := rfl

@[simp] theorem re_neg [Neg K] (a : Dual K) : (-a).re = -a.re := rfl

@[simp] theorem eps_neg [Neg K] (a : Dual K) : (-a).eps = -a.eps := rfl

@[simp] theorem re_mul [Mul K] [FusedMulAdd K] (a b : Dual K) :
    (a * b).re = a.re * b.re := rfl

@[simp] theorem eps_mul [Mul K] [FusedMulAdd K] (a b : Dual K) :
    (a * b).eps = FusedMulAdd.mulAdd a.re b.eps (a.eps * b.re) := rfl

end Parts

end Dual

end Linkage
