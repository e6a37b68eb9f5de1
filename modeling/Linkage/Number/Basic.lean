namespace Linkage

/-!
# Number types, their elementary functions and their order

Kinematics is computed over any type with the four operations and the
functions below.  Addition, subtraction, multiplication, division, negation,
zero and one come from the usual operator classes, so a field and a
floating-point type serve equally well.

Two number types meet in every computation: the *base* numbers, in which
mechanisms and constraints are described, and the *scalars* of a state, which
may carry derivatives.  `Constant` turns a base number into a scalar.

A floating-point type holds infinities and values that are not numbers.  Both
are recognised by arithmetic alone: only a finite number leaves zero when it is
subtracted from itself, and only a non-number differs from itself.  On a field
every value is finite and none is a non-number, so the same definitions read
correctly there.
-/

/-- Square root, sine and cosine of a number type. -/
class Elementary (T : Type) where
  /-- Square root. -/
  sqrt : T → T
  /-- Sine of an angle in radians. -/
  sin : T → T
  /-- Cosine of an angle in radians. -/
  cos : T → T

/-- A multiplication followed by an addition, rounded only once. -/
class FusedMulAdd (T : Type) where
  /-- The number nearest to `a * b + c`. -/
  mulAdd : T → T → T → T

/-- Base numbers of type `K` seen as constants of the scalar type `T`. -/
class Constant (K T : Type) where
  /-- The scalar with the given constant value. -/
  constant : K → T

/-- A base number is its own constant. -/
instance Constant.ofSelf {K : Type} : Constant K K where
  constant := id

/-- A constant of the base numbers themselves is the number given. -/
@[simp] theorem Constant.constant_self
    {K : Type}
    (value : K) :
    (Constant.constant value : K) = value :=
  rfl

/-- Two, as the sum of one and one. -/
def two
    {T : Type} [One T] [Add T] : T :=
  1 + 1

variable {K : Type}

/-- Whether a value is neither infinite nor a non-number. -/
def isFinite
    [Zero K] [Sub K] [BEq K]
    (value : K) : Bool :=
  value - value == 0

/-- Whether a value is a non-number. -/
def isNaN
    [BEq K]
    (value : K) : Bool :=
  !(value == value)

/-- Distance of a number from zero. -/
def magnitude
    [Zero K] [Neg K] [LT K] [DecidableLT K]
    (value : K) : K :=
  if value < 0 then -value else value

/-- The larger of two numbers, and a non-number when either is one. -/
def larger
    [BEq K] [LT K] [DecidableLT K]
    (first second : K) : K :=
  if isNaN first then
    first
  else if isNaN second then
    second
  else if first < second then
    second
  else
    first

/-- Whether a number is positive and finite. -/
def isPositiveFinite
    [Zero K] [Sub K] [BEq K] [LT K] [DecidableLT K]
    (value : K) : Bool :=
  isFinite value && decide (0 < value)

/--
Three-way comparison.  There is no answer when either value is a non-number.
-/
def compareNumbers?
    [BEq K] [LT K] [DecidableLT K]
    (first second : K) : Option Ordering :=
  if first < second then
    some .lt
  else if second < first then
    some .gt
  else if first == second then
    some .eq
  else
    none

end Linkage
