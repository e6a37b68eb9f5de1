import Mathlib.Algebra.Group.Nat.Defs
import Mathlib.Data.Nat.Log
import Linkage.Number.Binary64
import Linkage.Number.Basic

namespace Linkage.Binary64

/-!
# The range of double arithmetic

Whether a double operation overflows depends on exponents alone.  Rounding
moves the exponent to where the leading digit asks for it, and by one more when
the mantissa is rounded up to the next power of two; a result whose exponent is
beyond the largest becomes infinite.  That suffices to bound a double whose
square is finite, and to bound a quotient from below its divisor.
-/

open Float.Model
open Float.Model.UnpackedFloat

/-- Each digit dropped lowers the leading one. -/
theorem log2_div
    (mantissa count : Nat) :
    (mantissa / 2 ^ count).log2 = mantissa.log2 - count := by
  rw [Nat.log2_eq_log_two, Nat.log2_eq_log_two, Nat.log_div_base_pow]

/-- Adding one moves the leading digit by at most one. -/
theorem log2_succ_le (mantissa : Nat) :
    (mantissa + 1).log2 ≤ mantissa.log2 + 1 := by
  have below : mantissa < 2 ^ (mantissa.log2 + 1) := Nat.lt_log2_self
  have twice : 2 ^ (mantissa.log2 + 2) = 2 * 2 ^ (mantissa.log2 + 1) :=
    Nat.pow_succ'
  have bound : (mantissa + 1).log2 < mantissa.log2 + 2 :=
    (Nat.log2_lt (Nat.succ_ne_zero mantissa)).mpr (by omega)
  exact Nat.le_of_lt_succ bound

/-- Digits added at the end raise the leading one by as many. -/
theorem log2_shiftLeft_le
    (mantissa count : Nat) :
    (mantissa <<< count).log2 ≤ mantissa.log2 + count := by
  rcases Nat.eq_zero_or_pos mantissa with rfl | positive
  · simp
  · have below : mantissa < 2 ^ (mantissa.log2 + 1) := Nat.lt_log2_self
    have shifted :
        mantissa <<< count < 2 ^ (mantissa.log2 + count + 1) := by
      rw [Nat.shiftLeft_eq, Nat.add_right_comm, Nat.pow_add]
      exact Nat.mul_lt_mul_of_pos_right below (Nat.two_pow_pos count)
    have nonzero : mantissa <<< count ≠ 0 := by
      rw [Nat.shiftLeft_eq]
      exact (Nat.mul_pos positive (Nat.two_pow_pos count)).ne'
    exact Nat.le_of_lt_succ ((Nat.log2_lt nonzero).mpr shifted)

/-- A larger number has its leading digit no lower. -/
theorem log2_le_log2
    {smaller larger : Nat}
    (le : smaller ≤ larger) :
    smaller.log2 ≤ larger.log2 := by
  rw [Nat.log2_eq_log_two, Nat.log2_eq_log_two]
  exact Nat.log_mono_right le

/-- The leading digit of a product is where those of the factors put it. -/
theorem log2_square
    {mantissa : Nat}
    (positive : 0 < mantissa) :
    2 * mantissa.log2 ≤ (mantissa * mantissa).log2 := by
  have below := Nat.log2_self_le (Nat.ne_of_gt positive)
  have square : 2 ^ (2 * mantissa.log2) ≤ mantissa * mantissa := by
    rw [Nat.two_mul, Nat.pow_add]
    exact Nat.mul_le_mul below below
  exact (Nat.le_log2 (Nat.mul_pos positive positive).ne').mpr square

/-- Not all digits are dropped when the leading one stays. -/
theorem div_pos_of_le_log2
    {mantissa count : Nat}
    (positive : 0 < mantissa)
    (stays : count ≤ mantissa.log2) :
    0 < mantissa / 2 ^ count :=
  Nat.div_pos
    (Nat.le_trans (Nat.pow_le_pow_right Nat.two_pos stays)
      (Nat.log2_self_le (Nat.ne_of_gt positive)))
    (Nat.two_pow_pos count)

/-- A double has 53 digits, and fewer below the least exponent. -/
theorem targetExponent_eq (total : Int) :
    Format.binary64.targetExponent total = max (total - 53) (-1074) :=
  rfl

/-- A shift to the right divides by a power of two. -/
theorem mantissa_shiftRight
    (extended : ExtendedMantissa)
    (count : Nat) :
    (extended >>> count).mantissa = extended.mantissa / 2 ^ count := by
  induction count with
  | zero =>
      simp [HShiftRight.hShiftRight, Nat.repeat]
  | succ count inductionHypothesis =>
      change (extended >>> count).mantissa / 2 = _
      rw [inductionHypothesis, Nat.div_div_eq_div_mul, Nat.pow_succ]

/-- Rounding adds at most one. -/
theorem roundedMantissa_bounds
    (extended : ExtendedMantissa) :
    extended.mantissa ≤ extended.roundedMantissa ∧
      extended.roundedMantissa ≤ extended.mantissa + 1 := by
  obtain ⟨mantissa, roundBit, stickyBit⟩ := extended
  cases roundBit <;>
    cases stickyBit <;>
      simp [ExtendedMantissa.roundedMantissa, ExtendedMantissa.accuracy,
        Accuracy.roundToNearestEven]
  omega

/-- A shift drops as many digits as it raises the exponent. -/
theorem shiftToTargetExponent_eq
    (mantissa : Nat)
    (exponent : Int)
    (accuracy : Accuracy) :
    ∃ count : Nat,
      (count : Int) =
          max 0 (max (mantissa.log2 + exponent - 52) (-1074) - exponent) ∧
        (shiftToTargetExponent Format.binary64
            mantissa exponent accuracy).1.mantissa =
          mantissa / 2 ^ count ∧
        (shiftToTargetExponent Format.binary64
            mantissa exponent accuracy).2 =
          exponent + count := by
  refine
    ⟨(Format.binary64.targetExponent
        (totalExponent mantissa exponent) - exponent).toNat, ?_, ?_, rfl⟩
  · rw [targetExponent_eq, totalExponent]
    omega
  · have start :
        (ExtendedMantissa.ofMantissaAndAccuracy
          mantissa accuracy).mantissa = mantissa := by
      cases accuracy with
      | exact => rfl
      | inexact order => cases order <;> rfl
    simp only [shiftToTargetExponent, shiftToExponent]
    rw [mantissa_shiftRight, start]

/-- The digits that rounding leaves as a value, a zero if none are left. -/
def ofDigits
    (sign : Sign)
    (digits : Nat)
    (exponent : Int) : UnpackedFloat :=
  if isZero : digits = 0 then
    .zero sign
  else
    .finite sign digits exponent (Nat.pos_of_ne_zero isZero)

/--
Rounding drops digits, adds at most one to what is left, and drops a digit more
if there is one too many now.
-/
theorem roundWithAccuracy_eq
    (sign : Sign)
    (mantissa : Nat)
    (exponent : Int)
    (accuracy : Accuracy) :
    ∃ first rounded second : Nat,
      (first : Int) =
          max 0 (max (mantissa.log2 + exponent - 52) (-1074) - exponent) ∧
        mantissa / 2 ^ first ≤ rounded ∧
        rounded ≤ mantissa / 2 ^ first + 1 ∧
        (second : Int) =
          max 0
            (max (rounded.log2 + (exponent + first) - 52) (-1074) -
              (exponent + first)) ∧
        roundWithAccuracy Format.binary64
            sign mantissa exponent accuracy =
          ofDigits sign (rounded / 2 ^ second)
            (exponent + first + second) := by
  obtain ⟨first, firstCount, firstMantissa, firstExponent⟩ :=
    shiftToTargetExponent_eq mantissa exponent accuracy
  have rounding :=
    roundedMantissa_bounds
      (shiftToTargetExponent Format.binary64 mantissa exponent accuracy).1
  rw [firstMantissa] at rounding
  obtain ⟨second, secondCount, secondMantissa, secondExponent⟩ :=
    shiftToTargetExponent_eq
      (shiftToTargetExponent Format.binary64
        mantissa exponent accuracy).1.roundedMantissa
      (exponent + first) .exact
  refine
    ⟨first, _, second, firstCount, rounding.1, rounding.2, secondCount, ?_⟩
  rw [← secondMantissa, ← secondExponent, ← firstExponent]
  rfl

/-- Values that are finite when they are packed into a double. -/
def InRange : UnpackedFloat → Prop
  | .notANumber => False
  | .infinity _ => False
  | .zero _ => True
  | .finite _ _ exponent _ => exponent ≤ 971

/-- Digits with a low exponent are in range. -/
theorem inRange_ofDigits
    {exponent : Int}
    (low : exponent ≤ 971)
    (sign : Sign)
    (digits : Nat) :
    InRange (ofDigits sign digits exponent) := by
  by_cases isZero : digits = 0
  · rw [ofDigits, dif_pos isZero]
    trivial
  · rw [ofDigits, dif_neg isZero]
    exact low

/-- A number with its leading digit low enough is rounded in range. -/
theorem inRange_round
    {mantissa : Nat}
    {exponent : Int}
    (low : exponent ≤ 971)
    (short : mantissa.log2 + exponent ≤ 1022)
    (sign : Sign)
    (accuracy : Accuracy) :
    InRange
      (roundWithAccuracy Format.binary64
        sign mantissa exponent accuracy) := by
  obtain ⟨first, rounded, second, firstCount, _, above, secondCount,
      value⟩ :=
    roundWithAccuracy_eq sign mantissa exponent accuracy
  have digits : rounded.log2 ≤ mantissa.log2 - first + 1 := by
    have carried := log2_le_log2 above
    have one := log2_succ_le (mantissa / 2 ^ first)
    rw [log2_div] at one
    omega
  rw [value]
  exact inRange_ofDigits (by omega) _ _

/-- A number with its leading digit in the normal range does not vanish. -/
theorem round_normal
    {mantissa : Nat}
    (positive : 0 < mantissa)
    (exponent : Int)
    (normal : -1022 ≤ mantissa.log2 + exponent)
    (sign : Sign)
    (accuracy : Accuracy) :
    ∃ result resultExponent, ∃ resultPositive : 0 < result,
      roundWithAccuracy Format.binary64 sign mantissa exponent accuracy =
          .finite sign result resultExponent resultPositive ∧
        mantissa.log2 + exponent - 52 ≤ resultExponent := by
  obtain ⟨first, rounded, second, firstCount, below, _, secondCount,
      value⟩ :=
    roundWithAccuracy_eq sign mantissa exponent accuracy
  have kept : 0 < mantissa / 2 ^ first :=
    div_pos_of_le_log2 positive (by omega)
  have roundedPositive : 0 < rounded := Nat.lt_of_lt_of_le kept below
  have resultPositive : 0 < rounded / 2 ^ second :=
    div_pos_of_le_log2 roundedPositive (by omega)
  rw [ofDigits, dif_neg resultPositive.ne'] at value
  exact ⟨_, _, resultPositive, value, by omega⟩

/-- The leading digit stands before the 52 that are stored. -/
theorem toNat_leading (mantissa : BitVec 52) :
    (1#1 ++ mantissa).toNat = 2 ^ 52 + mantissa.toNat := by
  rw [BitVec.toNat_append, ← Nat.shiftLeft_add_eq_or_of_lt mantissa.isLt]
  rfl

theorem log2_leading (mantissa : BitVec 52) :
    (1#1 ++ mantissa).toNat.log2 = 52 := by
  have fraction : mantissa.toNat < 2 ^ 52 := mantissa.isLt
  rw [toNat_leading]
  exact (Nat.log2_eq_iff (by omega)).mpr ⟨by omega, by omega⟩

/-- The value of a double with a given sign, exponent and mantissa. -/
inductive StandsFor
    (sign : Sign)
    (exponent : BitVec 11)
    (mantissa : BitVec 52) : UnpackedFloat → Prop where
  | infinity
      (special : exponent = -1#11)
      (noDigits : mantissa = 0#52) :
      StandsFor sign exponent mantissa (.infinity sign)
  | notANumber
      (special : exponent = -1#11)
      (digits : mantissa ≠ 0#52) :
      StandsFor sign exponent mantissa .notANumber
  | zero
      (least : exponent = 0#11)
      (noDigits : mantissa = 0#52) :
      StandsFor sign exponent mantissa (.zero sign)
  | subnormal
      (least : exponent = 0#11)
      (positive : 0 < mantissa.toNat) :
      StandsFor sign exponent mantissa
        (.finite sign mantissa.toNat (-1074) positive)
  | normal
      (notSpecial : exponent ≠ -1#11)
      (notLeast : exponent ≠ 0#11)
      (positive : 0 < (1#1 ++ mantissa).toNat) :
      StandsFor sign exponent mantissa
        (.finite sign (1#1 ++ mantissa).toNat
          (exponent.toNat - 1075) positive)

/-- A double is read as the value that its parts stand for. -/
theorem standsFor_unpack
    (bits : BitVec Format.binary64.numBits) :
    StandsFor (Sign.ofBitVec (unpackSign bits))
      (@unpackExponent Format.binary64 bits)
      (@unpackMantissa Format.binary64 bits)
      (UnpackedFloat.unpack Format.binary64 bits) := by
  delta UnpackedFloat.unpack
  dsimp only
  by_cases special : @unpackExponent Format.binary64 bits = -1#_
  · rw [if_pos special]
    by_cases noDigits : @unpackMantissa Format.binary64 bits = 0#_
    · rw [if_pos noDigits]
      exact .infinity special noDigits
    · rw [if_neg noDigits]
      exact .notANumber special noDigits
  · rw [if_neg special]
    by_cases least : @unpackExponent Format.binary64 bits = 0#_
    · rw [if_pos least]
      by_cases noDigits : @unpackMantissa Format.binary64 bits = 0#_
      · rw [dif_pos noDigits]
        exact .zero least noDigits
      · rw [dif_neg noDigits]
        have positive :
            0 < (@unpackMantissa Format.binary64 bits).toNat :=
          Nat.pos_of_ne_zero fun isZero =>
            noDigits (BitVec.eq_of_toNat_eq isZero)
        have exponent :
            ((@unpackExponent Format.binary64 bits).toNat : Int) -
                (Format.binary64.exponentBias +
                  Format.binary64.mantissaBitsWithoutImplicit) + 1 =
              -1074 := by
          rw [least]
          rfl
        rw [exponent]
        exact .subnormal least positive
    · rw [if_neg least]
      exact .normal special least _

/-- Parts stand for one value only. -/
theorem StandsFor.unique
    {sign : Sign}
    {exponent : BitVec 11}
    {mantissa : BitVec 52}
    {value other : UnpackedFloat}
    (standsFor : StandsFor sign exponent mantissa value)
    (otherwise : StandsFor sign exponent mantissa other) :
    value = other := by
  -- Values of two kinds need two exponents, or digits and none.
  cases standsFor <;> cases otherwise <;> first | rfl | exfalso; simp_all

/-- The exponents of infinities and non-numbers have all bits set. -/
theorem StandsFor.isFinite_iff
    {sign : Sign}
    {exponent : BitVec 11}
    {mantissa : BitVec 52}
    {value : UnpackedFloat}
    (standsFor : StandsFor sign exponent mantissa value) :
    value.isFinite = true ↔ exponent ≠ 2047#11 := by
  cases standsFor with
  | infinity special =>
      exact iff_of_false nofun fun ordinary => ordinary special
  | notANumber special =>
      exact iff_of_false nofun fun ordinary => ordinary special
  | zero least =>
      exact iff_of_true rfl (by rw [least]; decide)
  | subnormal least =>
      exact iff_of_true rfl (by rw [least]; decide)
  | normal notSpecial =>
      exact iff_of_true rfl notSpecial

/-- How a value is stored is told by its exponent and its leading digit. -/
theorem pack_finite
    (sign : Sign)
    (mantissa : Nat)
    (exponent : Int)
    (positive : 0 < mantissa) :
    UnpackedFloat.pack Format.binary64
        (.finite sign mantissa exponent positive) =
      if 2 ^ 11 ≤ (exponent + 1023 + 52).toNat + 1 then
        packedInfinity Format.binary64 sign
      else if mantissa.log2 + 1 = 53 then
        packComponents Format.binary64 sign
          (BitVec.ofNat _ (exponent + 1023 + 52).toNat)
          (BitVec.ofNat _ mantissa)
      else
        packComponents Format.binary64 sign 0#_ (BitVec.ofNat _ mantissa) :=
  rfl

/-- Packing keeps a value finite exactly when it is in range. -/
theorem isFinite_pack (value : UnpackedFloat) :
    (Float.Model.pack value).isFinite = true ↔ InRange value := by
  change (UnpackedFloat.unpack Format.binary64
    (UnpackedFloat.pack Format.binary64 value)).isFinite = true ↔ _
  rw [(standsFor_unpack _).isFinite_iff]
  cases value with
  | notANumber =>
      exact iff_of_false (fun ordinary => ordinary rfl) id
  | infinity sign =>
      exact iff_of_false
        (fun ordinary => ordinary unpackExponent_packComponents) id
  | zero sign =>
      refine iff_of_true (fun special => ?_) trivial
      have stored := unpackExponent_packComponents.symm.trans special
      contradiction
  | finite sign mantissa exponent positive =>
      change _ ↔ exponent ≤ 971
      rw [pack_finite]
      split
      · rename_i overflow
        have outside : ¬ exponent ≤ 971 := by omega
        simp [packedInfinity, outside]
      · rename_i fits
        have inside : exponent ≤ 971 := by omega
        split
        · simp only [unpackExponent_packComponents]
          refine iff_of_true ?_ inside
          intro allOnes
          have stored := congrArg BitVec.toNat allOnes
          simp only [BitVec.toNat_ofNat] at stored
          omega
        · simp [inside]

/-- The value that a double stands for. -/
def valueOf (number : Float) : UnpackedFloat :=
  number.toModel.unpack

/-- Only a finite double leaves zero when it is subtracted from itself. -/
theorem isFinite_eq (number : Float) :
    isFinite number = number.isFinite := by
  change
    (Float.Model.pack
        (UnpackedFloat.sub Format.binary64
          (valueOf number) (valueOf number))).unpack.beq (valueOf 0) =
      (valueOf number).isFinite
  cases valueOf number with
  | notANumber =>
      rfl
  | infinity sign =>
      cases sign <;> rfl
  | zero sign =>
      cases sign <;> rfl
  | finite sign mantissa exponent positive =>
      have cancels :
          UnpackedFloat.sub Format.binary64
              (.finite sign mantissa exponent positive)
              (.finite sign mantissa exponent positive) =
            .zero .positive := by
        let digits : Int :=
          sign.apply
            (decreaseExponent mantissa exponent (min exponent exponent)).1
        change
          UnpackedFloat.normalize Format.binary64 (digits - digits)
            (min exponent exponent) .positive = _
        rw [Int.sub_self]
        rfl
      rw [cancels]
      rfl

/-- A finite double has 53 digits, unless it has the least exponent. -/
theorem shape_of_finite
    {number : Float}
    {sign : Sign}
    {mantissa : Nat}
    {exponent : Int}
    {positive : 0 < mantissa}
    (value :
      valueOf number = .finite sign mantissa exponent positive) :
    mantissa.log2 ≤ 52 ∧ (mantissa.log2 = 52 ∨ exponent = -1074) := by
  have standsFor :=
    standsFor_unpack number.toModel.toBits.toBitVec
  change StandsFor _ _ _ (valueOf number) at standsFor
  rw [value] at standsFor
  cases standsFor with
  | subnormal =>
      have short := (Nat.log2_lt positive.ne').mpr (BitVec.isLt _)
      exact ⟨Nat.le_of_lt short, .inr rfl⟩
  | normal =>
      exact ⟨Nat.le_of_eq (log2_leading _), .inl (log2_leading _)⟩

/-- A sum is finite only if its terms are. -/
theorem isFinite_of_add
    {first second : Float}
    (finite : (first + second).isFinite = true) :
    first.isFinite = true ∧ second.isFinite = true := by
  have inRange :
      InRange
        (UnpackedFloat.add Format.binary64
          (valueOf first) (valueOf second)) :=
    (isFinite_pack _).mp finite
  change (valueOf first).isFinite = true ∧ (valueOf second).isFinite = true
  cases firstValue : valueOf first with
  | notANumber =>
      rw [firstValue] at inRange
      exact inRange.elim
  | infinity sign =>
      rw [firstValue] at inRange
      cases secondValue : valueOf second with
      | infinity other =>
          rw [secondValue] at inRange
          change InRange
            (if sign == other then .infinity sign else .notANumber)
            at inRange
          split at inRange <;> exact inRange.elim
      | _ =>
          rw [secondValue] at inRange
          exact inRange.elim
  | _ =>
      rw [firstValue] at inRange
      cases secondValue : valueOf second with
      | notANumber =>
          rw [secondValue] at inRange
          exact inRange.elim
      | infinity sign =>
          rw [secondValue] at inRange
          exact inRange.elim
      | _ =>
          exact ⟨rfl, rfl⟩

/-- A root is finite only if its radicand is. -/
theorem isFinite_of_sqrt
    {radicand : Float}
    (finite : radicand.sqrt.isFinite = true) :
    radicand.isFinite = true := by
  have inRange :
      InRange (UnpackedFloat.sqrt Format.binary64 (valueOf radicand)) :=
    (isFinite_pack _).mp finite
  change (valueOf radicand).isFinite = true
  cases value : valueOf radicand with
  | notANumber =>
      rw [value] at inRange
      exact inRange.elim
  | infinity sign =>
      rw [value] at inRange
      cases sign <;> exact inRange.elim
  | _ =>
      rfl

/-- Values whose square is in range. -/
def HasSquare : UnpackedFloat → Prop
  | .notANumber => False
  | .infinity _ => False
  | .zero _ => True
  | .finite _ mantissa exponent _ => mantissa.log2 ≤ 52 ∧ exponent < 500

/-- A number with a finite square is far from the largest. -/
theorem hasSquare_of_isFinite
    {number : Float}
    (finite : (number * number).isFinite = true) :
    HasSquare (valueOf number) := by
  have inRange :
      InRange
        (UnpackedFloat.mul Format.binary64
          (valueOf number) (valueOf number)) :=
    (isFinite_pack _).mp finite
  cases value : valueOf number with
  | notANumber =>
      rw [value] at inRange
      exact inRange.elim
  | infinity sign =>
      rw [value] at inRange
      exact inRange.elim
  | zero sign =>
      trivial
  | finite sign mantissa exponent positive =>
      obtain ⟨digits, normal⟩ := shape_of_finite value
      refine ⟨digits, ?_⟩
      by_contra large
      have squareDigits := log2_square positive
      obtain ⟨result, resultExponent, resultPositive, rounds, bound⟩ :=
        round_normal (Nat.mul_pos positive positive)
          (exponent + exponent) (by omega) (sign * sign) .exact
      rw [value] at inRange
      change InRange
        (roundWithAccuracy Format.binary64 (sign * sign)
          (mantissa * mantissa) (exponent + exponent) .exact) at inRange
      rw [rounds] at inRange
      have small : resultExponent ≤ 971 := inRange
      omega

/-- A quotient is rounded from digits that start no higher. -/
theorem div_eq_round
    (sign divisorSign : Sign)
    {dividend divisor : Nat}
    (positive : 0 < dividend)
    (divisorPositive : 0 < divisor)
    (exponent divisorExponent : Int) :
    ∃ quotient quotientExponent accuracy,
      UnpackedFloat.div Format.binary64
          (.finite sign dividend exponent positive)
          (.finite divisorSign divisor divisorExponent divisorPositive) =
          roundWithAccuracy Format.binary64 (sign / divisorSign)
            quotient quotientExponent accuracy ∧
        quotientExponent ≤ exponent - divisorExponent ∧
        quotient.log2 + quotientExponent ≤
          dividend.log2 + (exponent - divisorExponent) := by
  refine ⟨_, _, _, rfl, Int.min_le_left _ _, ?_⟩
  generalize Format.binary64.targetExponent _ = wanted
  have divided :=
    log2_le_log2
      (Nat.div_le_self
        (dividend <<<
          (exponent - divisorExponent -
            min (exponent - divisorExponent) wanted).toNat)
        divisor)
  have shifted :=
    log2_shiftLeft_le dividend
      (exponent - divisorExponent -
        min (exponent - divisorExponent) wanted).toNat
  omega

/-- The least divisor that is not tiny. -/
theorem valueOf_tiny :
    ∃ mantissa positive,
      valueOf 1e-12 = .finite .positive mantissa (-92) positive :=
  ⟨_, _, rfl⟩

/-- What is finite and not tiny has no lower exponent. -/
theorem exponent_of_notTiny
    {number : Float}
    (finite : number.isFinite = true)
    (notTiny : (1e-12 : Float) < number) :
    ∃ mantissa exponent positive,
      valueOf number = .finite .positive mantissa exponent positive ∧
        -92 ≤ exponent := by
  have less : (valueOf 1e-12).lt (valueOf number) = true :=
    of_decide_eq_true notTiny
  have isFinite : (valueOf number).isFinite = true := finite
  obtain ⟨tiny, tinyPositive, tinyValue⟩ := valueOf_tiny
  rw [tinyValue] at less
  cases value : valueOf number with
  | notANumber =>
      rw [value] at isFinite
      cases isFinite
  | infinity sign =>
      rw [value] at isFinite
      cases isFinite
  | zero sign =>
      rw [value] at less
      cases less
  | finite sign mantissa exponent positive =>
      rw [value] at less
      cases sign with
      | negative =>
          cases less
      | positive =>
          refine ⟨mantissa, exponent, positive, rfl, ?_⟩
          by_contra lower
          have greater : compare (-92 : Int) exponent = .gt :=
            Int.compare_eq_gt.mpr (by omega)
          change (some ((compare (-92 : Int) exponent).then _) ==
            some Ordering.lt) = true at less
          rw [greater] at less
          cases less

/--
What has a finite square can be divided by any finite number that is not tiny.
-/
theorem isFinite_div
    {dividend divisor : Float}
    (square : HasSquare (valueOf dividend))
    (finite : divisor.isFinite = true)
    (notTiny : (1e-12 : Float) < divisor) :
    (dividend / divisor).isFinite = true := by
  obtain
      ⟨divisorMantissa, divisorExponent, divisorPositive, divisorValue,
        notLower⟩ :=
    exponent_of_notTiny finite notTiny
  refine (isFinite_pack _).mpr ?_
  change InRange
    (UnpackedFloat.div Format.binary64
      (valueOf dividend) (valueOf divisor))
  rw [divisorValue]
  cases value : valueOf dividend with
  | notANumber =>
      rw [value] at square
      exact square.elim
  | infinity sign =>
      rw [value] at square
      exact square.elim
  | zero sign =>
      trivial
  | finite sign mantissa exponent positive =>
      rw [value] at square
      obtain ⟨digits, small⟩ := square
      obtain ⟨quotient, quotientExponent, accuracy, rounds, low, short⟩ :=
        div_eq_round sign .positive positive divisorPositive
          exponent divisorExponent
      rw [rounds]
      exact inRange_round (by omega) (by omega) _ _

end Linkage.Binary64
