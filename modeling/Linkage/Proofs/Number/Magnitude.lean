import Linkage.Proofs.Number.Comparison

namespace Linkage.Binary64

/-!
# Magnitudes of doubles

A double is stored as a sign, an exponent and a mantissa, and leaving out the
sign leaves a double.  The distance from zero that a comparison with zero finds
is that double, except that a zero keeps its sign; a search that starts at zero
does not tell the difference.

Magnitudes are the same as soon as neither is below the other, so it does not
matter in which order they are searched.
-/

open Float.Model
open Float.Model.UnpackedFloat

/-- A double is put together again from its sign, exponent and mantissa. -/
theorem components_eq (bits : BitVec Format.binary64.numBits) :
    packComponents Format.binary64 (Sign.ofBitVec (unpackSign bits))
        (unpackExponent bits) (unpackMantissa bits) =
      bits := by
  have sign : ∀ bit : BitVec 1, (Sign.ofBitVec bit).toBitVec = bit := by
    decide
  change
    (Sign.ofBitVec (bits.extractLsb' 63 1)).toBitVec ++
        bits.extractLsb' 52 11 ++ bits.extractLsb' 0 52 =
      bits
  have front :
      bits.extractLsb' 63 1 ++ bits.extractLsb' 52 11 =
        bits.extractLsb' 52 12 :=
    BitVec.extractLsb'_append_extractLsb'_eq_extractLsb' (by decide)
  have whole :
      bits.extractLsb' 52 12 ++ bits.extractLsb' 0 52 =
        bits.extractLsb' 0 64 :=
    BitVec.extractLsb'_append_extractLsb'_eq_extractLsb' (by decide)
  rw [sign, front, whole]
  exact BitVec.extractLsb'_eq_self

/-- The sign stands in front of the exponent. -/
theorem sign_packComponents
    (sign : Sign)
    (exponent : BitVec Format.binary64.exponentBits)
    (mantissa : BitVec Format.binary64.mantissaBitsWithoutImplicit) :
    Sign.ofBitVec
        (unpackSign
          (packComponents Format.binary64 sign exponent mantissa)) =
      sign := by
  change Sign.ofBitVec
    ((sign.toBitVec ++ exponent ++ mantissa).extractLsb' 63 1) = sign
  rw [BitVec.extractLsb'_append_eq_of_le (by decide),
    BitVec.extractLsb'_append_eq_of_le (by decide)]
  cases sign <;> rfl

/-- The least exponent is stored as zero, and all digits with it. -/
theorem pack_subnormal
    (sign : Sign)
    (mantissa : BitVec 52)
    (positive : 0 < mantissa.toNat) :
    UnpackedFloat.pack Format.binary64
        (.finite sign mantissa.toNat (-1074) positive) =
      packComponents Format.binary64 sign 0#11 mantissa := by
  have short : mantissa.toNat.log2 < 52 :=
    (Nat.log2_lt positive.ne').mpr mantissa.isLt
  have notNormal : ¬ mantissa.toNat.log2 + 1 = 53 := by
    omega
  rw [pack_finite, if_neg (by decide), if_neg notNormal,
    BitVec.ofNat_toNat, BitVec.setWidth_eq]

/-- The leading digit of a number with any other exponent is not stored. -/
theorem pack_normal
    (sign : Sign)
    {exponent : BitVec 11}
    (mantissa : BitVec 52)
    (notSpecial : exponent ≠ -1#11)
    (positive : 0 < (1#1 ++ mantissa).toNat) :
    UnpackedFloat.pack Format.binary64
        (.finite sign (1#1 ++ mantissa).toNat
          (exponent.toNat - 1075) positive) =
      packComponents Format.binary64 sign exponent mantissa := by
  have stored :
      ((exponent.toNat : Int) - 1075 + 1023 + 52).toNat =
        exponent.toNat := by
    omega
  have fits : ¬ 2 ^ 11 ≤ exponent.toNat + 1 := by
    have bound : exponent.toNat < 2 ^ 11 := exponent.isLt
    have notLast : exponent.toNat ≠ 2 ^ 11 - 1 := fun last =>
      notSpecial (BitVec.eq_of_toNat_eq last)
    omega
  have digits : (1#1 ++ mantissa).toNat.log2 + 1 = 53 := by
    rw [log2_leading]
  have fraction : BitVec.ofNat 52 (1#1 ++ mantissa).toNat = mantissa := by
    refine BitVec.eq_of_toNat_eq ?_
    rw [BitVec.toNat_ofNat, toNat_leading]
    exact (Nat.add_mod_left _ _).trans (Nat.mod_eq_of_lt mantissa.isLt)
  rw [pack_finite, stored, if_neg fits, if_pos digits, fraction,
    BitVec.ofNat_toNat, BitVec.setWidth_eq]

/--
A value is stored as the parts that stand for it, provided that only one pattern
of bits is no number.
-/
theorem StandsFor.pack_eq
    {sign : Sign}
    {exponent : BitVec 11}
    {mantissa : BitVec 52}
    {value : UnpackedFloat}
    (standsFor : StandsFor sign exponent mantissa value)
    (onlyOne :
      exponent = -1#11 → mantissa ≠ 0#52 →
        packComponents Format.binary64 sign exponent mantissa =
          packedNaN Format.binary64) :
    UnpackedFloat.pack Format.binary64 value =
      packComponents Format.binary64 sign exponent mantissa := by
  cases standsFor with
  | infinity special noDigits =>
      rw [special, noDigits]
      rfl
  | notANumber special digits =>
      exact (onlyOne special digits).symm
  | zero least noDigits =>
      rw [least, noDigits]
      rfl
  | subnormal least positive =>
      rw [least]
      exact pack_subnormal sign mantissa positive
  | normal notSpecial _ positive =>
      exact pack_normal sign mantissa notSpecial positive

/-- Nothing is lost when a double is read. -/
theorem pack_unpack
    {bits : BitVec Format.binary64.numBits}
    (valid : Format.binary64.Valid bits) :
    UnpackedFloat.pack Format.binary64
        (UnpackedFloat.unpack Format.binary64 bits) =
      bits := by
  have packed :=
    (standsFor_unpack bits).pack_eq fun special digits =>
      (components_eq bits).trans (valid.eq_packedNaN special digits)
  exact packed.trans (components_eq bits)

/-- A double is what its value is packed into. -/
theorem pack_valueOf (number : Float) :
    Float.ofModel (Float.Model.pack (valueOf number)) = number := by
  obtain ⟨⟨bits, valid⟩⟩ := number
  have sameBits :
      UInt64.ofBitVec
          (UnpackedFloat.pack Format.binary64
            (UnpackedFloat.unpack Format.binary64 bits.toBitVec)) =
        bits :=
    congrArg UInt64.ofBitVec (pack_unpack valid)
  exact congrArg Float.ofModel ((Float.Model.mk.injEq ..).mpr sameBits)

/-- Doubles of one value are the same. -/
theorem eq_of_valueOf_eq
    {first second : Float}
    (same : valueOf first = valueOf second) :
    first = second := by
  rw [← pack_valueOf first, same, pack_valueOf]

/-- Without the sign the parts stand for the value without the sign. -/
theorem StandsFor.abs
    {sign : Sign}
    {exponent : BitVec 11}
    {mantissa : BitVec 52}
    {value : UnpackedFloat}
    (standsFor : StandsFor sign exponent mantissa value) :
    StandsFor .positive exponent mantissa value.abs := by
  cases standsFor with
  | infinity special noDigits => exact .infinity special noDigits
  | notANumber special digits => exact .notANumber special digits
  | zero least noDigits => exact .zero least noDigits
  | subnormal least positive => exact .subnormal least positive
  | normal notSpecial notLeast positive =>
      exact .normal notSpecial notLeast positive

/-- Each value of a double, without its sign, is the value of a double. -/
theorem exists_valueOf_abs (number : Float) :
    ∃ unsigned, valueOf unsigned = (valueOf number).abs := by
  by_cases notNumber : valueOf number = .notANumber
  · exact ⟨number, by rw [notNumber]; rfl⟩
  · obtain ⟨⟨bits, valid⟩⟩ := number
    let unsigned :=
      packComponents Format.binary64 .positive
        (unpackExponent bits.toBitVec) (unpackMantissa bits.toBitVec)
    have value :
        UnpackedFloat.unpack Format.binary64 unsigned =
          (UnpackedFloat.unpack Format.binary64 bits.toBitVec).abs := by
      have standsFor := standsFor_unpack unsigned
      rw [sign_packComponents, unpackExponent_packComponents,
        unpackMantissa_packComponents] at standsFor
      exact standsFor.unique (standsFor_unpack bits.toBitVec).abs
    have unsignedValid : Format.binary64.Valid unsigned := by
      refine ⟨fun special digits => absurd ?_ notNumber⟩
      rw [unpackExponent_packComponents] at special
      rw [unpackMantissa_packComponents] at digits
      exact
        (standsFor_unpack bits.toBitVec).unique
          (.notANumber special digits)
    exact ⟨⟨⟨UInt64.ofBitVec unsigned, unsignedValid⟩⟩, value⟩

/-- Without its sign a number has its value without the sign. -/
theorem valueOf_abs (number : Float) :
    valueOf number.abs = (valueOf number).abs := by
  obtain ⟨unsigned, value⟩ := exists_valueOf_abs number
  have same : number.abs = unsigned := by
    rw [← pack_valueOf unsigned, value]
    rfl
  rw [same, value]

/-- Only a value below zero or a zero is changed by leaving out its sign. -/
theorem sign_cases (value : UnpackedFloat) :
    value.lt (.zero .positive) = true ∧ value.neg = value.abs ∨
      value.lt (.zero .positive) = false ∧
        (value.abs = value ∨ value = .zero .negative) := by
  rcases value with ⟨⟨⟩⟩ | _ | ⟨⟨⟩⟩ | ⟨⟨⟩, mantissa, exponent, positive⟩
  all_goals first
    | exact .inl ⟨rfl, rfl⟩
    | exact .inr ⟨rfl, .inl rfl⟩
    | exact .inr ⟨rfl, .inr rfl⟩

/-- A value without sign is no number, or zero, or above zero. -/
theorem unsigned_cases (value : UnpackedFloat) :
    value.abs = .notANumber ∨
      value.abs = .zero .positive ∨
        (zero .positive).lt value.abs = true := by
  rcases value with _ | _ | _ | ⟨_, mantissa, exponent, positive⟩
  all_goals first
    | exact .inl rfl
    | exact .inr (.inl rfl)
    | exact .inr (.inr rfl)

/-- Positive numbers that stand at one place have the same digits. -/
theorem finite_eq_of_rank_eq
    {mantissa otherMantissa : ℕ}
    {exponent otherExponent : ℤ}
    {positive : 0 < mantissa}
    {otherPositive : 0 < otherMantissa}
    (same :
      rank (.finite .positive mantissa exponent positive) =
        rank (.finite .positive otherMantissa otherExponent
          otherPositive)) :
    UnpackedFloat.finite .positive mantissa exponent positive =
      .finite .positive otherMantissa otherExponent otherPositive := by
  obtain ⟨_, inner⟩ := Prod.mk.inj (toLex.injective same)
  obtain ⟨rfl, digits⟩ := Prod.mk.inj (toLex.injective inner)
  obtain rfl := Int.ofNat.inj digits
  rfl

/-- Values without sign that stand at one place are the same. -/
theorem unsigned_eq_of_rank_eq
    {value other : UnpackedFloat}
    (number : value.abs ≠ .notANumber)
    (otherNumber : other.abs ≠ .notANumber)
    (same : rank value.abs = rank other.abs) :
    value.abs = other.abs := by
  have kinds : (ofLex (rank value.abs)).1 = (ofLex (rank other.abs)).1 := by
    rw [same]
  rcases value with _ | _ | _ | ⟨_, mantissa, exponent, _⟩
  all_goals
    rcases other with _ | _ | _ | ⟨_, otherMantissa, otherExponent, _⟩
  all_goals first
    | exact absurd rfl number
    | exact absurd rfl otherNumber
    | rfl
    | exact finite_eq_of_rank_eq same
    | cases kinds

/-- Only the value that is no number differs from itself. -/
theorem isNaN_iff
    {number : Float} :
    isNaN number = true ↔ valueOf number = .notANumber := by
  rw [← Bool.not_eq_false, isNaN_eq_false_iff, not_not]

/-- What differs from itself is what is not a number. -/
theorem isNaN_eq (number : Float) :
    isNaN number = number.isNaN := by
  have meaning : number.isNaN = (valueOf number).isNaN := rfl
  rw [meaning, Bool.eq_iff_iff, isNaN_iff]
  cases valueOf number with
  | notANumber => exact iff_of_true rfl rfl
  | _ => exact iff_of_false nofun nofun

/-- Leaving out the sign makes nothing a number that was none. -/
theorem isNaN_abs (number : Float) :
    number.abs.isNaN = number.isNaN := by
  rw [← isNaN_eq, ← isNaN_eq, Bool.eq_iff_iff, isNaN_iff, isNaN_iff,
    valueOf_abs]
  cases valueOf number with
  | notANumber => exact iff_of_true rfl rfl
  | _ => exact iff_of_false nofun nofun

theorem lt_iff_value
    {first second : Float} :
    first < second ↔ (valueOf first).lt (valueOf second) = true :=
  decide_eq_true_iff

/-- A magnitude is the number without its sign, unless it is a zero. -/
theorem magnitude_eq_or (number : Float) :
    magnitude number = number.abs ∨ number = -0 := by
  rw [magnitude]
  rcases sign_cases (valueOf number) with
    ⟨negative, opposite⟩ | ⟨notNegative, same | negativeZero⟩
  · rw [if_pos (lt_iff_value.mpr negative)]
    exact
      .inl
        (congrArg (fun value => Float.ofModel (Float.Model.pack value))
          opposite)
  · have unsigned : number.abs = number :=
      eq_of_valueOf_eq ((valueOf_abs number).trans same)
    have notBelow : ¬ number < 0 := fun below =>
      Bool.false_ne_true (notNegative.symm.trans (lt_iff_value.mp below))
    rw [if_neg notBelow, unsigned]
    exact .inl rfl
  · exact .inr (eq_of_valueOf_eq negativeZero)

/-- A search that starts at zero finds what has no sign. -/
theorem larger_zero_abs (number : Float) :
    larger 0 number.abs = number.abs := by
  have zeroNumber : isNaN (0 : Float) = false :=
    LawfulComparison.not_isNaN_zero
  have value := valueOf_abs number
  rcases unsigned_cases (valueOf number) with none | zero | above
  · exact
      larger_of_isNaN_right zeroNumber (isNaN_iff.mpr (value.trans none))
  · have isZero : number.abs = 0 := eq_of_valueOf_eq (value.trans zero)
    rw [isZero]
    exact larger_of_not_below zeroNumber (by decide +kernel)
  · rw [← value] at above
    have below : 0 < number.abs := lt_iff_value.mpr above
    have isNumber :=
      (LawfulComparison.not_isNaN_of_le (le_of_below below)).2
    exact larger_of_below zeroNumber isNumber below

/-- Of a magnitude it finds the number without its sign. -/
theorem larger_zero_magnitude (number : Float) :
    larger 0 (magnitude number) = number.abs := by
  rcases magnitude_eq_or number with same | rfl
  · rw [same, larger_zero_abs]
  · decide +kernel

/-- It does not matter which of two numbers without sign comes first. -/
theorem larger_abs_comm (first second : Float) :
    larger first.abs second.abs = larger second.abs first.abs := by
  refine larger_comm fun sameKind notBelow notAbove => eq_of_valueOf_eq ?_
  cases kind : isNaN first.abs with
  | true =>
      rw [isNaN_iff.mp kind, isNaN_iff.mp (sameKind.symm.trans kind)]
  | false =>
      have otherKind := sameKind.symm.trans kind
      have place :
          rank (valueOf first.abs) = rank (valueOf second.abs) := by
        refine
          le_antisymm (not_lt.mp fun above => ?_)
            (not_lt.mp fun below => ?_)
        · exact notAbove (lt_iff.mpr ⟨otherKind, kind, above⟩)
        · exact notBelow (lt_iff.mpr ⟨kind, otherKind, below⟩)
      rw [isNaN_eq_false_iff] at kind otherKind
      rw [valueOf_abs] at kind otherKind place
      rw [valueOf_abs] at place
      rw [valueOf_abs, valueOf_abs]
      exact unsigned_eq_of_rank_eq kind otherKind place

end Linkage.Binary64
