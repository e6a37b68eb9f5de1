import Mathlib.Data.Prod.Lex
import Mathlib.Order.Compare
import Linkage.Number.Basic
import Linkage.Proofs.Number.Binary64

namespace Linkage

/-!
# Laws of comparison

Numbers are compared as in a total order, except that a non-number is comparable
with nothing.  That is all a search for the largest number needs: what is found
does not depend on how the search is divided, and it is within a bound exactly
when all numbers are.
-/

/--
Comparison is total among numbers; what is not a number is comparable with
nothing.
-/
class LawfulComparison
    (K : Type) [Zero K] [BEq K] [LT K] [LE K] : Prop where
  lt_iff_le_not_le : ∀ {a b : K}, a < b ↔ a ≤ b ∧ ¬ b ≤ a
  le_trans : ∀ {a b c : K}, a ≤ b → b ≤ c → a ≤ c
  le_total :
    ∀ {a b : K}, isNaN a = false → isNaN b = false → a ≤ b ∨ b ≤ a
  not_isNaN_of_le :
    ∀ {a b : K}, a ≤ b → isNaN a = false ∧ isNaN b = false
  not_isNaN_zero : isNaN (0 : K) = false

/-- The numbers of a linear order are all comparable. -/
instance lawfulComparisonOfLinearOrder
    {K : Type} [Zero K] [LinearOrder K] : LawfulComparison K where
  lt_iff_le_not_le := lt_iff_le_not_ge
  le_trans := le_trans
  le_total := fun _ _ => le_total _ _
  not_isNaN_of_le := by simp [isNaN]
  not_isNaN_zero := by simp [isNaN]

namespace Binary64

open Float.Model
open Float.Model.UnpackedFloat

/--
Where a number stands among all numbers: first its sign, or that it is infinite,
then its exponent, then its digits.  Both zeros stand at the same place.
-/
def rank : UnpackedFloat → ℤ ×ₗ ℤ ×ₗ ℤ
  | .infinity .negative => toLex (-2, toLex (0, 0))
  | .finite .negative mantissa exponent _ =>
      toLex (-1, toLex (-exponent, -(mantissa : ℤ)))
  | .zero _ | .notANumber => toLex (0, toLex (0, 0))
  | .finite .positive mantissa exponent _ =>
      toLex (1, toLex (exponent, (mantissa : ℤ)))
  | .infinity .positive => toLex (2, toLex (0, 0))

theorem compare_neg_neg (first second : ℤ) :
    compare (-first) (-second) = (compare first second).swap := by
  rcases lt_trichotomy first second with less | rfl | more
  · rw [compare_lt_iff_lt.mpr less,
      compare_gt_iff_gt.mpr (Int.neg_lt_neg less)]
    rfl
  · rw [compare_eq_iff_eq.mpr rfl, compare_eq_iff_eq.mpr rfl]
    rfl
  · rw [compare_gt_iff_gt.mpr more,
      compare_lt_iff_lt.mpr (Int.neg_lt_neg more)]
    rfl

theorem compare_natCast (first second : ℕ) :
    compare (first : ℤ) (second : ℤ) = compare first second := by
  rcases lt_trichotomy first second with less | rfl | more
  · rw [compare_lt_iff_lt.mpr less,
      compare_lt_iff_lt.mpr (Int.ofNat_lt.mpr less)]
  · rw [compare_eq_iff_eq.mpr rfl, compare_eq_iff_eq.mpr rfl]
  · rw [compare_gt_iff_gt.mpr more,
      compare_gt_iff_gt.mpr (Int.ofNat_lt.mpr more)]

/-- Of two positive numbers the digits decide if the exponents do not. -/
theorem compare_positive
    {mantissa otherMantissa : ℕ}
    {exponent otherExponent : ℤ}
    (positive : 0 < mantissa)
    (otherPositive : 0 < otherMantissa) :
    compare
        (rank (.finite .positive mantissa exponent positive))
        (rank (.finite .positive otherMantissa otherExponent
          otherPositive)) =
      (compare exponent otherExponent).then
        (compare mantissa otherMantissa) := by
  change (compare (1 : ℤ) 1).then
    ((compare exponent otherExponent).then
      (compare (mantissa : ℤ) (otherMantissa : ℤ))) = _
  rw [compare_natCast]
  rfl

/-- Of two negative numbers the larger has the smaller magnitude. -/
theorem compare_negative
    {mantissa otherMantissa : ℕ}
    {exponent otherExponent : ℤ}
    (positive : 0 < mantissa)
    (otherPositive : 0 < otherMantissa) :
    compare
        (rank (.finite .negative mantissa exponent positive))
        (rank (.finite .negative otherMantissa otherExponent
          otherPositive)) =
      ((compare exponent otherExponent).then
        (compare mantissa otherMantissa)).swap := by
  change (compare (-1 : ℤ) (-1)).then
    ((compare (-exponent) (-otherExponent)).then
      (compare (-(mantissa : ℤ)) (-(otherMantissa : ℤ)))) = _
  rw [compare_neg_neg exponent, compare_neg_neg (mantissa : ℤ),
    compare_natCast, Ordering.swap_then]
  rfl

/-- What is not a number is comparable with nothing. -/
theorem compare_notANumber (value : UnpackedFloat) :
    UnpackedFloat.notANumber.compare value = none :=
  rfl

theorem compare_notANumber_right (value : UnpackedFloat) :
    value.compare .notANumber = none := by
  cases value <;> rfl

/-- Numbers are compared by where they stand. -/
theorem compare_eq_rank
    {first second : UnpackedFloat}
    (number : first ≠ .notANumber)
    (otherNumber : second ≠ .notANumber) :
    first.compare second = some (compare (rank first) (rank second)) := by
  rcases first with ⟨⟨⟩⟩ | _ | _ | ⟨⟨⟩, mantissa, exponent, positive⟩
  all_goals
    rcases second with
      ⟨⟨⟩⟩ | _ | _ | ⟨⟨⟩, otherMantissa, otherExponent, otherPositive⟩
  all_goals first
    | exact absurd rfl number
    | exact absurd rfl otherNumber
    | rfl
    | exact congrArg some (compare_negative _ _).symm
    | exact congrArg some (compare_positive _ _).symm

theorem isNaN_eq_false_iff
    {number : Float} :
    isNaN number = false ↔ valueOf number ≠ .notANumber := by
  change (!(valueOf number).compare (valueOf number) == some .eq) =
    false ↔ _
  rw [Bool.not_eq_false']
  constructor
  · intro same notNumber
    rw [notNumber] at same
    cases same
  · intro isNumber
    rw [compare_eq_rank isNumber isNumber, compare_eq_iff_eq.mpr rfl]
    rfl

/-- A double is at most another if both are numbers that stand in order. -/
theorem le_iff
    {first second : Float} :
    first ≤ second ↔
      isNaN first = false ∧ isNaN second = false ∧
        rank (valueOf first) ≤ rank (valueOf second) := by
  have meaning :
      first ≤ second ↔
        ((valueOf first).compare (valueOf second)).any (·.isLE) = true :=
    decide_eq_true_iff
  rw [meaning, isNaN_eq_false_iff, isNaN_eq_false_iff]
  by_cases number : valueOf first = .notANumber
  · rw [number, compare_notANumber]
    exact iff_of_false nofun fun parts => parts.1 rfl
  · by_cases otherNumber : valueOf second = .notANumber
    · rw [otherNumber, compare_notANumber_right]
      exact iff_of_false nofun fun parts => parts.2.1 rfl
    · rw [compare_eq_rank number otherNumber]
      simp [number, otherNumber, ← Ordering.ne_gt_iff_isLE,
        compare_le_iff_le]

/-- A double is below another if both are numbers that stand so. -/
theorem lt_iff
    {first second : Float} :
    first < second ↔
      isNaN first = false ∧ isNaN second = false ∧
        rank (valueOf first) < rank (valueOf second) := by
  have meaning :
      first < second ↔
        ((valueOf first).compare (valueOf second) == some .lt) = true :=
    decide_eq_true_iff
  rw [meaning, isNaN_eq_false_iff, isNaN_eq_false_iff]
  by_cases number : valueOf first = .notANumber
  · rw [number, compare_notANumber]
    exact iff_of_false nofun fun parts => parts.1 rfl
  · by_cases otherNumber : valueOf second = .notANumber
    · rw [otherNumber, compare_notANumber_right]
      exact iff_of_false nofun fun parts => parts.2.1 rfl
    · rw [compare_eq_rank number otherNumber]
      simpa [number, otherNumber] using compare_lt_iff_lt

end Binary64

/-- Doubles are compared as numbers should be. -/
instance lawfulComparisonFloat : LawfulComparison Float where
  lt_iff_le_not_le {a b} := by
    rw [Binary64.lt_iff, Binary64.le_iff, Binary64.le_iff,
      lt_iff_le_not_ge]
    tauto
  le_trans {a b c} := by
    rw [Binary64.le_iff, Binary64.le_iff, Binary64.le_iff]
    rintro ⟨number, _, le⟩ ⟨_, otherNumber, otherLe⟩
    exact ⟨number, otherNumber, le.trans otherLe⟩
  le_total {a b} number otherNumber := by
    rw [Binary64.le_iff, Binary64.le_iff]
    rcases le_total
        (Binary64.rank (Binary64.valueOf a))
        (Binary64.rank (Binary64.valueOf b)) with le | le
    · exact .inl ⟨number, otherNumber, le⟩
    · exact .inr ⟨otherNumber, number, le⟩
  not_isNaN_of_le {a b} le := by
    obtain ⟨number, otherNumber, _⟩ := Binary64.le_iff.mp le
    exact ⟨number, otherNumber⟩
  not_isNaN_zero := by
    decide +kernel

section Order

variable {K : Type} [Zero K] [BEq K] [LT K] [LE K] [LawfulComparison K]

/-- A number is at most itself. -/
theorem le_self
    {a : K}
    (number : isNaN a = false) :
    a ≤ a := by
  rcases LawfulComparison.le_total number number with le | le <;> exact le

theorem le_of_below
    {a b : K}
    (below : a < b) :
    a ≤ b :=
  (LawfulComparison.lt_iff_le_not_le.mp below).1

/-- A number that is not below another is at least as large. -/
theorem le_of_not_below
    {a b : K}
    (number : isNaN a = false)
    (otherNumber : isNaN b = false)
    (notBelow : ¬ a < b) :
    b ≤ a := by
  rcases LawfulComparison.le_total number otherNumber with le | le
  · by_contra notLe
    exact notBelow (LawfulComparison.lt_iff_le_not_le.mpr ⟨le, notLe⟩)
  · exact le

/-- What is at least as large is not below. -/
theorem not_below_of_le
    {a b : K}
    (le : b ≤ a) :
    ¬ a < b :=
  fun below => (LawfulComparison.lt_iff_le_not_le.mp below).2 le

/-- Whatever is at most a number below another is below it. -/
theorem below_of_le_of_below
    {a b c : K}
    (le : a ≤ b)
    (below : b < c) :
    a < c := by
  obtain ⟨otherLe, notLe⟩ := LawfulComparison.lt_iff_le_not_le.mp below
  exact
    LawfulComparison.lt_iff_le_not_le.mpr
      ⟨LawfulComparison.le_trans le otherLe,
        fun ge => notLe (LawfulComparison.le_trans ge le)⟩

end Order

/-- What is accepted as positive and finite is positive. -/
theorem positive_of_isPositiveFinite
    {K : Type} [Zero K] [Sub K] [BEq K] [LT K] [DecidableLT K]
    {value : K}
    (valid : isPositiveFinite value = true) :
    0 < value := by
  rw [isPositiveFinite, Bool.and_eq_true, decide_eq_true_iff] at valid
  exact valid.2

section Larger

variable {K : Type} [BEq K] [LT K] [DecidableLT K]

/-- What is not a number is kept. -/
theorem larger_of_isNaN
    {a : K}
    (notNumber : isNaN a = true)
    (b : K) :
    larger a b = a := by
  rw [larger, if_pos notNumber]

/-- What is not a number replaces a number. -/
theorem larger_of_isNaN_right
    {a b : K}
    (number : isNaN a = false)
    (notNumber : isNaN b = true) :
    larger a b = b := by
  simp [larger, number, notNumber]

/-- A number is replaced by one that it is below. -/
theorem larger_of_below
    {a b : K}
    (number : isNaN a = false)
    (otherNumber : isNaN b = false)
    (below : a < b) :
    larger a b = b := by
  simp [larger, number, otherNumber, below]

/-- A number replaces nothing unless it exceeds it. -/
theorem larger_of_not_below
    {a b : K}
    (number : isNaN b = false)
    (notBelow : ¬ a < b) :
    larger a b = a := by
  simp [larger, number, notBelow]

/-- The larger is one of the two. -/
theorem larger_eq_or
    (a b : K) :
    larger a b = a ∨ larger a b = b := by
  unfold larger
  split
  · exact .inl rfl
  · split
    · exact .inr rfl
    · split
      · exact .inr rfl
      · exact .inl rfl

/-- The larger is no number as soon as either is none. -/
theorem isNaN_larger
    (a b : K) :
    isNaN (larger a b) = (isNaN a || isNaN b) := by
  cases first : isNaN a with
  | true =>
      rw [larger_of_isNaN first, first, Bool.true_or]
  | false =>
      cases second : isNaN b with
      | true =>
          rw [larger_of_isNaN_right first second, second, Bool.or_true]
      | false =>
          rcases larger_eq_or a b with isFirst | isSecond
          · rw [isFirst, first, Bool.or_self]
          · rw [isSecond, second, Bool.or_self]

variable [Zero K] [LE K] [LawfulComparison K]

/--
It does not matter which of two comes first, if they are the same as soon as
neither is below the other.
-/
theorem larger_comm
    {a b : K}
    (same : isNaN a = isNaN b → ¬ a < b → ¬ b < a → a = b) :
    larger a b = larger b a := by
  by_cases below : a < b
  · have le := le_of_below below
    obtain ⟨first, second⟩ := LawfulComparison.not_isNaN_of_le le
    rw [larger_of_below first second below,
      larger_of_not_below first (not_below_of_le le)]
  · by_cases above : b < a
    · have le := le_of_below above
      obtain ⟨second, first⟩ := LawfulComparison.not_isNaN_of_le le
      rw [larger_of_not_below second (not_below_of_le le),
        larger_of_below second first above]
    · cases first : isNaN a with
      | true =>
          cases second : isNaN b with
          | true =>
              rw [same (first.trans second.symm) below above]
          | false =>
              rw [larger_of_isNaN first, larger_of_isNaN_right second first]
      | false =>
          cases second : isNaN b with
          | true =>
              rw [larger_of_isNaN_right first second, larger_of_isNaN second]
          | false =>
              rw [same (first.trans second.symm) below above]

/-- The larger is within a bound if both are. -/
theorem larger_le_iff
    {a b bound : K} :
    larger a b ≤ bound ↔ a ≤ bound ∧ b ≤ bound := by
  constructor
  · intro le
    have numbers := (LawfulComparison.not_isNaN_of_le le).1
    rw [isNaN_larger, Bool.or_eq_false_iff] at numbers
    obtain ⟨number, otherNumber⟩ := numbers
    by_cases below : a < b
    · rw [larger_of_below number otherNumber below] at le
      exact ⟨LawfulComparison.le_trans (le_of_below below) le, le⟩
    · rw [larger_of_not_below otherNumber below] at le
      have bLe := le_of_not_below number otherNumber below
      exact ⟨le, LawfulComparison.le_trans bLe le⟩
  · rintro ⟨le, otherLe⟩
    rcases larger_eq_or a b with isFirst | isSecond
    · rwa [isFirst]
    · rwa [isSecond]

/-- Among numbers it does not matter which two of three are compared first. -/
theorem larger_assoc_of_numbers
    {a b c : K}
    (first : isNaN a = false)
    (second : isNaN b = false)
    (third : isNaN c = false) :
    larger (larger a b) c = larger a (larger b c) := by
  by_cases later : b < c
  · rw [larger_of_below second third later]
    by_cases earlier : a < b
    · have skipped : a < c :=
        below_of_le_of_below (le_of_below earlier) later
      rw [larger_of_below first second earlier,
        larger_of_below second third later,
        larger_of_below first third skipped]
    · rw [larger_of_not_below second earlier]
  · rw [larger_of_not_below third later]
    by_cases earlier : a < b
    · rw [larger_of_below first second earlier,
        larger_of_not_below third later]
    · have cLe := le_of_not_below second third later
      have bLe := le_of_not_below first second earlier
      have skipped : ¬ a < c :=
        not_below_of_le (LawfulComparison.le_trans cLe bLe)
      rw [larger_of_not_below second earlier,
        larger_of_not_below third skipped]

/-- It does not matter which two of three are compared first. -/
theorem larger_assoc
    (a b c : K) :
    larger (larger a b) c = larger a (larger b c) := by
  cases first : isNaN a with
  | true =>
      rw [larger_of_isNaN first, larger_of_isNaN first,
        larger_of_isNaN first]
  | false =>
      cases second : isNaN b with
      | true =>
          rw [larger_of_isNaN second,
            larger_of_isNaN_right first second, larger_of_isNaN second]
      | false =>
          cases third : isNaN c with
          | true =>
              have number : isNaN (larger a b) = false := by
                rw [isNaN_larger, first, second, Bool.or_self]
              rw [larger_of_isNaN_right number third,
                larger_of_isNaN_right second third,
                larger_of_isNaN_right first third]
          | false =>
              exact larger_assoc_of_numbers first second third

instance : Std.Associative (larger : K → K → K) where
  assoc := larger_assoc

/-- The larger of two is not negative if the first is not. -/
theorem larger_not_negative
    {a : K}
    (notNegative : ¬ a < 0)
    (b : K) :
    ¬ larger a b < 0 := by
  intro negative
  have le := le_of_below negative
  have number := (LawfulComparison.not_isNaN_of_le le).1
  have aLe : a ≤ larger a b := (larger_le_iff.mp (le_self number)).1
  exact notNegative (below_of_le_of_below aLe negative)

end Larger

end Linkage
