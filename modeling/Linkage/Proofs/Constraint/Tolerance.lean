import Linkage.Proofs.Constraint.Check
import Linkage.Proofs.Number.Magnitude

namespace Linkage

/-!
# Within the tolerance

A report holds two numbers, each the largest magnitude of many gaps.  Among
doubles a gap may be infinite or not be a number at all, and what is not a
number exceeds nothing; nevertheless a report passes exactly when every gap is
within the tolerance, wherever among the others it stands.
-/

/-- The largest magnitude is found among the doubles without their signs. -/
theorem largestMagnitude_eq_abs
    (numbers : List Float) :
    largestMagnitude numbers = largestError (numbers.map Float.abs) := by
  have unsigned :
      larger 0 ∘ magnitude = Float.abs :=
    funext Binary64.larger_zero_magnitude
  rw [largestMagnitude_eq, ← largestError_map_larger_zero, List.map_map,
    unsigned]

/-- The largest magnitude is the largest of the doubles without their signs. -/
theorem isLargest_largestMagnitude
    (numbers : List Float) :
    IsLargest (numbers.map Float.abs) (largestMagnitude numbers) := by
  rw [largestMagnitude_eq_abs]
  refine isLargest_largestError ?_
  rw [List.forall_mem_map]
  exact fun number _ => Binary64.larger_zero_abs number

/-- The order of the numbers plays no part. -/
theorem largestMagnitude_perm
    {numbers reordered : List Float}
    (permuted : reordered.Perm numbers) :
    largestMagnitude reordered = largestMagnitude numbers := by
  rw [largestMagnitude_eq_abs, largestMagnitude_eq_abs]
  refine (permuted.map Float.abs).foldl_eq' ?_ 0
  rw [List.forall_mem_map]
  intro first _
  rw [List.forall_mem_map]
  intro second _ largest
  rw [larger_assoc, larger_assoc, Binary64.larger_abs_comm]

/--
The largest magnitude of some doubles: not a number exactly if one of them is
none, zero if there are none, and else attained and not exceeded.
-/
structure IsLargestMagnitude
    (numbers : List Float)
    (largest : Float) : Prop where
  isNaN_iff :
    largest.isNaN = true ↔ ∃ number ∈ numbers, number.isNaN = true
  eq_zero : numbers = [] → largest = 0
  attained : numbers ≠ [] → ∃ number ∈ numbers, largest = number.abs
  upper :
    (∀ number ∈ numbers, number.isNaN = false) →
    ∀ number ∈ numbers, number.abs ≤ largest

/-- It is what a search for the largest magnitude finds. -/
theorem isLargestMagnitude_largestMagnitude
    (numbers : List Float) :
    IsLargestMagnitude numbers (largestMagnitude numbers) := by
  have largest := isLargest_largestMagnitude numbers
  have isNaN_iff :
      (largestMagnitude numbers).isNaN = true ↔
        ∃ number ∈ numbers, number.isNaN = true := by
    rw [← Binary64.isNaN_eq, largest.isNaN_iff]
    simp only [List.mem_map, exists_exists_and_eq_and, Binary64.isNaN_eq,
      Binary64.isNaN_abs]
  refine ⟨isNaN_iff, ?_, ?_, ?_⟩
  · rintro rfl
    rfl
  · intro nonempty
    obtain ⟨number, member, same⟩ :=
      List.mem_map.mp (largest.mem (by simpa using nonempty))
    exact ⟨number, member, same.symm⟩
  · intro allNumbers number member
    refine largest.upper ?_ _ (List.mem_map_of_mem member)
    rw [Binary64.isNaN_eq, ← Bool.not_eq_true, isNaN_iff]
    rintro ⟨other, otherMember, notNumber⟩
    cases (allNumbers other otherMember).symm.trans notNumber

/-- Among doubles nothing is within a bound that is not a number. -/
theorem not_abs_le_of_isNaN
    {number bound : Float}
    (notNumber : number.isNaN = true) :
    ¬ number.abs ≤ bound := by
  intro le
  have isNumber := (LawfulComparison.not_isNaN_of_le le).1
  rw [Binary64.isNaN_eq, Binary64.isNaN_abs, notNumber] at isNumber
  cases isNumber

namespace CheckReport

/-- What a check with some tolerance reports about its gaps. -/
def ofGaps
    (tolerance : Float)
    (jacobianGaps biasGaps : List Float) : CheckReport Float where
  jacobianError := largestMagnitude jacobianGaps
  biasError := largestMagnitude biasGaps
  tolerance := tolerance

/-- A report passes exactly when all its gaps are within the tolerance. -/
theorem ofGaps_passed_iff
    {tolerance : Float}
    (valid : isPositiveFinite tolerance = true)
    (jacobianGaps biasGaps : List Float) :
    (ofGaps tolerance jacobianGaps biasGaps).passed = true ↔
      ∀ gap ∈ jacobianGaps ++ biasGaps, gap.abs ≤ tolerance := by
  have notNegative := le_of_below (positive_of_isPositiveFinite valid)
  have within :
      ∀ gaps : List Float,
        largestMagnitude gaps ≤ tolerance ↔
          ∀ gap ∈ gaps, gap.abs ≤ tolerance := by
    intro gaps
    rw [(isLargest_largestMagnitude gaps).le_iff notNegative,
      List.forall_mem_map]
  rw [passed_iff, List.forall_mem_append]
  exact and_congr (within jacobianGaps) (within biasGaps)

/--
A check passes exactly when all gaps between what it has read are within its
tolerance.
-/
theorem report_passed_iff
    {settings : CheckSettings Float}
    (valid : isPositiveFinite settings.tolerance = true)
    (readings : Readings Float)
    (velocities : List Float) :
    (readings.report settings velocities).passed = true ↔
      (∀ gap ∈
          differenceGap settings.step
            readings.residualAhead readings.residualBehind
            (products readings.jacobianHere velocities),
        gap.abs ≤ settings.tolerance) ∧
      ∀ gap ∈
          differenceGap settings.step
            (products readings.jacobianAhead velocities)
            (products readings.jacobianBehind velocities)
            readings.biasHere,
        gap.abs ≤ settings.tolerance := by
  rw [← List.forall_mem_append]
  exact ofGaps_passed_iff valid _ _

/--
However many gaps there are and whatever doubles they are, the largest magnitude
is what it says, in whichever order the gaps come; and a report about two lists
of gaps passes exactly when each gap of both is within the tolerance.  So it
does not pass if a gap anywhere is not a number.
-/
theorem passed_iff_all_within_tolerance
    (jacobianGaps biasGaps : List Float)
    {tolerance : Float}
    (valid : isPositiveFinite tolerance = true) :
    (∀ gaps : List Float,
        IsLargestMagnitude gaps (largestMagnitude gaps) ∧
          ∀ {reordered : List Float},
            reordered.Perm gaps →
            largestMagnitude reordered = largestMagnitude gaps) ∧
      ((ofGaps tolerance jacobianGaps biasGaps).passed = true ↔
        ∀ gap ∈ jacobianGaps ++ biasGaps, gap.abs ≤ tolerance) ∧
      ((∃ gap ∈ jacobianGaps ++ biasGaps, gap.isNaN = true) →
        (ofGaps tolerance jacobianGaps biasGaps).passed = false) := by
  have passes := ofGaps_passed_iff valid jacobianGaps biasGaps
  refine
    ⟨fun gaps =>
      ⟨isLargestMagnitude_largestMagnitude gaps, largestMagnitude_perm⟩,
      passes, ?_⟩
  rintro ⟨gap, member, notNumber⟩
  rw [← Bool.not_eq_true, passes]
  exact fun allWithin => not_abs_le_of_isNaN notNumber (allWithin gap member)

/--
A gap on the tolerance itself passes, with a negative zero beside it; what is
not a number does not, although it stands between numbers and the other list is
empty.
-/
theorem passed_iff_all_within_tolerance_three :
    isPositiveFinite (3 : Float) = true ∧
      (ofGaps 3 [1, -3, 2] [-0]).passed = true ∧
      (ofGaps 3 [1, 0 / 0, 2] []).passed = false ∧
      (ofGaps 3 [] [1, -1 / 0]).passed = false := by
  have valid : isPositiveFinite (3 : Float) = true := by decide +kernel
  have within :
      ∀ gap ∈ [(1 : Float), -3, 2] ++ [-0], gap.abs ≤ 3 := by
    decide +kernel
  have outside :
      ¬ ∀ gap ∈ [] ++ [(1 : Float), -1 / 0], gap.abs ≤ 3 := by
    decide +kernel
  obtain ⟨_, passes, _⟩ :=
    passed_iff_all_within_tolerance [1, -3, 2] [-0] valid
  obtain ⟨_, _, fails⟩ :=
    passed_iff_all_within_tolerance [1, 0 / 0, 2] [] valid
  obtain ⟨_, infinite, _⟩ :=
    passed_iff_all_within_tolerance [] [1, -1 / 0] valid
  refine ⟨valid, passes.mpr within, fails ⟨0 / 0, ?_, ?_⟩, ?_⟩
  · simp
  · decide +kernel
  · rw [← Bool.not_eq_true, infinite]
    exact outside

end CheckReport

end Linkage
