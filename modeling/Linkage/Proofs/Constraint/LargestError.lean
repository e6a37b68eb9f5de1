import Linkage.Constraint.Check
import Linkage.Proofs.Number.Comparison

namespace Linkage

/-!
# The largest error

A report holds the largest magnitude of many gaps, and passes if that is within
the tolerance.  The search may be divided among groups of gaps, and a report
passes exactly when all gaps are within the tolerance.  A gap that is not a
number is never lost on the way.
-/

variable {K : Type}

section Search

variable [Zero K] [BEq K] [LT K] [DecidableLT K]

/-- Search for the largest of some errors, starting at zero. -/
def largestError
    (errors : List K) : K :=
  errors.foldl larger 0

/-- The largest magnitude is found among the magnitudes. -/
theorem largestMagnitude_eq
    [Neg K]
    (numbers : List K) :
    largestMagnitude numbers = largestError (numbers.map magnitude) := by
  rw [largestMagnitude, largestError, List.foldl_map]

end Search

section Largest

variable [Zero K] [BEq K] [LT K] [LE K]

/--
The largest of some errors: not a number if one of them is none, and zero if
there is no error at all.
-/
structure IsLargest
    (errors : List K)
    (largest : K) : Prop where
  isNaN_iff :
    isNaN largest = true ↔ ∃ error ∈ errors, isNaN error = true
  eq_zero : errors = [] → largest = 0
  mem : errors ≠ [] → largest ∈ errors
  upper : isNaN largest = false → ∀ error ∈ errors, error ≤ largest

omit [LT K] in
/-- The largest of some zeros is zero. -/
theorem IsLargest.eq_zero_of_zeros
    {errors : List K}
    {largest : K}
    (isLargest : IsLargest errors largest)
    (zeros : ∀ error ∈ errors, error = 0) :
    largest = 0 := by
  by_cases nothing : errors = []
  · exact isLargest.eq_zero nothing
  · exact zeros largest (isLargest.mem nothing)

variable [LawfulComparison K]

/-- The largest error is within a bound if all of them are. -/
theorem IsLargest.le_iff
    {errors : List K}
    {largest bound : K}
    (isLargest : IsLargest errors largest)
    (notNegative : 0 ≤ bound) :
    largest ≤ bound ↔ ∀ error ∈ errors, error ≤ bound := by
  constructor
  · intro le error member
    have number := (LawfulComparison.not_isNaN_of_le le).1
    exact
      LawfulComparison.le_trans (isLargest.upper number error member) le
  · intro allLe
    by_cases nothing : errors = []
    · rwa [isLargest.eq_zero nothing]
    · exact allLe largest (isLargest.mem nothing)

variable [DecidableLT K]

/-- A search that starts at zero keeps what is found. -/
theorem larger_zero_largestError
    (errors : List K) :
    larger 0 (largestError errors) = largestError errors := by
  have notBelow : ¬ (0 : K) < 0 :=
    not_below_of_le (le_self LawfulComparison.not_isNaN_zero)
  have zero : larger (0 : K) 0 = 0 :=
    larger_of_not_below LawfulComparison.not_isNaN_zero notBelow
  have split :
      errors.foldl larger (larger 0 0) = larger 0 (largestError errors) :=
    List.foldl_assoc
  rw [zero] at split
  exact split.symm

/-- What was found is not negative, so another search may start from it. -/
theorem larger_largestError_zero
    (errors : List K) :
    larger (largestError errors) 0 = largestError errors := by
  have notBelow : ¬ (0 : K) < 0 :=
    not_below_of_le (le_self LawfulComparison.not_isNaN_zero)
  refine larger_of_not_below LawfulComparison.not_isNaN_zero ?_
  rw [← larger_zero_largestError]
  exact larger_not_negative notBelow _

/-- Two parts may be searched one after the other or each alone. -/
theorem largestError_append
    (first second : List K) :
    largestError (first ++ second) =
      larger (largestError first) (largestError second) := by
  have split :
      second.foldl larger (larger (largestError first) 0) =
        larger (largestError first) (largestError second) :=
    List.foldl_assoc
  rw [larger_largestError_zero] at split
  rw [largestError, List.foldl_append]
  exact split

/-- An error that a search has found may be put before others. -/
theorem largestError_cons
    {error : K}
    (settled : larger 0 error = error)
    (rest : List K) :
    largestError (error :: rest) = larger error (largestError rest) := by
  have alone : largestError [error] = error := settled
  have split := largestError_append [error] rest
  rwa [alone] at split

/-- Each error may be compared with zero before it is searched. -/
theorem largestError_map_larger_zero
    (errors : List K) :
    largestError (errors.map (larger 0)) = largestError errors := by
  induction errors with
  | nil =>
      rfl
  | cons error rest inductionHypothesis =>
      have settled :
          larger 0 (larger 0 error) = larger 0 error :=
        larger_zero_largestError [error]
      have split := largestError_append [error] rest
      rw [List.map_cons, largestError_cons settled, inductionHypothesis]
      exact split.symm

/-- Groups may be searched one by one. -/
theorem largestError_flatMap
    {α : Type}
    (groups : List α)
    (errors : α → List K) :
    largestError (groups.flatMap errors) =
      largestError
        (groups.map fun group => largestError (errors group)) := by
  induction groups with
  | nil =>
      rfl
  | cons group rest inductionHypothesis =>
      rw [List.flatMap_cons, largestError_append, inductionHypothesis,
        List.map_cons,
        largestError_cons (larger_zero_largestError (errors group))]

/-- A search finds the largest of errors that were found by searches. -/
theorem isLargest_largestError
    {errors : List K}
    (settled : ∀ error ∈ errors, larger 0 error = error) :
    IsLargest errors (largestError errors) := by
  induction errors with
  | nil =>
      exact
        { isNaN_iff := by
            simp [largestError, LawfulComparison.not_isNaN_zero]
          eq_zero := fun _ => rfl
          mem := fun nonempty => absurd rfl nonempty
          upper := by simp }
  | cons error rest inductionHypothesis =>
      have first : larger 0 error = error := settled error (by simp)
      have later :=
        inductionHypothesis fun other member =>
          settled other (by simp [member])
      rw [largestError_cons first]
      refine
        ⟨?_, fun empty => absurd empty (List.cons_ne_nil _ _),
          fun _ => ?_, ?_⟩
      · rw [isNaN_larger, Bool.or_eq_true, later.isNaN_iff]
        simp
      · cases rest with
        | nil =>
            rw [← largestError_cons first]
            exact List.mem_singleton.mpr first
        | cons next rest =>
            rcases larger_eq_or error (largestError (next :: rest)) with
              isFirst | isLater
            · rw [isFirst]
              exact List.mem_cons_self
            · rw [isLater]
              exact
                List.mem_cons_of_mem _
                  (later.mem (List.cons_ne_nil _ _))
      · intro number other member
        obtain ⟨firstLe, laterLe⟩ :=
          larger_le_iff.mp (le_self number)
        rcases List.mem_cons.mp member with rfl | inRest
        · exact firstLe
        · rw [isNaN_larger, Bool.or_eq_false_iff] at number
          exact
            LawfulComparison.le_trans (later.upper number.2 other inRest)
              laterLe

/-- The largest magnitude of all groups is the largest of those of each. -/
theorem isLargest_flatMap
    [Neg K]
    {α : Type}
    (groups : List α)
    (numbers : α → List K) :
    IsLargest (groups.map fun group => largestMagnitude (numbers group))
      (largestMagnitude (groups.flatMap numbers)) := by
  simp only [largestMagnitude_eq, List.map_flatMap]
  rw [largestError_flatMap]
  refine isLargest_largestError fun error member => ?_
  obtain ⟨group, _, rfl⟩ := List.mem_map.mp member
  exact larger_zero_largestError _

/-- A report passes if both errors are within the tolerance. -/
theorem CheckReport.passed_iff
    [DecidableLE K]
    (report : CheckReport K) :
    report.passed = true ↔
      report.jacobianError ≤ report.tolerance ∧
        report.biasError ≤ report.tolerance := by
  rw [passed, decide_eq_true_iff, maxError, larger_le_iff]

end Largest

end Linkage
