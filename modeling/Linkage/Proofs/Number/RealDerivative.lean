import Mathlib.Analysis.SpecialFunctions.Sqrt
import Mathlib.Analysis.SpecialFunctions.Trigonometric.Deriv
import Mathlib.Topology.Algebra.Module.ModuleTopology
import Linkage.Proofs.Number.Differentiation

namespace Linkage

/-!
# Rates are derivatives

The rates that a program computes on dual numbers are those of calculus.  The
inputs are moved along a line and the program is run on the curves they
describe.  As long as it divides by no zero and takes the root of positive
numbers only, every register describes a differentiable curve, and its
derivative is the rate that the dual run finds.
-/

/-- Curves have the constants that stay where they are. -/
instance constantCurve : Constant ℝ (ℝ → ℝ) where
  constant value := fun _ => value

noncomputable instance elementaryCurve : Elementary (ℝ → ℝ) where
  sqrt curve := fun time => Elementary.sqrt (curve time)
  sin curve := fun time => Elementary.sin (curve time)
  cos curve := fun time => Elementary.cos (curve time)

section Time

variable (time : ℝ)

instance preservesArithmetic_at :
    PreservesArithmetic (fun curve : ℝ → ℝ => curve time) where
  map_zero := rfl
  map_one := rfl
  map_add _ _ := rfl
  map_sub _ _ := rfl
  map_neg _ := rfl
  map_mul _ _ := rfl

instance preservesDivision_at :
    PreservesDivision (fun curve : ℝ → ℝ => curve time) where
  map_div _ _ := rfl

instance preservesSqrt_at :
    PreservesSqrt (fun curve : ℝ → ℝ => curve time) where
  map_sqrt _ := rfl

instance preservesTrigonometry_at :
    PreservesTrigonometry (fun curve : ℝ → ℝ => curve time) where
  map_sin _ := rfl
  map_cos _ := rfl

instance preservesConstants_at :
    PreservesConstants ℝ (fun curve : ℝ → ℝ => curve time) where
  map_constant _ := rfl

end Time

/-- A curve that is at a number at time zero, and moves at its rate. -/
structure Passes
    (number : Dual ℝ)
    (curve : ℝ → ℝ) : Prop where
  at_zero : curve 0 = number.re
  hasDerivAt : HasDerivAt curve number.eps 0

namespace Passes

variable {a b : Dual ℝ}
variable {c d : ℝ → ℝ}

theorem constant (value : ℝ) :
    Passes (Constant.constant value) (Constant.constant value) where
  at_zero := rfl
  hasDerivAt := hasDerivAt_const 0 value

/-- An input that moves along a line passes its seeded number. -/
theorem line (value direction : ℝ) :
    Passes ⟨value, direction⟩ (fun time => value + time * direction) where
  at_zero := by simp
  hasDerivAt := by
    refine
      (((hasDerivAt_id 0).mul_const direction).const_add
        value).congr_deriv ?_
    exact one_mul direction

theorem add (first : Passes a c) (second : Passes b d) :
    Passes (a + b) (c + d) where
  at_zero := by simp [first.at_zero, second.at_zero]
  hasDerivAt := first.hasDerivAt.add second.hasDerivAt

theorem sub (first : Passes a c) (second : Passes b d) :
    Passes (a - b) (c - d) where
  at_zero := by simp [first.at_zero, second.at_zero]
  hasDerivAt := first.hasDerivAt.sub second.hasDerivAt

theorem neg (passes : Passes a c) : Passes (-a) (-c) where
  at_zero := by simp [passes.at_zero]
  hasDerivAt := passes.hasDerivAt.neg

theorem mul (first : Passes a c) (second : Passes b d) :
    Passes (a * b) (c * d) where
  at_zero := by simp [first.at_zero, second.at_zero]
  hasDerivAt := by
    refine (first.hasDerivAt.mul second.hasDerivAt).congr_deriv ?_
    rw [first.at_zero, second.at_zero, Dual.eps_mul,
      LawfulFusedMulAdd.mulAdd_eq, add_comm]

theorem div
    (first : Passes a c)
    (second : Passes b d)
    (notZero : b.re ≠ 0) :
    Passes (a / b) (c / d) where
  at_zero := by simp [first.at_zero, second.at_zero]
  hasDerivAt := by
    have differs : d 0 ≠ 0 := second.at_zero.trans_ne notZero
    refine
      (first.hasDerivAt.div second.hasDerivAt differs).congr_deriv ?_
    rw [first.at_zero, second.at_zero, Dual.eps_div, pow_two]

theorem sqrt (passes : Passes a c) (positive : 0 < a.re) :
    Passes (Elementary.sqrt a) (Elementary.sqrt c) where
  at_zero := congrArg Real.sqrt passes.at_zero
  hasDerivAt := by
    have differs : c 0 ≠ 0 := passes.at_zero.trans_ne positive.ne'
    refine (passes.hasDerivAt.sqrt differs).congr_deriv ?_
    rw [passes.at_zero, Dual.eps_sqrt, two, one_add_one_eq_two]
    rfl

theorem sin (passes : Passes a c) :
    Passes (Elementary.sin a) (Elementary.sin c) where
  at_zero := congrArg Real.sin passes.at_zero
  hasDerivAt := by
    refine passes.hasDerivAt.sin.congr_deriv ?_
    rw [passes.at_zero, Dual.eps_sin, mul_comm]
    rfl

theorem cos (passes : Passes a c) :
    Passes (Elementary.cos a) (Elementary.cos c) where
  at_zero := congrArg Real.cos passes.at_zero
  hasDerivAt := by
    refine passes.hasDerivAt.cos.congr_deriv ?_
    rw [passes.at_zero, Dual.eps_cos, neg_mul, neg_mul, mul_comm]
    rfl

end Passes

namespace Instruction

/-- An instruction at which calculus finds a derivative. -/
def Regular
    (values : List ℝ) : Instruction ℝ → Prop
  | .divide _ divisor => ∀ value, values[divisor]? = some value → value ≠ 0
  | .sqrt operand => ∀ value, values[operand]? = some value → 0 < value
  | _ => True

/-- What an instruction makes of curves passes what it makes of numbers. -/
theorem passes_of_regular
    {instruction : Instruction ℝ}
    {numbers : List (Dual ℝ)}
    {curves : List (ℝ → ℝ)}
    {result : Dual ℝ}
    (regular : instruction.Regular (numbers.map Dual.re))
    (pass : List.Forall₂ Passes numbers curves)
    (found : instruction.result? numbers = some result) :
    ∃ curve,
      instruction.result? curves = some curve ∧ Passes result curve := by
  have one {operand : Nat} {number : Dual ℝ}
      (isOperand : numbers[operand]? = some number) :=
    Step.related_getElem? pass isOperand
  have both {first second : Nat} {operation : Dual ℝ → Dual ℝ → Dual ℝ}
      (computed :
        (do return operation (← numbers[first]?) (← numbers[second]?)) =
          some result) :
      ∃ a b c d,
        numbers[second]? = some b ∧
          curves[first]? = some c ∧
          curves[second]? = some d ∧
          Passes a c ∧ Passes b d ∧ operation a b = result := by
    obtain ⟨a, aFound, rest⟩ := Option.bind_eq_some_iff.mp computed
    obtain ⟨b, bFound, isResult⟩ := Option.bind_eq_some_iff.mp rest
    obtain ⟨c, cFound, aPasses⟩ := one aFound
    obtain ⟨d, dFound, bPasses⟩ := one bFound
    exact
      ⟨a, b, c, d, bFound, cFound, dFound, aPasses, bPasses,
        Option.some.inj isResult⟩
  have valueAt {operand : Nat} {number : Dual ℝ}
      (isOperand : numbers[operand]? = some number) :
      (numbers.map Dual.re)[operand]? = some number.re := by
    rw [List.getElem?_map, isOperand]
    rfl
  cases instruction with
  | literal value =>
      cases found
      exact ⟨_, rfl, .constant value⟩
  | zero =>
      cases found
      exact ⟨_, rfl, .constant 0⟩
  | one =>
      cases found
      exact ⟨_, rfl, .constant 1⟩
  | add first second =>
      obtain ⟨a, b, c, d, _, cFound, dFound, aPasses, bPasses, rfl⟩ :=
        both found
      exact ⟨c + d, by simp [result?, cFound, dFound], aPasses.add bPasses⟩
  | subtract first second =>
      obtain ⟨a, b, c, d, _, cFound, dFound, aPasses, bPasses, rfl⟩ :=
        both found
      exact ⟨c - d, by simp [result?, cFound, dFound], aPasses.sub bPasses⟩
  | multiply first second =>
      obtain ⟨a, b, c, d, _, cFound, dFound, aPasses, bPasses, rfl⟩ :=
        both found
      exact ⟨c * d, by simp [result?, cFound, dFound], aPasses.mul bPasses⟩
  | divide first second =>
      obtain ⟨a, b, c, d, bFound, cFound, dFound, aPasses, bPasses, rfl⟩ :=
        both found
      exact
        ⟨c / d, by simp [result?, cFound, dFound],
          aPasses.div bPasses (regular _ (valueAt bFound))⟩
  | negate operand =>
      obtain ⟨a, aFound, ⟨⟩⟩ := Option.bind_eq_some_iff.mp found
      obtain ⟨c, cFound, passes⟩ := one aFound
      exact ⟨-c, by simp [result?, cFound], passes.neg⟩
  | sqrt operand =>
      obtain ⟨a, aFound, rfl⟩ := Option.map_eq_some_iff.mp found
      obtain ⟨c, cFound, passes⟩ := one aFound
      exact
        ⟨_, by rw [result?, cFound]; rfl,
          passes.sqrt (regular _ (valueAt aFound))⟩
  | sin operand =>
      obtain ⟨a, aFound, rfl⟩ := Option.map_eq_some_iff.mp found
      obtain ⟨c, cFound, passes⟩ := one aFound
      exact ⟨_, by rw [result?, cFound]; rfl, passes.sin⟩
  | cos operand =>
      obtain ⟨a, aFound, rfl⟩ := Option.map_eq_some_iff.mp found
      obtain ⟨c, cFound, passes⟩ := one aFound
      exact ⟨_, by rw [result?, cFound]; rfl, passes.cos⟩

end Instruction

namespace Step

variable {program : List (Step ℝ)}
variable {values directions : List ℝ}

/-- The inputs after some time, when they move at given rates. -/
def moved
    (values directions : List ℝ)
    (time : ℝ) : List ℝ :=
  List.zipWith (fun value direction => value + time * direction) values
    directions

/--
A program that divides by no zero, and takes the root of positive numbers only,
computes differentiable curves from inputs that move; what it finds on seeded
numbers are the places and the derivatives of these curves at time zero.
-/
theorem run_dual_hasDerivAt
    (inScope : InScope program values.length)
    (sameLength : values.length = directions.length)
    (regular :
      Along Instruction.result? Instruction.Regular program values) :
    ∃ (numbers : List (Dual ℝ)) (curves : List (ℝ → ℝ)),
      run? program (Dual.seed values directions) = some numbers ∧
        (∀ time,
          run? program (moved values directions time) =
            some (curves.map fun curve => curve time)) ∧
        List.Forall₂ Passes numbers curves := by
  have seedInScope :
      InScope program (Dual.seed values directions).length := by
    rwa [Dual.length_seed sameLength]
  obtain ⟨numbers, found⟩ := run?_of_inScope seedInScope
  let curves : List (ℝ → ℝ) :=
    (values.zip directions).map fun (value, direction) =>
      fun time => value + time * direction
  have start : List.Forall₂ Passes (Dual.seed values directions) curves := by
    rw [seed_eq_map_carrying]
    exact
      List.forall₂_map_left_iff.mpr
        (List.forall₂_map_right_iff.mpr
          (List.forall₂_same.mpr fun _ _ => .line _ _))
  -- The instructions are regular on plain numbers, and so on the value parts.
  have regularSeeds :
      Along Instruction.result?
        (fun numbers : List (Dual ℝ) =>
          Instruction.Regular (numbers.map Dual.re))
        program (Dual.seed values directions) := by
    have := preservesDivision_re (K := ℝ) mul_one_div
    refine along_of_map (result?_map Dual.re) ?_
    rwa [Dual.map_re_seed sameLength]
  obtain ⟨results, resultsFound, pass⟩ :=
    runWith?_related Passes Instruction.result?
      (fun regular pass found =>
        Instruction.passes_of_regular regular pass found)
      regularSeeds start found
  refine ⟨numbers, results, found, fun time => ?_, pass⟩
  have atTime := runWith?_map (result?_map fun curve : ℝ → ℝ => curve time)
    resultsFound
  have inputs :
      (curves.map fun curve => curve time) = moved values directions time := by
    rw [List.map_map, moved, ← List.map_uncurry_zip_eq_zipWith]
    rfl
  rwa [inputs] at atTime

/-- Both inputs differ from zero, so the hypotenuse is positive. -/
theorem twiceCosine_regular :
    Along Instruction.result? Instruction.Regular twiceCosine [3, 4] := by
  refine ⟨trivial, ?_⟩
  rintro _ _ ⟨⟩ ⟨⟩
  refine ⟨trivial, ?_⟩
  rintro _ _ ⟨⟩ ⟨⟩
  refine ⟨trivial, ?_⟩
  rintro _ _ ⟨⟩ ⟨⟩
  refine ⟨?_, ?_⟩
  · rintro _ ⟨⟩
    norm_num
  rintro _ _ ⟨⟩ ⟨⟩
  refine ⟨?_, ?_⟩
  · rintro _ ⟨⟩
    exact (Real.sqrt_pos.mpr (by norm_num)).ne'
  rintro _ _ ⟨⟩ ⟨⟩
  refine ⟨trivial, ?_⟩
  rintro _ _ ⟨⟩ ⟨⟩
  refine ⟨trivial, ?_⟩
  rintro _ _ ⟨⟩ ⟨⟩
  trivial

theorem run_dual_hasDerivAt_twiceCosine :
    ∃ (numbers : List (Dual ℝ)) (curves : List (ℝ → ℝ)),
      run? twiceCosine (Dual.seed [3, 4] [1, 0]) = some numbers ∧
        (∀ time,
          run? twiceCosine (moved [3, 4] [1, 0] time) =
            some (curves.map fun curve => curve time)) ∧
        List.Forall₂ Passes numbers curves :=
  run_dual_hasDerivAt twiceCosine_inScope rfl twiceCosine_regular

end Step

end Linkage
