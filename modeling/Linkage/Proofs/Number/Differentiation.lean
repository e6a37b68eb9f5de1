import Mathlib.Algebra.BigOperators.Group.List.Basic
import Mathlib.Data.List.GetD
import Mathlib.LinearAlgebra.Prod
import Linkage.Proofs.Number.Exact
import Linkage.Proofs.Number.Program
import Linkage.Proofs.Number.LawfulScalar

namespace Linkage

/-!
# Programs on dual numbers

A program is differentiated by the chain rule: the rate of a result is the sum
of the rates of its operands, each times the partial derivative by it.  Dual
numbers compute that sum in the form that suits each operation, division
through the reciprocal and the root through the root that was taken.

Rates may be numbers or elements of a vector space; whatever is linear about
them can be read off the chain rule, without a look at any operation.
-/

variable {K M N : Type}
variable [Field K] [Elementary K]

namespace Instruction

/-- The operands with the partial derivatives of the result by each of them. -/
def partials
    (values : List K) : Instruction K → List (Nat × K)
  | .literal _ => []
  | .zero => []
  | .one => []
  | .add first second => [(first, 1), (second, 1)]
  | .subtract first second => [(first, 1), (second, -1)]
  | .multiply first second =>
      [(first, values.getD second 0), (second, values.getD first 0)]
  | .divide first second =>
      [(first, 1 / values.getD second 0),
        (second, -values.getD first 0 / values.getD second 0 ^ 2)]
  | .negate operand => [(operand, -1)]
  | .sqrt operand =>
      [(operand, 1 / (two * Elementary.sqrt (values.getD operand 0)))]
  | .sin operand => [(operand, Elementary.cos (values.getD operand 0))]
  | .cos operand => [(operand, -Elementary.sin (values.getD operand 0))]

@[simp] theorem map_fst_partials
    (instruction : Instruction K)
    (values : List K) :
    (instruction.partials values).map Prod.fst = instruction.operands := by
  cases instruction <;> rfl

/-- Whether all operands are known to be constant. -/
def isConstant
    (flags : List Bool)
    (instruction : Instruction K) : Bool :=
  instruction.operands.all (flags.getD · false)

section Rates

variable [AddCommMonoid M] [Module K M]
variable [AddCommMonoid N] [Module K N]

/-- The chain rule; each register holds a value and its rate. -/
def rate
    (registers : List (K × M))
    (instruction : Instruction K) : M :=
  let values := registers.map Prod.fst
  let rates := registers.map Prod.snd
  ((instruction.partials values).map fun (operand, slope) =>
    slope • rates.getD operand 0).sum

/-- The result of an instruction and its rate. -/
def differentiate?
    (registers : List (K × M))
    (instruction : Instruction K) : Option (K × M) :=
  (instruction.result? (registers.map Prod.fst)).map fun value =>
    (value, instruction.rate registers)

/-- Rates that are mapped linearly give mapped rates. -/
theorem rate_map
    (change : M →ₗ[K] N)
    (instruction : Instruction K)
    (registers : List (K × M)) :
    instruction.rate (registers.map (Prod.map id change)) =
      change (instruction.rate registers) := by
  have sameValues :
      (registers.map (Prod.map id change)).map Prod.fst =
        registers.map Prod.fst := by
    simp [Function.comp_def]
  have mappedRates :
      (registers.map (Prod.map id change)).map Prod.snd =
        (registers.map Prod.snd).map change := by
    simp [Function.comp_def]
  have mapped (operand : Nat) :
      ((registers.map Prod.snd).map change).getD operand 0 =
        change ((registers.map Prod.snd).getD operand 0) := by
    rw [← List.getD_map _ _ change, map_zero]
  unfold rate
  simp only [sameValues, mappedRates, mapped]
  rw [map_list_sum, List.map_map]
  refine congrArg List.sum (List.map_congr_left fun entry _ => ?_)
  exact (map_smul change _ _).symm

/-- Where no operand moves, the result does not move. -/
theorem rate_eq_zero
    {instruction : Instruction K}
    {registers : List (K × M)}
    (resting :
      ∀ operand ∈ instruction.operands,
        (registers.map Prod.snd).getD operand 0 = 0) :
    instruction.rate registers = 0 := by
  refine List.sum_eq_zero fun term member => ?_
  obtain ⟨⟨operand, slope⟩, isPartial, rfl⟩ := List.mem_map.mp member
  have isOperand : operand ∈ instruction.operands := by
    rw [← map_fst_partials instruction (registers.map Prod.fst)]
    exact List.mem_map.mpr ⟨_, isPartial, rfl⟩
  exact
    (congrArg (slope • ·) (resting operand isOperand)).trans
      (smul_zero slope)

end Rates

variable [FusedMulAdd K] [LawfulFusedMulAdd K]

/-- A value and its rate, as one number. -/
def carrying
    (moving : K × K) : Dual K :=
  ⟨moving.1, moving.2⟩

omit [Elementary K] [FusedMulAdd K] [LawfulFusedMulAdd K] in
/-- The quotient rule as a sum over both operands. -/
theorem eps_div_eq_sum (a b : Dual K) :
    (a / b).eps = 1 / b.re * a.eps + -a.re / b.re ^ 2 * b.eps := by
  rw [Dual.eps_div]
  rcases eq_or_ne b.re 0 with isZero | notZero
  · simp [isZero]
  · field_simp
    ring

/-- Dual numbers obey the chain rule. -/
theorem result?_carrying
    (instruction : Instruction K)
    (registers : List (K × K)) :
    instruction.result? (registers.map carrying) =
      (instruction.differentiate? registers).map carrying := by
  cases instruction with
  | literal value => rfl
  | zero => rfl
  | one => rfl
  | add first second
  | subtract first second
  | multiply first second
  | divide first second =>
      cases firstFound : registers[first]? with
      | none =>
          simp [result?, differentiate?, firstFound]
      | some firstMoving =>
          cases secondFound : registers[second]? with
          | none =>
              simp [result?, differentiate?, firstFound, secondFound]
          | some secondMoving =>
              simp [result?, differentiate?, rate, partials, carrying,
                firstFound, secondFound, Dual.ext_iff, eps_div_eq_sum,
                sub_eq_add_neg, add_comm, mul_comm]
  | negate operand
  | sqrt operand
  | sin operand
  | cos operand =>
      cases found : registers[operand]? with
      | none =>
          simp [result?, differentiate?, found]
      | some moving =>
          simp [result?, differentiate?, rate, partials, carrying, found,
            Dual.ext_iff, div_eq_mul_inv, mul_comm]

end Instruction

namespace Step

section Rates

variable [AddCommMonoid M] [Module K M]
variable [AddCommMonoid N] [Module K N]
variable {program : List (Step K)}
variable {values results : List K}

/-- A program that goes through can be differentiated in any direction. -/
theorem differentiate?_goesThrough
    {directions : List M}
    (sameLength : values.length = directions.length)
    (goesThrough : run? program values = some results) :
    ∃ rates : List M,
      rates.length = results.length ∧
        runWith? Instruction.differentiate? program
            (values.zip directions) =
          some (results.zip rates) := by
  have sameValue {values : List K} {registers : List (K × M)} :
      List.Forall₂ (fun value moving => value = moving.1) values
          registers ↔
        values = registers.map Prod.fst := by
    rw [← List.forall₂_eq_eq_eq, List.forall₂_map_right_iff]
  have valuesInside :
      values = (values.zip directions).map Prod.fst :=
    (List.map_fst_zip (Nat.le_of_eq sameLength)).symm
  obtain ⟨movings, found, related⟩ :=
    runWith?_related (fun value (moving : K × M) => value = moving.1)
      Instruction.differentiate?
      (fun {instruction registers movings value} _ related found => by
        rw [sameValue.mp related] at found
        exact
          ⟨(value, instruction.rate movings),
            by rw [Instruction.differentiate?, found]; rfl, rfl⟩)
      (along_true _ program values) (sameValue.mpr valuesInside)
      goesThrough
  have resultsInside := sameValue.mp related
  refine ⟨movings.map Prod.snd, by simp [resultsInside], ?_⟩
  rw [found, ← List.zip_of_prod resultsInside.symm rfl]

/-- Directions that are mapped linearly give rates that are mapped. -/
theorem differentiate?_map
    (change : M →ₗ[K] N)
    {directions rates : List M}
    (goesThrough :
      runWith? Instruction.differentiate? program
          (values.zip directions) =
        some (results.zip rates)) :
    runWith? Instruction.differentiate? program
        (values.zip (directions.map change)) =
      some (results.zip (rates.map change)) := by
  rw [List.zip_map_right, List.zip_map_right]
  refine runWith?_map (fun instruction registers => ?_) goesThrough
  have sameValues :
      (registers.map (Prod.map id change)).map Prod.fst =
        registers.map Prod.fst := by
    simp [Function.comp_def]
  rw [Instruction.differentiate?, Instruction.rate_map, sameValues,
    Instruction.differentiate?, Option.map_map]
  rfl

/-- Rates that vanish wherever a register is flagged as constant. -/
def Resting
    (rates : List M)
    (flags : List Bool) : Prop :=
  List.Forall₂ (fun rate flag => flag = true → rate = 0) rates flags

/-- What is known to be constant after a program. -/
def constants? : List (Step K) → List Bool → Option (List Bool) :=
  runWith? fun flags instruction => some (instruction.isConstant flags)

theorem Resting.getD_eq_zero
    {rates : List M}
    {flags : List Bool}
    (resting : Resting rates flags)
    {index : Nat}
    (flagged : flags.getD index false = true) :
    rates.getD index 0 = 0 := by
  rw [List.getD_eq_getElem?_getD] at flagged ⊢
  cases found : rates[index]? with
  | none =>
      rfl
  | some rate =>
      obtain ⟨flag, flagFound, rests⟩ := related_getElem? resting found
      rw [flagFound] at flagged
      exact rests flagged

/-- What is computed from constants alone does not move. -/
theorem resting_of_constants
    {directions rates : List M}
    (sameLength : values.length = directions.length)
    (ratesLength : rates.length = results.length)
    (goesThrough :
      runWith? Instruction.differentiate? program
          (values.zip directions) =
        some (results.zip rates))
    {flags : List Bool}
    (resting : Resting directions flags) :
    ∃ after,
      constants? program flags = some after ∧ Resting rates after := by
  have movings {values : List K} {rates : List M} {flags : List Bool}
      (sameLength : values.length = rates.length) :
      Resting rates flags ↔
        List.Forall₂ (fun moving flag => flag = true → moving.2 = 0)
          (values.zip rates) flags := by
    have inside : (values.zip rates).map Prod.snd = rates :=
      List.map_snd_zip (Nat.le_of_eq sameLength.symm)
    conv_lhs => rw [← inside]
    exact List.forall₂_map_left_iff
  obtain ⟨after, found, related⟩ :=
    runWith?_related
      (fun (moving : K × M) flag => flag = true → moving.2 = 0)
      (fun flags instruction => some (instruction.isConstant flags))
      (fun {instruction registers flags moving} _ related found => by
        obtain ⟨value, _, rfl⟩ := Option.map_eq_some_iff.mp found
        refine ⟨_, rfl, fun constant => ?_⟩
        have operandsRest : Resting (registers.map Prod.snd) flags :=
          List.forall₂_map_left_iff.mpr related
        exact
          Instruction.rate_eq_zero fun operand member =>
            operandsRest.getD_eq_zero
              (List.all_eq_true.mp constant operand member))
      (along_true _ program _) ((movings sameLength).mp resting)
      goesThrough
  exact ⟨after, found, (movings ratesLength.symm).mpr related⟩

end Rates

section Seeds

variable [FusedMulAdd K] [LawfulFusedMulAdd K]
variable {program : List (Step K)}
variable {values directions results rates : List K}

omit [Field K] [Elementary K] [FusedMulAdd K] [LawfulFusedMulAdd K] in
theorem seed_eq_map_carrying
    (values directions : List K) :
    Dual.seed values directions =
      (values.zip directions).map Instruction.carrying :=
  (List.map_zip_eq_zipWith (f := Instruction.carrying)).symm

/-- A program on seeded numbers is differentiated along the seeds. -/
theorem run?_seed
    (goesThrough :
      runWith? Instruction.differentiate? program
          (values.zip directions) =
        some (results.zip rates)) :
    run? program (Dual.seed values directions) =
      some (Dual.seed results rates) := by
  rw [seed_eq_map_carrying, seed_eq_map_carrying]
  exact runWith?_map Instruction.result?_carrying goesThrough

/-- Numbers combined from those of two lists, place by place. -/
def combine
    (a : K)
    (first : List K)
    (b : K)
    (second : List K) : List K :=
  List.zipWith (fun x y => a * x + b * y) first second

omit [Elementary K] [FusedMulAdd K] [LawfulFusedMulAdd K] in
theorem combine_eq_map
    (a b : K)
    (pairs : List (K × K)) :
    combine a (pairs.map Prod.fst) b (pairs.map Prod.snd) =
      pairs.map
        (a • LinearMap.fst K K K + b • LinearMap.snd K K K) := by
  rw [combine, List.zipWith_map, List.zipWith_self]
  rfl

/--
Rates depend linearly on the direction: a program that is differentiated along
two directions is differentiated along all their combinations.
-/
theorem run?_seed_combine
    {others : List K}
    (sameLength : values.length = directions.length)
    (othersLength : values.length = others.length)
    (ratesLength : rates.length = results.length)
    (found : run? program values = some results)
    (goesThrough :
      runWith? Instruction.differentiate? program
          (values.zip directions) =
        some (results.zip rates)) :
    ∃ otherRates,
      otherRates.length = results.length ∧
        run? program (Dual.seed values others) =
          some (Dual.seed results otherRates) ∧
        ∀ a b,
          run? program
              (Dual.seed values (combine a directions b others)) =
            some (Dual.seed results (combine a rates b otherRates)) := by
  -- Both directions are followed at once, by rates that are pairs.
  obtain ⟨pairs, pairsLength, both⟩ :=
    differentiate?_goesThrough
      (show values.length = (directions.zip others).length by
        simp [← sameLength, ← othersLength])
      found
  have firstDirections : (directions.zip others).map Prod.fst = directions :=
    List.map_fst_zip (Nat.le_of_eq (sameLength.symm.trans othersLength))
  have secondDirections : (directions.zip others).map Prod.snd = others :=
    List.map_snd_zip (Nat.le_of_eq (othersLength.symm.trans sameLength))
  have sameRates : pairs.map Prod.fst = rates := by
    have alongFirst := differentiate?_map (LinearMap.fst K K K) both
    rw [show (directions.zip others).map (LinearMap.fst K K K) = directions
      from firstDirections, goesThrough] at alongFirst
    have zipped := congrArg (List.map Prod.snd) (Option.some.inj alongFirst)
    rw [List.map_snd_zip (Nat.le_of_eq ratesLength),
      List.map_snd_zip (by simp [pairsLength])] at zipped
    exact zipped.symm
  refine ⟨pairs.map Prod.snd, by simp [pairsLength], ?_, ?_⟩
  · have alongSecond := differentiate?_map (LinearMap.snd K K K) both
    rw [show (directions.zip others).map (LinearMap.snd K K K) = others
      from secondDirections] at alongSecond
    exact run?_seed alongSecond
  · intro a b
    have combined :=
      differentiate?_map
        (a • LinearMap.fst K K K + b • LinearMap.snd K K K) both
    rw [← combine_eq_map, ← combine_eq_map, firstDirections,
      secondDirections, sameRates] at combined
    exact run?_seed combined

/--
Running a program on dual numbers differentiates it.  A program all of whose
operands exist goes through; every register then holds its value on plain
numbers, and with it the rate that the chain rule gives along the seeds.  Rates
are linear in the seeds, and registers that are computed from constants alone
have none.  No divisor has to differ from zero for that, and no number under a
root has to be positive: the inverse of zero is zero on both sides.
-/
theorem run_dual_differentiates
    (inScope : InScope program values.length)
    (sameLength : values.length = directions.length) :
    ∃ results rates : List K,
      run? program values = some results ∧
        rates.length = results.length ∧
        runWith? Instruction.differentiate? program
            (values.zip directions) =
          some (results.zip rates) ∧
        run? program (Dual.seed values directions) =
          some (Dual.seed results rates) ∧
        (∀ others : List K,
          values.length = others.length →
          ∃ otherRates,
            otherRates.length = results.length ∧
              run? program (Dual.seed values others) =
                some (Dual.seed results otherRates) ∧
              ∀ a b,
                run? program
                    (Dual.seed values (combine a directions b others)) =
                  some
                    (Dual.seed results
                      (combine a rates b otherRates))) ∧
        ∀ flags,
          Resting directions flags →
          ∃ after,
            constants? program flags = some after ∧
              Resting rates after := by
  obtain ⟨results, found⟩ := run?_of_inScope inScope
  obtain ⟨rates, ratesLength, goesThrough⟩ :=
    differentiate?_goesThrough sameLength found
  refine
    ⟨results, rates, found, ratesLength, goesThrough,
      run?_seed goesThrough, ?_, ?_⟩
  · intro others othersLength
    exact
      run?_seed_combine sameLength othersLength ratesLength found
        goesThrough
  · intro flags resting
    exact resting_of_constants sameLength ratesLength goesThrough resting

end Seeds

/--
From two numbers, twice the quotient of the first by their hypotenuse; the sum
of the squares and the quotient are completed in place.
-/
def twiceCosine : List (Step ℝ) :=
  [.compute (.multiply 0 0),
    .compute (.multiply 1 1),
    .assign .add 2 3,
    .compute (.sqrt 2),
    .compute (.divide 0 4),
    .compute (.literal two),
    .assign .multiply 5 6]

theorem twiceCosine_inScope : InScope twiceCosine 2 := by
  rw [InScope]
  decide

/-- The square of the number that rests, and the factor, have no rate. -/
theorem run_dual_differentiates_twiceCosine :
    InScope twiceCosine 2 ∧
      ∃ results rates otherRates : List ℝ,
        run? twiceCosine [3, 4] = some results ∧
          run? twiceCosine (Dual.seed [3, 4] [1, 0]) =
            some (Dual.seed results rates) ∧
          rates[3]? = some 0 ∧
          rates[6]? = some 0 ∧
          run? twiceCosine (Dual.seed [3, 4] [0, 1]) =
            some (Dual.seed results otherRates) ∧
          run? twiceCosine
              (Dual.seed [3, 4] (combine 2 [1, 0] 5 [0, 1])) =
            some (Dual.seed results (combine 2 rates 5 otherRates)) := by
  have inScope : InScope twiceCosine [(3 : ℝ), 4].length :=
    twiceCosine_inScope
  have sameLength : [(3 : ℝ), 4].length = [(1 : ℝ), 0].length := rfl
  obtain ⟨results, rates, found, _, _, seeded, linear, constant⟩ :=
    run_dual_differentiates inScope sameLength
  obtain ⟨otherRates, _, otherSeeded, combined⟩ := linear [0, 1] rfl
  obtain ⟨after, afterFound, resting⟩ :=
    constant [false, true] (.cons nofun (.cons (fun _ => rfl) .nil))
  have flags : after = [false, true, false, true, false, false, true] :=
    (Option.some.inj afterFound).symm
  have rests {index : Nat} (flagged : after[index]? = some true) :
      rates[index]? = some 0 := by
    obtain ⟨rate, rateFound, isZero⟩ :=
      related_getElem? resting.flip flagged
    rw [rateFound, isZero rfl]
  exact
    ⟨inScope, results, rates, otherRates, found, seeded,
      rests (by rw [flags]; rfl), rests (by rw [flags]; rfl), otherSeeded,
      combined 2 5⟩

end Step

end Linkage
