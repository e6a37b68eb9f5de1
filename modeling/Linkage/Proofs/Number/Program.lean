import Mathlib.Data.List.Forall2
import Linkage.Number.Program
import Linkage.Proofs.Number.ScalarMap

namespace Linkage.Step

/-!
# Readings of a program

A program is run in one way and read in many: on numbers, on numbers that
carry rates, on what is known of a register.  Two readings that are related
instruction by instruction are related from the first register to the last; no
other induction over programs is needed.
-/

variable {K α β : Type}
variable {R : α → β → Prop}
variable {read : List α → Instruction K → Option α}
variable {other : List β → Instruction K → Option β}

theorem related_getElem?
    {registers : List α}
    {others : List β}
    (related : List.Forall₂ R registers others)
    {index : Nat}
    {content : α}
    (found : registers[index]? = some content) :
    ∃ otherContent,
      others[index]? = some otherContent ∧ R content otherContent := by
  induction related generalizing index with
  | nil =>
      cases found
  | cons head tail inductionHypothesis =>
      cases index with
      | zero =>
          cases found
          exact ⟨_, rfl, head⟩
      | succ index =>
          exact inductionHypothesis found

theorem related_set
    {registers : List α}
    {others : List β}
    (related : List.Forall₂ R registers others)
    {content : α}
    {otherContent : β}
    (new : R content otherContent)
    (index : Nat) :
    List.Forall₂ R (registers.set index content)
      (others.set index otherContent) := by
  induction related generalizing index with
  | nil =>
      exact .nil
  | cons head tail inductionHypothesis =>
      cases index with
      | zero =>
          exact .cons new tail
      | succ index =>
          exact .cons head (inductionHypothesis index)

/-- Related results are stored to related registers. -/
theorem related_store?
    {registers stored : List α}
    {others : List β}
    (related : List.Forall₂ R registers others)
    {result : α}
    {otherResult : β}
    (new : R result otherResult)
    {target : Option Nat}
    (isStored : store? registers result target = some stored) :
    ∃ otherStored,
      store? others otherResult target = some otherStored ∧
        List.Forall₂ R stored otherStored := by
  cases target with
  | none =>
      cases isStored
      exact ⟨_, rfl, List.rel_append related (.cons new .nil)⟩
  | some register =>
      rw [store?] at isStored
      split at isStored
      · rename_i inside
        cases isStored
        rw [related.length_eq] at inside
        exact ⟨_, if_pos inside, related_set related new register⟩
      · cases isStored

theorem runWith?_cons_eq_some_iff
    {step : Step K}
    {later : List (Step K)}
    {registers results : List α} :
    runWith? read (step :: later) registers = some results ↔
      ∃ result stored,
        read registers step.instruction = some result ∧
          store? registers result step.target = some stored ∧
          runWith? read later stored = some results := by
  simp [runWith?, Option.bind_eq_some_iff]

/-- What holds of each instruction of a run when its turn comes. -/
def Along
    (read : List α → Instruction K → Option α)
    (holds : List α → Instruction K → Prop) :
    List (Step K) → List α → Prop
  | [], _ => True
  | step :: later, registers =>
      holds registers step.instruction ∧
        ∀ result stored,
          read registers step.instruction = some result →
          store? registers result step.target = some stored →
          Along read holds later stored

/--
If another reading follows wherever this one goes through, instruction by
instruction, it goes through whole runs as well and ends in related registers.
-/
theorem runWith?_related
    (R : α → β → Prop)
    (other : List β → Instruction K → Option β)
    {holds : List α → Instruction K → Prop}
    (follows :
      ∀ {instruction : Instruction K}
        {registers : List α}
        {others : List β}
        {result : α},
        holds registers instruction →
        List.Forall₂ R registers others →
        read registers instruction = some result →
        ∃ otherResult,
          other others instruction = some otherResult ∧
            R result otherResult)
    {program : List (Step K)}
    {registers results : List α}
    {others : List β}
    (along : Along read holds program registers)
    (related : List.Forall₂ R registers others)
    (goesThrough : runWith? read program registers = some results) :
    ∃ otherResults,
      runWith? other program others = some otherResults ∧
        List.Forall₂ R results otherResults := by
  induction program generalizing registers others with
  | nil =>
      cases goesThrough
      exact ⟨others, rfl, related⟩
  | cons step later inductionHypothesis =>
      obtain ⟨now, afterwards⟩ := along
      obtain ⟨result, stored, found, isStored, rest⟩ :=
        runWith?_cons_eq_some_iff.mp goesThrough
      obtain ⟨otherResult, otherFound, new⟩ := follows now related found
      obtain ⟨otherStored, otherIsStored, storedRelated⟩ :=
        related_store? related new isStored
      obtain ⟨otherResults, otherRest, resultsRelated⟩ :=
        inductionHypothesis (afterwards result stored found isStored)
          storedRelated rest
      exact
        ⟨otherResults,
          runWith?_cons_eq_some_iff.mpr
            ⟨otherResult, otherStored, otherFound, otherIsStored,
              otherRest⟩,
          resultsRelated⟩

theorem along_true
    (read : List α → Instruction K → Option α)
    (program : List (Step K))
    (registers : List α) :
    Along read (fun _ _ => True) program registers := by
  induction program generalizing registers with
  | nil =>
      trivial
  | cons step later inductionHypothesis =>
      exact ⟨trivial, fun _ stored _ _ => inductionHypothesis stored⟩

/-- Registers are mapped if the content of each is. -/
theorem related_by_map_iff
    {change : α → β}
    {registers : List α}
    {others : List β} :
    List.Forall₂ (fun content otherContent =>
        change content = otherContent) registers others ↔
      registers.map change = others := by
  rw [← List.forall₂_eq_eq_eq, List.forall₂_map_left_iff]

/-- A map that each instruction passes on is passed on by a program. -/
theorem runWith?_map
    {change : α → β}
    (passesOn :
      ∀ (instruction : Instruction K) (registers : List α),
        other (registers.map change) instruction =
          (read registers instruction).map change)
    {program : List (Step K)}
    {registers results : List α}
    (goesThrough : runWith? read program registers = some results) :
    runWith? other program (registers.map change) =
      some (results.map change) := by
  obtain ⟨otherResults, found, related⟩ :=
    runWith?_related
      (fun content otherContent => change content = otherContent) other
      (fun {instruction registers others result} _ related found => by
        rw [← related_by_map_iff.mp related, passesOn, found]
        exact ⟨_, rfl, rfl⟩)
      (along_true read program registers) (related_by_map_iff.mpr rfl)
      goesThrough
  rw [found, related_by_map_iff.mp related]

/-- What holds of the instructions on the images held of them before. -/
theorem along_of_map
    {change : α → β}
    (passesOn :
      ∀ (instruction : Instruction K) (registers : List α),
        other (registers.map change) instruction =
          (read registers instruction).map change)
    {holds : List β → Instruction K → Prop}
    {program : List (Step K)}
    {registers : List α}
    (along : Along other holds program (registers.map change)) :
    Along read (fun registers => holds (registers.map change)) program
      registers := by
  induction program generalizing registers with
  | nil =>
      trivial
  | cons step later inductionHypothesis =>
      obtain ⟨now, afterwards⟩ := along
      refine ⟨now, fun result stored found isStored => ?_⟩
      obtain ⟨otherStored, otherIsStored, related⟩ :=
        related_store? (related_by_map_iff.mpr rfl) rfl isStored
      have otherFound :
          other (registers.map change) step.instruction =
            some (change result) := by
        rw [passesOn, found]
        rfl
      have rest := afterwards _ _ otherFound otherIsStored
      rw [← related_by_map_iff.mp related] at rest
      exact inductionHypothesis rest

/-- All operands of the instruction exist. -/
def inScope?
    (registers : List Unit)
    (instruction : Instruction K) : Option Unit :=
  if ∀ operand ∈ instruction.operands, operand < registers.length then
    some ()
  else
    none

/-- With a number of registers, every operand and every target exists. -/
def InScope
    (program : List (Step K))
    (count : Nat) : Prop :=
  runWith? inScope? program (List.replicate count ()) ≠ none

section Numbers

variable {T : Type}
variable [Zero T] [One T] [Add T] [Sub T] [Neg T] [Mul T] [Div T]
variable [Elementary T] [Constant K T]

/-- Where its operands exist, an instruction has a result. -/
theorem result?_of_operands
    {instruction : Instruction K}
    {registers : List T}
    (exist :
      ∀ operand ∈ instruction.operands, operand < registers.length) :
    ∃ result, instruction.result? registers = some result := by
  have binary {first second : Nat}
      (exist : ∀ operand ∈ [first, second], operand < registers.length) :
      ∃ firstContent secondContent,
        registers[first]? = some firstContent ∧
          registers[second]? = some secondContent :=
    ⟨_, _, List.getElem?_eq_getElem (exist first (by simp)),
      List.getElem?_eq_getElem (exist second (by simp))⟩
  have unary {operand : Nat}
      (exist : ∀ other ∈ [operand], other < registers.length) :
      ∃ content, registers[operand]? = some content :=
    ⟨_, List.getElem?_eq_getElem (exist operand (by simp))⟩
  cases instruction with
  | literal value => exact ⟨_, rfl⟩
  | zero => exact ⟨_, rfl⟩
  | one => exact ⟨_, rfl⟩
  | add first second
  | subtract first second
  | multiply first second
  | divide first second =>
      obtain ⟨_, _, firstFound, secondFound⟩ := binary exist
      exact ⟨_, by rw [Instruction.result?, firstFound, secondFound]; rfl⟩
  | negate operand
  | sqrt operand
  | sin operand
  | cos operand =>
      obtain ⟨_, found⟩ := unary exist
      exact ⟨_, by rw [Instruction.result?, found]; rfl⟩

/-- A program in scope goes through, whatever numbers it is run on. -/
theorem run?_of_inScope
    {program : List (Step K)}
    {registers : List T}
    (inScope : InScope program registers.length) :
    ∃ results, run? program registers = some results := by
  obtain ⟨shape, found⟩ := Option.ne_none_iff_exists'.mp inScope
  have related :
      List.Forall₂ (fun (_ : Unit) (_ : T) => True)
        (List.replicate registers.length ()) registers := by
    rw [List.forall₂_iff_get]
    exact ⟨List.length_replicate, fun _ _ _ => trivial⟩
  obtain ⟨results, resultsFound, _⟩ :=
    runWith?_related (fun _ _ => True) Instruction.result?
      (fun {instruction scope registers _} _ related found => by
        have exist :
            ∀ operand ∈ instruction.operands,
              operand < registers.length := by
          rw [inScope?] at found
          split at found
          · rename_i exist
            rwa [← related.length_eq]
          · cases found
        obtain ⟨result, resultFound⟩ := result?_of_operands exist
        exact ⟨result, resultFound, trivial⟩)
      (along_true inScope? program _) related found
  exact ⟨results, resultsFound⟩

variable {S : Type}
variable [Zero S] [One S] [Add S] [Sub S] [Neg S] [Mul S] [Div S]
variable [Elementary S] [Constant K S]

/-- A map that keeps the operations is passed on by every instruction. -/
theorem result?_map
    (f : S → T)
    [PreservesArithmetic f] [PreservesDivision f]
    [PreservesSqrt f] [PreservesTrigonometry f] [PreservesConstants K f]
    (instruction : Instruction K)
    (registers : List S) :
    instruction.result? (registers.map f) =
      (instruction.result? registers).map f := by
  cases instruction with
  | literal value =>
      exact congrArg some (PreservesConstants.map_constant value).symm
  | zero =>
      exact congrArg some PreservesArithmetic.map_zero.symm
  | one =>
      exact congrArg some PreservesArithmetic.map_one.symm
  | add first second
  | subtract first second
  | multiply first second
  | divide first second =>
      cases firstFound : registers[first]? <;>
        cases secondFound : registers[second]? <;>
        simp [Instruction.result?, firstFound, secondFound,
          PreservesArithmetic.map_add (f := f),
          PreservesArithmetic.map_sub (f := f),
          PreservesArithmetic.map_mul (f := f),
          PreservesDivision.map_div (f := f)]
  | negate operand
  | sqrt operand
  | sin operand
  | cos operand =>
      cases found : registers[operand]? <;>
        simp [Instruction.result?, found,
          PreservesArithmetic.map_neg (f := f),
          PreservesSqrt.map_sqrt (f := f),
          PreservesTrigonometry.map_sin (f := f),
          PreservesTrigonometry.map_cos (f := f)]

end Numbers

end Linkage.Step
