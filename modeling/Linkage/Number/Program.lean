import Linkage.Number.Basic

namespace Linkage

/-!
# Straight-line programs

A straight-line program computes numbers one after the other from the contents
of registers.  The result of an instruction goes to a new register, or
overwrites one that is there.  The same program runs on any number type, so
running it on dual numbers differentiates it.

A program only asks how its instructions are read: what an instruction makes of
the registers.  On numbers it computes a number; other readings tell something
about the program.
-/

/-- An instruction of a program; operands are register numbers. -/
inductive Instruction (K : Type) where
  /-- A constant. -/
  | literal (value : K)
  | zero
  | one
  | add (first second : Nat)
  | subtract (first second : Nat)
  | multiply (first second : Nat)
  | divide (first second : Nat)
  | negate (operand : Nat)
  | sqrt (operand : Nat)
  | sin (operand : Nat)
  | cos (operand : Nat)
  deriving Repr, DecidableEq

namespace Instruction

variable {K T : Type}

/-- The registers that an instruction reads. -/
def operands : Instruction K → List Nat
  | .literal _ => []
  | .zero => []
  | .one => []
  | .add first second => [first, second]
  | .subtract first second => [first, second]
  | .multiply first second => [first, second]
  | .divide first second => [first, second]
  | .negate operand => [operand]
  | .sqrt operand => [operand]
  | .sin operand => [operand]
  | .cos operand => [operand]

variable [Zero T] [One T] [Add T] [Sub T] [Neg T] [Mul T] [Div T]
variable [Elementary T] [Constant K T]

/-- Result of an instruction, if its operands exist. -/
def result?
    (registers : List T) :
    Instruction K → Option T
  | .literal value => some (Constant.constant value)
  | .zero => some 0
  | .one => some 1
  | .add first second => do
      return (← registers[first]?) + (← registers[second]?)
  | .subtract first second => do
      return (← registers[first]?) - (← registers[second]?)
  | .multiply first second => do
      return (← registers[first]?) * (← registers[second]?)
  | .divide first second => do
      return (← registers[first]?) / (← registers[second]?)
  | .negate operand => do
      return -(← registers[operand]?)
  | .sqrt operand => (registers[operand]?).map Elementary.sqrt
  | .sin operand => (registers[operand]?).map Elementary.sin
  | .cos operand => (registers[operand]?).map Elementary.cos

end Instruction

/-- A step of a program: an instruction and where its result goes. -/
structure Step (K : Type) where
  instruction : Instruction K
  /-- The register that is overwritten; without one, a new one is appended. -/
  target : Option Nat
  deriving Repr, DecidableEq

namespace Step

variable {K T : Type}

/-- Compute a new register. -/
def compute
    (instruction : Instruction K) : Step K :=
  ⟨instruction, none⟩

/-- Combine a register with another one, in place. -/
def assign
    (operation : Nat → Nat → Instruction K)
    (register operand : Nat) : Step K :=
  ⟨operation register operand, some register⟩

/-- Put a result where it goes, if there is such a register. -/
def store?
    {α : Type}
    (registers : List α)
    (result : α) : Option Nat → Option (List α)
  | none => some (registers ++ [result])
  | some register =>
      if register < registers.length then
        some (registers.set register result)
      else
        none

/-- Run a program whose instructions are read in a given way. -/
def runWith?
    {α : Type}
    (read : List α → Instruction K → Option α) :
    List (Step K) → List α → Option (List α)
  | [], registers => some registers
  | step :: later, registers => do
      let result ← read registers step.instruction
      let stored ← store? registers result step.target
      runWith? read later stored

/-- Run a program on numbers. -/
def run?
    [Zero T] [One T] [Add T] [Sub T] [Neg T] [Mul T] [Div T]
    [Elementary T] [Constant K T] :
    List (Step K) → List T → Option (List T) :=
  runWith? Instruction.result?

end Step

end Linkage
