import Linkage.Constraint.Basic
import Linkage.Text.Quoted

namespace Linkage

/-!
# Constraint sets

A set stacks the rows of constraints that share one model, in the order in
which they were added.  Each member can be disabled; a disabled member keeps its
index but contributes no rows.

Two layouts number the stacked rows: the full layout counts every row of the
enabled members, the active layout only those that take part.
-/

/-- A constraint of a set. -/
structure Member (K T : Type) where
  constraint : Constraint K T
  enabled : Bool

/-- An ordered collection of constraints over one model. -/
structure ConstraintSet (K T : Type) where
  model : Model K
  members : List (Member K T)

/-- A change of a set, as its journal records it. -/
inductive SetChange where
  /-- A constraint was added, enabled, at the given index. -/
  | added (index rows : Nat) (name : String)
  /-- The constraint at the given index was switched on or off. -/
  | toggled (index : Nat) (name : String) (enabled : Bool)
  deriving Repr, DecidableEq

/-- A half-open range of row numbers. -/
structure RowRange where
  start : Nat
  stop : Nat
  deriving Repr, DecidableEq

namespace ConstraintSet

variable {K T : Type}

/-- The set without members. -/
def empty
    (model : Model K) : ConstraintSet K T :=
  ⟨model, []⟩

/-- Number of members, enabled or not. -/
def size
    (set : ConstraintSet K T) : Nat :=
  set.members.length

/-- The member at an index. -/
def member
    (set : ConstraintSet K T)
    (index : Nat) : Except (Refusal K) (Member K T) :=
  match set.members[index]? with
  | some member => .ok member
  | none => .error (.constraintNotFound index set.size)

/-- Append a constraint made on the model of the set; it starts enabled. -/
def add
    (set : ConstraintSet K T)
    (constraint : Constraint K T) :
    Except (Refusal K) (ConstraintSet K T × SetChange) :=
  if constraint.model.identity = set.model.identity then
    .ok
      ({ set with members := set.members ++ [⟨constraint, true⟩] },
        .added set.size constraint.length constraint.name)
  else
    .error (.modelMismatch constraint.name)

/-- Switch a member on or off.  Only a real change is recorded. -/
def setEnabled
    (set : ConstraintSet K T)
    (index : Nat)
    (enabled : Bool) :
    Except (Refusal K) (ConstraintSet K T × Option SetChange) := do
  let member ← set.member index
  let change : Option SetChange :=
    if member.enabled = enabled then
      none
    else
      some (.toggled index member.constraint.name enabled)
  .ok
    ({ set with
        members := set.members.set index { member with enabled } },
      change)

/-- Constraints of the enabled members, in order. -/
def enabledConstraints
    (members : List (Member K T)) : List (Constraint K T) :=
  (members.filter (·.enabled)).map (·.constraint)

/-- Sum over the enabled members of a count of rows. -/
def rowTotal
    (count : Constraint K T → Nat)
    (members : List (Member K T)) : Nat :=
  (enabledConstraints members).foldr
    (fun constraint total => count constraint + total) 0

@[simp] theorem rowTotal_nil (count : Constraint K T → Nat) :
    rowTotal count [] = 0 := rfl

/-- A member counts if it is enabled. -/
@[simp] theorem rowTotal_cons
    (count : Constraint K T → Nat)
    (member : Member K T)
    (rest : List (Member K T)) :
    rowTotal count (member :: rest) =
      (if member.enabled then count member.constraint else 0) +
        rowTotal count rest := by
  cases enabled : member.enabled <;>
    simp [rowTotal, enabledConstraints, enabled]

/-- Counts of two parts of a set add up. -/
theorem rowTotal_append
    (count : Constraint K T → Nat)
    (first second : List (Member K T)) :
    rowTotal count (first ++ second) =
      rowTotal count first + rowTotal count second := by
  induction first with
  | nil => simp
  | cons member rest inductionHypothesis =>
      simp only [List.cons_append, rowTotal_cons, inductionHypothesis]
      omega

/-- Rows of the enabled members. -/
def fullCount
    (set : ConstraintSet K T) : Nat :=
  rowTotal (·.length) set.members

/-- Rows of the enabled members that take part. -/
def activeCount
    (set : ConstraintSet K T) : Nat :=
  rowTotal (·.activeCount) set.members

/-- First row of a member in the full layout; a disabled one would start there. -/
def fullStart
    (set : ConstraintSet K T)
    (index : Nat) : Except (Refusal K) Nat := do
  let _ ← set.member index
  .ok (rowTotal (·.length) (set.members.take index))

/-- First row of a member in the active layout. -/
def activeStart
    (set : ConstraintSet K T)
    (index : Nat) : Except (Refusal K) Nat := do
  let _ ← set.member index
  .ok (rowTotal (·.activeCount) (set.members.take index))

/-- Rows of a member in the full layout; a disabled one has none. -/
def fullRows
    (set : ConstraintSet K T)
    (index : Nat) : Except (Refusal K) (Option RowRange) := do
  let start ← set.fullStart index
  let member ← set.member index
  if member.enabled then
    .ok (some ⟨start, start + member.constraint.length⟩)
  else
    .ok none

/-- Rows of a member in the active layout; a disabled one has none. -/
def activeRows
    (set : ConstraintSet K T)
    (index : Nat) : Except (Refusal K) (Option RowRange) := do
  let start ← set.activeStart index
  let member ← set.member index
  if member.enabled then
    .ok (some ⟨start, start + member.constraint.activeCount⟩)
  else
    .ok none

/-- Write a block of rows into a table, from a row on, if there is room. -/
def writeRows
    {α : Type}
    (table : List α)
    (row : Nat)
    (block : List α) : Except Misuse (List α) :=
  if row + block.length ≤ table.length then
    .ok (table.take row ++ block ++ table.drop (row + block.length))
  else
    .error .indexOutOfRange

/--
Write the rows of each constraint into a table, one constraint below the other.
A row of the table that is not written yet is `none`.
-/
def stackFrom
    {α : Type}
    (rows : Constraint K T → Except Misuse (List α)) :
    Nat → List (Option α) → List (Constraint K T) →
      Except Misuse (List (Option α))
  | _, table, [] => .ok table
  | row, table, constraint :: rest => do
      let block ← rows constraint
      let written ← writeRows table row (block.map some)
      stackFrom rows (row + block.length) written rest

/-- Rows of the enabled members, in a table with room for a number of rows. -/
def stack
    {α : Type}
    (set : ConstraintSet K T)
    (count : Nat)
    (rows : Constraint K T → Except Misuse (List α)) :
    Except Misuse (List (Option α)) :=
  stackFrom rows 0 (List.replicate count none)
    (enabledConstraints set.members)

/-- Stacked values; those never written are zero. -/
def stackValues
    [Zero T]
    (set : ConstraintSet K T)
    (count : Nat)
    (values : Constraint K T → Except Misuse (List T)) :
    Except Misuse (List T) :=
  List.map (·.getD 0) <$> set.stack count values

/-- Rows as they are, if each has the width of the table they go into. -/
def checkWidth
    (width : Nat)
    (rows : List (List T)) : Except Misuse (List (List T)) :=
  if rows.all (·.length == width) then
    .ok rows
  else
    .error .lengthsDiffer

/--
Stacked rows with one column for each coordinate; rows never written are zero.

Room for all of them is made before any member is read.  Rows that are found fit
into it: the snapshot they were computed from holds a position for each column.
So a table that cannot be laid out changes only which misuse is named.
-/
def stackTable
    [Zero T]
    (set : ConstraintSet K T)
    (count : Nat)
    (rows : Constraint K T → Except Misuse (List (List T))) :
    Except Misuse (List (List T)) :=
  let width := set.model.mechanism.dofCount
  match set.stack count (fun constraint =>
      rows constraint >>= checkWidth width) with
  | .ok table => .ok (table.map (·.getD (List.replicate width 0)))
  | .error misuse =>
      .error <|
        if count * width < entryLimit then
          misuse
        else
          .tableTooLarge

section Outputs

variable [Zero T]

/-- Stacked values. -/
def residual
    (set : ConstraintSet K T)
    (snapshot : Snapshot T) : Except Misuse (List T) :=
  set.stackValues set.fullCount (·.residual snapshot)

/-- Stacked Jacobian, row by row. -/
def jacobian
    (set : ConstraintSet K T)
    (snapshot : Snapshot T) : Except Misuse (List (List T)) :=
  set.stackTable set.fullCount (·.jacobian snapshot)

/-- Stacked bias. -/
def bias
    (set : ConstraintSet K T)
    (snapshot : Snapshot T) : Except Misuse (List T) :=
  set.stackValues set.fullCount (·.bias snapshot)

/-- Stacked values of the rows that take part. -/
def activeResidual
    (set : ConstraintSet K T)
    (snapshot : Snapshot T) : Except Misuse (List T) :=
  set.stackValues set.activeCount (·.activeResidual snapshot)

/-- Stacked Jacobian of the rows that take part. -/
def activeJacobian
    (set : ConstraintSet K T)
    (snapshot : Snapshot T) : Except Misuse (List (List T)) :=
  set.stackTable set.activeCount (·.activeJacobian snapshot)

/-- Stacked bias of the rows that take part. -/
def activeBias
    (set : ConstraintSet K T)
    (snapshot : Snapshot T) : Except Misuse (List T) :=
  set.stackValues set.activeCount (·.activeBias snapshot)

end Outputs

/-- Diagnostic text: the name and the flag of each member. -/
def text
    (set : ConstraintSet K T) : String :=
  let memberText (member : Member K T) : String :=
    "(" ++ quoted member.constraint.name ++ ", " ++
      (if member.enabled then "true" else "false") ++ ")"
  "KinematicEvaluatorSet \x7b members: [" ++
    ", ".intercalate (set.members.map memberText) ++ "], .. \x7d"

end ConstraintSet

end Linkage
