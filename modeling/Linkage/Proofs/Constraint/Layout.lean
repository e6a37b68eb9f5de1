import Mathlib.Data.List.Range
import Linkage.Constraint.Set

namespace Linkage

/-!
# Layouts of a set

A layout gives each enabled member a range of rows, as many as some count of
rows says.  A range starts where the enabled members before it end, so in the
order of the members the ranges cover all rows, each once.  The full and the
active layout are two cases of one definition.
-/

namespace RowRange

/-- The rows of a range, in order. -/
def rows (range : RowRange) : List Nat :=
  List.range' range.start (range.stop - range.start)

/-- Rows that start where others end continue them. -/
theorem range_append_rows (start length : Nat) :
    List.range start ++ RowRange.rows ⟨start, start + length⟩ =
      List.range (start + length) := by
  rw [rows, Nat.add_sub_cancel_left, List.range_eq_range',
    List.range_eq_range', ← List.range'_append_1, Nat.zero_add]

/-- The part of a table that stands at the rows of a range. -/
def slice
    {α : Type}
    (range : RowRange)
    (table : List α) : List α :=
  (table.drop range.start).take (range.stop - range.start)

/-- A block stands at the rows after those above it. -/
theorem slice_append
    {α : Type}
    (above block below : List α) :
    slice ⟨above.length, above.length + block.length⟩
        (above ++ (block ++ below)) =
      block := by
  rw [slice, List.drop_left, Nat.add_sub_cancel_left, List.take_left]

end RowRange

namespace ConstraintSet

variable {K T : Type}
variable {set : ConstraintSet K T}

/-- The range of a member, if each constraint has the given number of rows. -/
def rowsOf
    (set : ConstraintSet K T)
    (count : Constraint K T → Nat)
    (index : Nat) : Except (Refusal K) (Option RowRange) := do
  let member ← set.member index
  let start := rowTotal count (set.members.take index)
  if member.enabled then
    .ok (some ⟨start, start + count member.constraint⟩)
  else
    .ok none

/-- The full layout counts every row. -/
theorem fullRows_eq_rowsOf (set : ConstraintSet K T) :
    set.fullRows = set.rowsOf (·.length) := by
  funext index
  simp only [fullRows, fullStart, rowsOf]
  cases set.member index <;> rfl

/-- The active layout counts the rows that take part. -/
theorem activeRows_eq_rowsOf (set : ConstraintSet K T) :
    set.activeRows = set.rowsOf (·.activeCount) := by
  funext index
  simp only [activeRows, activeStart, rowsOf]
  cases set.member index <;> rfl

variable {count : Constraint K T → Nat}
variable {index : Nat}
variable {member : Member K T}

/-- An enabled member has the rows after those of the members before it. -/
theorem rowsOf_of_enabled
    (found : set.members[index]? = some member)
    (enabled : member.enabled = true) :
    set.rowsOf count index =
      .ok
        (some
          ⟨rowTotal count (set.members.take index),
            rowTotal count (set.members.take index) +
              count member.constraint⟩) := by
  simp only [rowsOf, ConstraintSet.member, found]
  change (if member.enabled = true then _ else _) = _
  rw [if_pos enabled]

/-- A disabled member has no rows. -/
theorem rowsOf_of_disabled
    (found : set.members[index]? = some member)
    (disabled : member.enabled = false) :
    set.rowsOf count index = .ok none := by
  simp only [rowsOf, ConstraintSet.member, found]
  change (if member.enabled = true then _ else _) = _
  rw [disabled, if_neg Bool.false_ne_true]

/-- Every member has an answer, which is a range unless it is disabled. -/
theorem rowsOf_isNone_iff_disabled
    (count : Constraint K T → Nat)
    (found : set.members[index]? = some member) :
    ∃ range?,
      set.rowsOf count index = .ok range? ∧
        (range? = none ↔ member.enabled = false) := by
  cases enabled : member.enabled with
  | true =>
      exact ⟨_, rowsOf_of_enabled found enabled, by simp⟩
  | false =>
      exact ⟨_, rowsOf_of_disabled found enabled, by simp⟩

/-- The range that a layout gives at an index, if it gives one. -/
def rangeAt?
    (layout : Nat → Except (Refusal K) (Option RowRange))
    (index : Nat) : Option RowRange :=
  (layout index).toOption.join

/-- The ranges of a layout, in the order of the members. -/
def ranges
    (set : ConstraintSet K T)
    (layout : Nat → Except (Refusal K) (Option RowRange)) :
    List RowRange :=
  (List.range set.size).filterMap (rangeAt? layout)

/-- The ranges of the first members cover the first rows, each once. -/
theorem rows_of_first_ranges
    (set : ConstraintSet K T)
    (count : Constraint K T → Nat)
    {first : Nat}
    (inside : first ≤ set.members.length) :
    ((List.range first).filterMap
          (rangeAt? (set.rowsOf count))).flatMap RowRange.rows =
      List.range (rowTotal count (set.members.take first)) := by
  induction first with
  | zero =>
      rfl
  | succ first inductionHypothesis =>
      have earlier := inductionHypothesis (Nat.le_of_succ_le inside)
      obtain ⟨member, found⟩ :
          ∃ member, set.members[first]? = some member :=
        ⟨_, List.getElem?_eq_getElem inside⟩
      rw [List.range_succ, List.filterMap_append, List.flatMap_append,
        earlier, List.take_add_one, found, rowTotal_append]
      cases enabled : member.enabled with
      | true =>
          have range : rangeAt? (set.rowsOf count) first = some _ :=
            congrArg (·.toOption.join) (rowsOf_of_enabled found enabled)
          rw [List.filterMap_cons_some range]
          simp [enabled, RowRange.range_append_rows]
      | false =>
          have noRange : rangeAt? (set.rowsOf count) first = none :=
            congrArg (·.toOption.join) (rowsOf_of_disabled found enabled)
          rw [List.filterMap_cons_none noRange]
          simp [enabled]

/-- The ranges of a layout cover all its rows, each once and in order. -/
theorem rows_of_ranges
    (set : ConstraintSet K T)
    (count : Constraint K T → Nat) :
    (set.ranges (set.rowsOf count)).flatMap RowRange.rows =
      List.range (rowTotal count set.members) := by
  have all := rows_of_first_ranges set count (Nat.le_refl _)
  rwa [List.take_length] at all

/--
A layout of a number of rows: every member has an answer, which is a range
unless it is disabled, and in the order of the members the ranges cover all
rows, each once.
-/
structure Tiles
    (set : ConstraintSet K T)
    (layout : Nat → Except (Refusal K) (Option RowRange))
    (total : Nat) : Prop where
  rows_eq :
    (set.ranges layout).flatMap RowRange.rows = List.range total
  isNone_iff_disabled :
    ∀ {index : Nat} {member : Member K T},
      set.members[index]? = some member →
      ∃ range?,
        layout index = .ok range? ∧
          (range? = none ↔ member.enabled = false)

/-- However the rows of a constraint are counted, the ranges tile them. -/
theorem tiles_rowsOf
    (set : ConstraintSet K T)
    (count : Constraint K T → Nat) :
    set.Tiles (set.rowsOf count) (rowTotal count set.members) where
  rows_eq := rows_of_ranges set count
  isNone_iff_disabled := rowsOf_isNone_iff_disabled count

end ConstraintSet

end Linkage
