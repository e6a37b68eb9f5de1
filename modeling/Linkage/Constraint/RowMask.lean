import Linkage.Error

namespace Linkage

/-!
# Row masks

A mask says which rows of a constraint take part.  It lists their indices in
increasing order, so the selected rows keep their order and none appears twice.
-/

/-- Some of the rows `0, …, length - 1`. -/
structure RowMask where
  /-- Number of rows selected from. -/
  length : Nat
  /-- Indices of the selected rows. -/
  indices : List Nat
  deriving Repr, DecidableEq

namespace RowMask

variable {α : Type}

/-- The mask that selects every row. -/
def all
    (length : Nat) : RowMask :=
  ⟨length, List.range length⟩

/-- The mask that selects every row, if its indices can be listed. -/
def tryAll
    (length : Nat) : Except Misuse RowMask :=
  if length < entryLimit then
    .ok (.all length)
  else
    .error .tableTooLarge

/-- Whether each number is below the one after it. -/
def increasing : List Nat → Bool
  | first :: second :: rest =>
      decide (first < second) && increasing (second :: rest)
  | _ => true

/-- The mask with the given rows, if they are in range and increase. -/
def ofIndices
    {K : Type}
    (length : Nat)
    (indices : List Nat) : Except (Refusal K) RowMask :=
  if indices.all (· < length) && increasing indices then
    .ok ⟨length, indices⟩
  else
    .error (.invalidActiveRows indices length)

/-- Number of selected rows. -/
def count
    (mask : RowMask) : Nat :=
  mask.indices.length

/-- Whether as many rows are selected as there are. -/
def isFull
    (mask : RowMask) : Bool :=
  mask.indices.length == mask.length

/--
Look for a row among the indices at places `low, …, high - 1` by halving that
window.
-/
def searchWindow
    (indices : List Nat)
    (row low high : Nat) : Bool :=
  if low < high then
    let middle := low + (high - low) / 2
    match indices[middle]? with
    | none => false
    | some found =>
        if found = row then
          true
        else if found < row then
          searchWindow indices row (middle + 1) high
        else
          searchWindow indices row low middle
  else
    false
termination_by high - low

/-- Whether a row is selected. -/
def isActive
    (mask : RowMask)
    (row : Nat) : Bool :=
  searchWindow mask.indices row 0 mask.indices.length

/-- The selected ones of a list of rows.  A full mask passes the list on. -/
def select
    (mask : RowMask)
    (rows : List α) : List α :=
  if mask.isFull then
    rows
  else
    mask.indices.filterMap (rows[·]?)

/-- The selected rows, if the mask names only rows of the list. -/
def trySelect
    (mask : RowMask)
    (rows : List α) : Except Misuse (List α) :=
  if mask.isFull || mask.indices.all (· < rows.length) then
    .ok (mask.select rows)
  else
    .error .indexOutOfRange

@[simp] theorem length_all (length : Nat) :
    (all length).length = length := rfl

@[simp] theorem indices_all (length : Nat) :
    (all length).indices = List.range length := rfl

/-- Listing every row gives the full mask, if it gives a mask at all. -/
theorem tryAll_eq_ok_iff {length : Nat} {mask : RowMask} :
    tryAll length = .ok mask ↔ length < entryLimit ∧ mask = all length := by
  by_cases listed : length < entryLimit <;>
    simp [tryAll, listed, eq_comm]

@[simp] theorem count_all (length : Nat) :
    (all length).count = length := by
  simp [count]

@[simp] theorem isFull_all (length : Nat) :
    (all length).isFull = true := by
  simp [isFull]

@[simp] theorem select_all (length : Nat) (rows : List α) :
    (all length).select rows = rows := by
  simp [select]

end RowMask

end Linkage
