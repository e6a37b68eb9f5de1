import Mathlib.Data.List.Sort
import Linkage.Constraint.RowMask

namespace Linkage.RowMask

/-!
# Selecting rows

A mask selects from as many rows as it says, and every mask that its
constructors accept names only rows that exist.  Such a mask selects as many
rows as it counts, whether it passes the rows on or picks them one by one.  A
mask that was stored elsewhere may name other rows, and then selects nothing.

What a constructor makes even names its rows in order and none twice.  If it
names as many as there are, it therefore names all of them, and passing the
rows on is the same as picking them.
-/

variable {α : Type}

/-- Every selected row is one of the rows selected from. -/
def InRange (mask : RowMask) : Prop :=
  ∀ index ∈ mask.indices, index < mask.length

/-- The mask passes all rows on, or selects from rows that exist. -/
def Fits (mask : RowMask) : Prop :=
  mask.isFull = true ∨ mask.InRange

theorem fits_all (length : Nat) : (all length).Fits :=
  Or.inl (isFull_all length)

/-- The check of neighbours compares all pairs. -/
theorem increasing_iff_pairwise {indices : List Nat} :
    increasing indices = true ↔ indices.Pairwise (· < ·) := by
  rw [← List.isChain_iff_pairwise]
  induction indices with
  | nil =>
      simp [increasing]
  | cons first rest inductionHypothesis =>
      cases rest with
      | nil => simp [increasing]
      | cons second rest => simp [increasing, inductionHypothesis]

/-- What is checked of a list of rows: they exist and increase. -/
theorem checked_iff
    {length : Nat}
    {indices : List Nat} :
    (indices.all (· < length) && increasing indices) = true ↔
      (∀ index ∈ indices, index < length) ∧
        indices.Pairwise (· < ·) := by
  simp [increasing_iff_pairwise]

/-- A list of rows is accepted if its rows exist and increase. -/
theorem ofIndices_eq_ok_iff
    {K : Type}
    {length : Nat}
    {indices : List Nat}
    {mask : RowMask} :
    (ofIndices length indices : Except (Refusal K) RowMask) =
        .ok mask ↔
      (∀ index ∈ indices, index < length) ∧
        indices.Pairwise (· < ·) ∧
        mask = ⟨length, indices⟩ := by
  rw [ofIndices, ← and_assoc, ← checked_iff]
  split
  · rename_i checked
    simp [checked, eq_comm]
  · rename_i refused
    simp [refused]

/-- Any other list of rows is refused. -/
theorem ofIndices_eq_error_iff
    {K : Type}
    {length : Nat}
    {indices : List Nat}
    {refusal : Refusal K} :
    (ofIndices length indices : Except (Refusal K) RowMask) =
        .error refusal ↔
      ¬ ((∀ index ∈ indices, index < length) ∧
          indices.Pairwise (· < ·)) ∧
        refusal = .invalidActiveRows indices length := by
  rw [ofIndices, ← checked_iff]
  split
  · rename_i checked
    simp [checked]
  · rename_i refused
    simp [refused, eq_comm]

/-- An accepted list of rows names only rows that exist. -/
theorem fits_of_ofIndices
    {K : Type}
    {length : Nat}
    {indices : List Nat}
    {mask : RowMask}
    (accepted :
      (ofIndices length indices : Except (Refusal K) RowMask) =
        .ok mask) :
    mask.Fits := by
  obtain ⟨bounded, _, rfl⟩ := ofIndices_eq_ok_iff.mp accepted
  exact Or.inr bounded

/-- Rows that exist are found one by one. -/
theorem map_getElem?_eq_filterMap
    {indices : List Nat}
    {rows : List α}
    (bounded : ∀ index ∈ indices, index < rows.length) :
    indices.map (rows[·]?) = (indices.filterMap (rows[·]?)).map some := by
  induction indices with
  | nil =>
      rfl
  | cons index rest inductionHypothesis =>
      have inside : index < rows.length := bounded index (by simp)
      have later :=
        inductionHypothesis fun other member =>
          bounded other (by simp [member])
      rw [List.filterMap_cons, List.map_cons, later,
        List.getElem?_eq_getElem inside]
      rfl

/-- As many are found as are asked for. -/
theorem length_filterMap_getElem?
    {indices : List Nat}
    {rows : List α}
    (bounded : ∀ index ∈ indices, index < rows.length) :
    (indices.filterMap (rows[·]?)).length = indices.length := by
  have lengths :=
    congrArg List.length (map_getElem?_eq_filterMap bounded)
  rw [List.length_map, List.length_map] at lengths
  exact lengths.symm

variable {mask : RowMask}
variable {rows : List α}

/-- A mask that fits selects. -/
theorem trySelect_eq_select
    (fits : mask.Fits)
    (sameLength : rows.length = mask.length) :
    mask.trySelect rows = .ok (mask.select rows) := by
  refine if_pos (Bool.or_eq_true_iff.mpr (fits.imp_right ?_))
  intro inRange
  refine List.all_eq_true.mpr fun index member => decide_eq_true ?_
  rw [sameLength]
  exact inRange index member

/-- Rows that were found are selected from. -/
theorem bind_trySelect
    (fits : mask.Fits)
    {found : Except Misuse (List α)}
    (rowsFound : found = .ok rows)
    (sameLength : rows.length = mask.length) :
    found >>= mask.trySelect = .ok (mask.select rows) := by
  rw [rowsFound]
  exact trySelect_eq_select fits sameLength

/-- A mask that fits selects as many rows as it counts. -/
theorem length_select
    (fits : mask.Fits)
    (sameLength : rows.length = mask.length) :
    (mask.select rows).length = mask.count := by
  by_cases full : mask.isFull = true
  · have allSelected : mask.indices.length = mask.length :=
      beq_iff_eq.mp full
    rw [select, if_pos full, sameLength, count, allSelected]
  · rw [select, if_neg full, count]
    refine length_filterMap_getElem? fun index member => ?_
    rw [sameLength]
    exact fits.resolve_left full index member

/-- Selected rows are rows that were there. -/
theorem mem_of_mem_select
    {row : α}
    (selected : row ∈ mask.select rows) :
    row ∈ rows := by
  by_cases full : mask.isFull = true
  · rwa [select, if_pos full] at selected
  · rw [select, if_neg full] at selected
    obtain ⟨index, _, found⟩ := List.mem_filterMap.mp selected
    exact List.mem_of_getElem? found

/-- Masks made by listing every row, or by listing some that were accepted. -/
inductive Made : RowMask → Prop where
  | all (length : Nat) :
      Made (all length)
  | ofIndices
      {K : Type}
      {length : Nat}
      {indices : List Nat}
      {mask : RowMask} :
      (ofIndices length indices : Except (Refusal K) RowMask) =
        .ok mask →
      Made mask

/-- Increasing numbers below a length are some of the numbers below it. -/
theorem sublist_range_of_increasing
    {indices : List Nat}
    {length : Nat}
    (increasing : indices.Pairwise (· < ·))
    (bounded : ∀ index ∈ indices, index < length) :
    indices.Sublist (List.range length) := by
  have inside : indices ⊆ List.range length :=
    fun index member => List.mem_range.mpr (bounded index member)
  exact
    List.sublist_of_subperm_of_pairwise
      (List.subperm_of_subset increasing.nodup inside) increasing List.pairwise_lt_range

/-- A mask that was made names some of its rows, in order. -/
theorem Made.sublist_range
    (made : mask.Made) :
    mask.indices.Sublist (List.range mask.length) := by
  cases made with
  | all length =>
      exact List.Sublist.refl _
  | ofIndices accepted =>
      obtain ⟨bounded, increases, rfl⟩ := ofIndices_eq_ok_iff.mp accepted
      exact sublist_range_of_increasing increases bounded

theorem Made.inRange
    (made : mask.Made) :
    mask.InRange :=
  fun _ member => List.mem_range.mp (made.sublist_range.subset member)

/-- A mask that was made names as many rows as there are only if it is full. -/
theorem Made.indices_of_isFull
    (made : mask.Made)
    (full : mask.isFull = true) :
    mask.indices = List.range mask.length :=
  made.sublist_range.eq_of_length
    ((beq_iff_eq.mp full).trans List.length_range.symm)

/-- The selected rows are those that the mask names, one by one. -/
theorem Made.map_indices
    (made : mask.Made)
    (sameLength : rows.length = mask.length) :
    mask.indices.map (rows[·]?) = (mask.select rows).map some := by
  by_cases full : mask.isFull = true
  · rw [select, if_pos full, made.indices_of_isFull full, ← sameLength]
    refine List.ext_getElem (by simp) fun index inside _ => ?_
    simp at inside
    simp [inside]
  · rw [select, if_neg full]
    refine map_getElem?_eq_filterMap fun index member => ?_
    rw [sameLength]
    exact made.inRange index member

end Linkage.RowMask
