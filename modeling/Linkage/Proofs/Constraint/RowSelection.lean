import Linkage.Proofs.Constraint.RowMask

namespace Linkage.RowMask

/-!
# What a mask means

A mask means the list of its indices.  Whether a row is selected is decided by
searching that list in halves, and a mask that counts as many indices as there
are rows passes the rows on without reading the list.  Both agree with the list
because it increases and stays in range, which every constructor has checked.
-/

/-- What is found is one of the indices, whatever their order. -/
theorem mem_of_searchWindow
    {indices : List Nat}
    {row low high : Nat}
    (found : searchWindow indices row low high = true) :
    row ∈ indices := by
  fun_induction searchWindow indices row low high with
  | case1 low high nonempty middle nothing =>
      cases found
  | case2 low high nonempty middle isThere =>
      exact List.mem_of_getElem? isThere
  | case3 low high nonempty middle other isThere differs below
      inductionHypothesis =>
      exact inductionHypothesis found
  | case4 low high nonempty middle other isThere differs notBelow
      inductionHypothesis =>
      exact inductionHypothesis found
  | case5 low high isEmpty =>
      cases found

/-- Of increasing indices, the one at the earlier place is the smaller one. -/
theorem lt_of_place_lt
    {indices : List Nat}
    (increases : indices.Pairwise (· < ·))
    {place later first second : Nat}
    (before : place < later)
    (found : indices[place]? = some first)
    (laterFound : indices[later]? = some second) :
    first < second := by
  obtain ⟨inside, rfl⟩ := List.getElem?_eq_some_iff.mp found
  obtain ⟨laterInside, rfl⟩ := List.getElem?_eq_some_iff.mp laterFound
  exact
    List.pairwise_iff_getElem.mp increases place later inside laterInside
      before

/-- Among increasing indices, one that stands in the window is found. -/
theorem searchWindow_of_getElem?
    {indices : List Nat}
    (increases : indices.Pairwise (· < ·))
    {row place low high : Nat}
    (notBefore : low ≤ place)
    (notBehind : place < high)
    (inside : high ≤ indices.length)
    (found : indices[place]? = some row) :
    searchWindow indices row low high = true := by
  -- Each turn keeps the place of the row in the half that is left.
  fun_induction searchWindow indices row low high with
  | case1 low high nonempty middle nothing =>
      have beyond : indices.length ≤ middle :=
        List.getElem?_eq_none_iff.mp nothing
      omega
  | case2 low high nonempty middle isThere =>
      rfl
  | case3 low high nonempty middle other isThere differs below
      inductionHypothesis =>
      have right : middle < place := by
        rcases Nat.lt_trichotomy place middle with left | rfl | right
        · have above := lt_of_place_lt increases left found isThere
          omega
        · rw [isThere] at found
          exact absurd (Option.some.inj found) differs
        · exact right
      exact inductionHypothesis right notBehind inside
  | case4 low high nonempty middle other isThere differs notBelow
      inductionHypothesis =>
      have left : place < middle := by
        rcases Nat.lt_trichotomy place middle with left | rfl | right
        · exact left
        · rw [isThere] at found
          exact absurd (Option.some.inj found) differs
        · have above := lt_of_place_lt increases right isThere found
          exact absurd above notBelow
      exact inductionHypothesis notBefore left (by omega)
  | case5 low high isEmpty =>
      omega

variable {mask : RowMask}

/-- A mask that was made names its rows in order. -/
theorem Made.increases
    (made : mask.Made) :
    mask.indices.Pairwise (· < ·) :=
  List.pairwise_lt_range.sublist made.sublist_range

/-- Of a mask that was made, the search finds all indices and nothing else. -/
theorem Made.isActive_iff
    (made : mask.Made)
    (row : Nat) :
    mask.isActive row = true ↔ row ∈ mask.indices := by
  constructor
  · exact mem_of_searchWindow
  · intro member
    obtain ⟨place, inside, found⟩ := List.mem_iff_getElem.mp member
    refine
      searchWindow_of_getElem? made.increases (Nat.zero_le place) inside
        (Nat.le_refl _) ?_
    exact List.getElem?_eq_some_iff.mpr ⟨inside, found⟩

/-- A mask that was made counts as many rows as there are if it lists all. -/
theorem Made.isFull_iff
    (made : mask.Made) :
    mask.isFull = true ↔ mask = RowMask.all mask.length := by
  constructor
  · intro full
    rw [RowMask.all, ← made.indices_of_isFull full]
  · intro isAll
    rw [isAll]
    exact isFull_all mask.length

/--
A mask is made of a list of rows exactly if they exist and increase.  Whatever
made it, it selects the rows that it lists and no others; it is full exactly if
it is the mask of all rows; and it takes from as many rows as it is for, entries
of a vector or rows of a matrix, those at its indices in their order, as many as
it counts.
-/
theorem mask_means_its_indices
    {K : Type} :
    (∀ (length : Nat) (indices : List Nat),
        (∀ mask : RowMask,
          (ofIndices length indices : Except (Refusal K) RowMask) =
              .ok mask ↔
            (∀ index ∈ indices, index < length) ∧
              indices.Pairwise (· < ·) ∧
              mask = ⟨length, indices⟩) ∧
          ∀ refusal : Refusal K,
            (ofIndices length indices : Except (Refusal K) RowMask) =
                .error refusal ↔
              ¬ ((∀ index ∈ indices, index < length) ∧
                  indices.Pairwise (· < ·)) ∧
                refusal = .invalidActiveRows indices length) ∧
      ∀ {mask : RowMask},
        mask.Made →
        (∀ row, mask.isActive row = true ↔ row ∈ mask.indices) ∧
          (mask.isFull = true ↔ mask = all mask.length) ∧
          ∀ {α : Type} (rows : List α),
            rows.length = mask.length →
            mask.trySelect rows = .ok (mask.select rows) ∧
              (mask.select rows).length = mask.count ∧
              (mask.select rows).map some =
                mask.indices.map (rows[·]?) := by
  refine ⟨fun length indices => ⟨?_, ?_⟩, ?_⟩
  · intro mask
    exact ofIndices_eq_ok_iff
  · intro refusal
    exact ofIndices_eq_error_iff
  · intro mask made
    refine ⟨made.isActive_iff, made.isFull_iff, ?_⟩
    intro α rows sameLength
    have fits : mask.Fits := .inr made.inRange
    exact
      ⟨trySelect_eq_select fits sameLength,
        length_select fits sameLength,
        (made.map_indices sameLength).symm⟩

/--
Of four rows, the second and the fourth: a repeated row and a row that does not
exist are refused, and a row beyond all rows is not selected.  The mask of all
four passes the rows on.
-/
theorem mask_means_its_indices_four :
    (ofIndices 4 [1, 3] : Except (Refusal Float) RowMask) =
        .ok ⟨4, [1, 3]⟩ ∧
      (ofIndices 4 [1, 1] : Except (Refusal Float) RowMask) =
        .error (.invalidActiveRows [1, 1] 4) ∧
      (ofIndices 4 [1, 4] : Except (Refusal Float) RowMask) =
        .error (.invalidActiveRows [1, 4] 4) ∧
      (⟨4, [1, 3]⟩ : RowMask).isActive 3 = true ∧
      (⟨4, [1, 3]⟩ : RowMask).isActive 9 = false ∧
      (⟨4, [1, 3]⟩ : RowMask) ≠ all 4 ∧
      (⟨4, [1, 3]⟩ : RowMask).trySelect [10, 11, 12, 13] =
        .ok [11, 13] ∧
      (all 4).trySelect [10, 11, 12, 13] = .ok [10, 11, 12, 13] := by
  have rules := mask_means_its_indices (K := Float)
  have accepted := ((rules.1 4 [1, 3]).1 ⟨4, [1, 3]⟩).mpr (by decide)
  have repeated :=
    ((rules.1 4 [1, 1]).2 (.invalidActiveRows [1, 1] 4)).mpr
      ⟨by decide, rfl⟩
  have outside :=
    ((rules.1 4 [1, 4]).2 (.invalidActiveRows [1, 4] 4)).mpr
      ⟨by decide, rfl⟩
  obtain ⟨active, full, selects⟩ := rules.2 (.ofIndices accepted)
  obtain ⟨_, _, selectsAll⟩ := rules.2 (.all 4)
  have notActive : ¬ (⟨4, [1, 3]⟩ : RowMask).isActive 9 = true :=
    (active 9).not.mpr (by decide)
  exact
    ⟨accepted, repeated, outside, (active 3).mpr (by decide),
      Bool.eq_false_iff.mpr notActive, full.not.mp (by decide),
      (selects [10, 11, 12, 13] rfl).1,
      (selectsAll [10, 11, 12, 13] rfl).1⟩

end Linkage.RowMask
