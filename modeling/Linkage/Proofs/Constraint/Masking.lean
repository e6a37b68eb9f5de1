import Linkage.Proofs.Constraint.Made

namespace Linkage

/-!
# The active system is a masked full system

A set selects rows in each member and stacks what was selected.  The same comes
of stacking all rows first and selecting from the stack, by one mask that moves
the mask of each member to where its rows begin.
-/

variable {K T : Type} {α β : Type}

namespace ConstraintSet

/--
What an enabled member contributes, given the first row of its own in the full
layout; nothing for any other index.
-/
def atMember
    (set : ConstraintSet K T)
    (contribution : Nat → Constraint K T → List α)
    (index : Nat) : List α :=
  match set.fullStart index, set.member index with
  | .ok start, .ok member =>
      if member.enabled then
        contribution start member.constraint
      else
        []
  | _, _ => []

/-- The rows of the full layout that take part, in the order of the members. -/
def maskedRows
    (set : ConstraintSet K T) : List Nat :=
  (List.range set.size).flatMap
    (set.atMember fun start constraint =>
      constraint.rows.indices.map (start + ·))

variable {set : ConstraintSet K T}
variable {index : Nat}
variable {member : Member K T}

/-- A member's rows start behind those of the members before it. -/
theorem fullStart_eq
    (found : set.members[index]? = some member) :
    set.fullStart index =
      .ok (rowTotal (·.length) (set.members.take index)) := by
  simp only [fullStart, ConstraintSet.member, found]
  rfl

theorem activeStart_eq
    (found : set.members[index]? = some member) :
    set.activeStart index =
      .ok (rowTotal (·.activeCount) (set.members.take index)) := by
  simp only [activeStart, ConstraintSet.member, found]
  rfl

theorem atMember_of_enabled
    (found : set.members[index]? = some member)
    (enabled : member.enabled = true)
    (contribution : Nat → Constraint K T → List α) :
    set.atMember contribution index =
      contribution (rowTotal (·.length) (set.members.take index))
        member.constraint := by
  simp only [atMember, fullStart_eq found, ConstraintSet.member, found,
    enabled, if_true]

theorem atMember_of_disabled
    (found : set.members[index]? = some member)
    (disabled : member.enabled = false)
    (contribution : Nat → Constraint K T → List α) :
    set.atMember contribution index = [] := by
  simp only [atMember, fullStart_eq found, ConstraintSet.member, found,
    disabled, Bool.false_eq_true, if_false]

theorem member_of_mem_range
    (inside : index ∈ List.range set.size) :
    ∃ member, set.members[index]? = some member :=
  ⟨_, List.getElem?_eq_getElem (List.mem_range.mp inside)⟩

/-- Contributions that agree for every enabled member are the same. -/
theorem flatMap_atMember_congr
    {contribution other : Nat → Constraint K T → List α}
    (same :
      ∀ {index : Nat} {member : Member K T},
        set.members[index]? = some member →
        member.enabled = true →
        contribution (rowTotal (·.length) (set.members.take index))
            member.constraint =
          other (rowTotal (·.length) (set.members.take index))
            member.constraint) :
    (List.range set.size).flatMap (set.atMember contribution) =
      (List.range set.size).flatMap (set.atMember other) := by
  refine List.flatMap_congr fun index inside => ?_
  obtain ⟨member, found⟩ := member_of_mem_range inside
  cases enabled : member.enabled with
  | true =>
      rw [atMember_of_enabled found enabled, same found enabled,
        atMember_of_enabled found enabled]
  | false =>
      rw [atMember_of_disabled found enabled,
        atMember_of_disabled found enabled]

/-- Mapped contributions are contributed by mapping. -/
theorem map_flatMap_atMember
    (set : ConstraintSet K T)
    (change : α → β)
    (contribution : Nat → Constraint K T → List α)
    (indices : List Nat) :
    (indices.flatMap (set.atMember contribution)).map change =
      indices.flatMap
        (set.atMember fun start constraint =>
          (contribution start constraint).map change) := by
  rw [List.map_flatMap]
  refine List.flatMap_congr fun index _ => ?_
  unfold atMember
  split
  · split <;> rfl
  · rfl

/-- The first members contribute what the enabled ones among them do. -/
theorem flatMap_atMember_take
    (set : ConstraintSet K T)
    (contribution : Constraint K T → List α)
    {first : Nat}
    (inside : first ≤ set.size) :
    (List.range first).flatMap (set.atMember fun _ => contribution) =
      (enabledConstraints (set.members.take first)).flatMap
        contribution := by
  induction first with
  | zero =>
      rfl
  | succ first inductionHypothesis =>
      have earlier := inductionHypothesis (Nat.le_of_succ_le inside)
      obtain ⟨member, found⟩ :
          ∃ member, set.members[first]? = some member :=
        ⟨_, List.getElem?_eq_getElem inside⟩
      rw [List.range_succ, List.flatMap_append, earlier,
        List.flatMap_singleton, List.take_add_one, found,
        enabledConstraints_append, List.flatMap_append]
      cases enabled : member.enabled with
      | true =>
          rw [atMember_of_enabled found enabled]
          simp [enabledConstraints, enabled]
      | false =>
          rw [atMember_of_disabled found enabled]
          simp [enabledConstraints, enabled]

theorem flatMap_atMember
    (set : ConstraintSet K T)
    (contribution : Constraint K T → List α) :
    (List.range set.size).flatMap
        (set.atMember fun _ => contribution) =
      (enabledConstraints set.members).flatMap contribution := by
  have whole :=
    flatMap_atMember_take set contribution (Nat.le_refl _)
  rwa [size, List.take_length] at whole

/-- All rows of the enabled members are the rows of the full layout. -/
theorem flatMap_atMember_range
    (set : ConstraintSet K T) :
    (List.range set.size).flatMap
        (set.atMember fun start constraint =>
          (List.range constraint.length).map (start + ·)) =
      List.range set.fullCount := by
  rw [fullCount, ← rows_of_ranges, ranges,
    List.filterMap_eq_flatMap_toList, List.flatMap_assoc]
  refine List.flatMap_congr fun index inside => ?_
  obtain ⟨member, found⟩ := member_of_mem_range inside
  cases enabled : member.enabled with
  | true =>
      rw [atMember_of_enabled found enabled, rangeAt?,
        rowsOf_of_enabled found enabled]
      simp [RowRange.rows, List.range'_eq_map_range, Except.toOption]
  | false =>
      rw [atMember_of_disabled found enabled, rangeAt?,
        rowsOf_of_disabled found enabled]
      rfl

section Masks

variable
  (made :
    ∀ member ∈ set.members,
      member.enabled = true → member.constraint.rows.Made)

include made

theorem fits_of_enabled
    {constraint : Constraint K T}
    (inside : constraint ∈ enabledConstraints set.members) :
    constraint.rows.Fits := by
  obtain ⟨member, found, enabled, rfl⟩ := mem_enabledConstraints.mp inside
  exact Or.inr (made member found enabled).inRange

/-- What a member announces is selected, in the number that is active. -/
theorem selected_of_announced
    {rows : Constraint K T → Except Misuse (List α)}
    {block : Constraint K T → List α}
    (found :
      ∀ constraint ∈ enabledConstraints set.members,
        rows constraint = .ok (block constraint))
    (announced :
      ∀ constraint ∈ enabledConstraints set.members,
        (block constraint).length = constraint.length) :
    ∀ constraint ∈ enabledConstraints set.members,
      rows constraint >>= constraint.rows.trySelect =
          .ok (constraint.rows.select (block constraint)) ∧
        (constraint.rows.select (block constraint)).length =
          constraint.activeCount := by
  intro constraint inside
  have fits := fits_of_enabled made inside
  exact
    ⟨RowMask.bind_trySelect fits (found constraint inside)
        (announced constraint inside),
      RowMask.length_select fits (announced constraint inside)⟩

/-- The rows that take part are some of all rows, in their order. -/
theorem maskedRows_sublist :
    set.maskedRows.Sublist (List.range set.fullCount) := by
  rw [← flatMap_atMember_range, maskedRows]
  refine List.Sublist.flatMap_right _ fun index inside => ?_
  obtain ⟨member, found⟩ := member_of_mem_range inside
  cases enabled : member.enabled with
  | true =>
      have own := made member (List.mem_of_getElem? found) enabled
      rw [atMember_of_enabled found enabled,
        atMember_of_enabled found enabled]
      exact own.sublist_range.map _
  | false =>
      rw [atMember_of_disabled found enabled]
      exact List.nil_sublist _

/--
Selecting in each block and stacking is stacking the blocks and selecting the
rows that take part.
-/
theorem map_maskedRows
    {block : Constraint K T → List α}
    (announced :
      ∀ constraint ∈ enabledConstraints set.members,
        (block constraint).length = constraint.length) :
    set.maskedRows.map
        (((enabledConstraints set.members).flatMap block)[·]?) =
      ((enabledConstraints set.members).flatMap fun constraint =>
        constraint.rows.select (block constraint)).map some := by
  rw [maskedRows, map_flatMap_atMember, List.map_flatMap,
    ← flatMap_atMember set fun constraint =>
      (constraint.rows.select (block constraint)).map some]
  refine flatMap_atMember_congr fun {index member} found enabled => ?_
  obtain ⟨later, shape⟩ := enabledConstraints_split found enabled
  have own := made member (List.mem_of_getElem? found) enabled
  rw [shape] at announced ⊢
  have start :
      ((enabledConstraints (set.members.take index)).flatMap
          block).length =
        rowTotal (·.length) (set.members.take index) :=
    length_flatMap_eq_rowTotal fun constraint inside =>
      announced constraint (List.mem_append_left _ inside)
  have height := announced member.constraint (by simp)
  rw [← own.map_indices height, List.map_map]
  refine List.map_congr_left fun row selected => ?_
  have inBlock : row < (block member.constraint).length := by
    rw [height]
    exact own.inRange row selected
  rw [Function.comp_apply, ← start, List.flatMap_append,
    List.flatMap_cons, List.getElem?_append_right (by omega),
    Nat.add_sub_cancel_left, List.getElem?_append_left inBlock]

end Masks

/-- The moved masks of the first members name as many rows as are active. -/
theorem length_maskedRows_take
    (set : ConstraintSet K T)
    {first : Nat}
    (inside : first ≤ set.size) :
    ((List.range first).flatMap
        (set.atMember fun start constraint =>
          constraint.rows.indices.map (start + ·))).length =
      rowTotal (·.activeCount) (set.members.take first) := by
  have counted :=
    congrArg List.length
      (map_flatMap_atMember set (fun _ => ())
        (fun start constraint => constraint.rows.indices.map (start + ·))
        (List.range first))
  simp only [List.map_map, Function.comp_def] at counted
  rw [List.length_map, flatMap_atMember_take set _ inside,
    length_flatMap_eq_rowTotal fun _ _ => List.length_map ..] at counted
  exact counted

theorem length_maskedRows
    (set : ConstraintSet K T) :
    set.maskedRows.length = set.activeCount := by
  have whole := length_maskedRows_take set (Nat.le_refl _)
  rwa [size, List.take_length] at whole

/--
The rows of a member begin, among those that take part, where the active layout
says, and they are its mask, moved to where the full layout says.
-/
theorem getElem?_maskedRows
    (found : set.members[index]? = some member)
    (enabled : member.enabled = true)
    {place row : Nat}
    (selected : member.constraint.rows.indices[place]? = some row) :
    set.maskedRows[
        rowTotal (·.activeCount) (set.members.take index) + place]? =
      some (rowTotal (·.length) (set.members.take index) + row) := by
  have inside : index < set.size :=
    (List.getElem?_eq_some_iff.mp found).1
  obtain ⟨later, shape⟩ :
      ∃ later, List.range set.size = List.range index ++ index :: later := by
    obtain ⟨more, sum⟩ := Nat.exists_eq_add_of_lt inside
    rw [sum, Nat.add_assoc, List.range_add, List.range_succ_eq_map]
    exact ⟨_, rfl⟩
  have start := length_maskedRows_take set inside.le
  have inMask := (List.getElem?_eq_some_iff.mp selected).1
  rw [maskedRows, shape, List.flatMap_append, List.flatMap_cons, ← start,
    List.getElem?_append_right (Nat.le_add_right _ _),
    Nat.add_sub_cancel_left, atMember_of_enabled found enabled,
    List.getElem?_append_left (by simpa using inMask), List.getElem?_map,
    selected]
  rfl

end ConstraintSet

/-- Outputs that are the given rows of others. -/
structure Outputs.RowsOf
    (active full : Outputs T)
    (rows : List Nat) : Prop where
  residual :
    ∃ values chosen,
      full.residual = .ok values ∧
        active.residual = .ok chosen ∧
        rows.map (values[·]?) = chosen.map some
  jacobian :
    ∃ table chosen,
      full.jacobian = .ok table ∧
        active.jacobian = .ok chosen ∧
        rows.map (table[·]?) = chosen.map some
  bias :
    ∃ values chosen,
      full.bias = .ok values ∧
        active.bias = .ok chosen ∧
        rows.map (values[·]?) = chosen.map some

namespace ConstraintSet

variable [Zero T]
variable {set : ConstraintSet K T}
variable {snapshot : Snapshot T}

section Outputs

variable
  (made :
    ∀ member ∈ set.members,
      member.enabled = true → member.constraint.rows.Made)

include made

/-- Selected and stacked, values are the rows of the stack that take part. -/
theorem stackValues_masked
    {values : Constraint K T → Except Misuse (List T)}
    (answered :
      ∀ constraint ∈ enabledConstraints set.members,
        ∃ block,
          values constraint = .ok block ∧
            block.length = constraint.length) :
    ∃ full chosen,
      set.stackValues set.fullCount values = .ok full ∧
        set.stackValues set.activeCount
            (fun constraint =>
              values constraint >>= constraint.rows.trySelect) =
          .ok chosen ∧
        set.maskedRows.map (full[·]?) = chosen.map some := by
  choose! block found announced using answered
  have selected := selected_of_announced made found announced
  exact
    ⟨_, _, stackValues_eq_flatMap found announced,
      stackValues_eq_flatMap (fun _ inside => (selected _ inside).1)
        fun _ inside => (selected _ inside).2,
      map_maskedRows made announced⟩

/-- Selected and stacked, rows are those of the table that take part. -/
theorem stackTable_masked
    {rows : Constraint K T → Except Misuse (List (List T))}
    (answered :
      ∀ constraint ∈ enabledConstraints set.members,
        ∃ block,
          rows constraint = .ok block ∧
            block.length = constraint.length ∧
            ∀ row ∈ block,
              row.length = set.model.mechanism.dofCount) :
    ∃ full chosen,
      set.stackTable set.fullCount rows = .ok full ∧
        set.stackTable set.activeCount
            (fun constraint =>
              rows constraint >>= constraint.rows.trySelect) =
          .ok chosen ∧
        set.maskedRows.map (full[·]?) = chosen.map some := by
  choose! block found announced widths using answered
  have selected := selected_of_announced made found announced
  have selectedWidths :
      ∀ constraint ∈ enabledConstraints set.members,
        ∀ row ∈ constraint.rows.select (block constraint),
          row.length = set.model.mechanism.dofCount :=
    fun constraint inside row chosen =>
      widths constraint inside row (RowMask.mem_of_mem_select chosen)
  exact
    ⟨_, _, stackTable_eq_flatMap found announced widths,
      stackTable_eq_flatMap (fun _ inside => (selected _ inside).1)
        (fun _ inside => (selected _ inside).2) selectedWidths,
      map_maskedRows made announced⟩

end Outputs

/--
If the enabled members keep their promise, the rows that take part increase and
are as many as the active layout counts, all of them in the full layout.  The
active outputs are exactly those rows of the full outputs.  Among them, the rows
of an enabled member begin where the active layout says and are its mask, moved
to where the full layout says.
-/
theorem active_rows_are_masked_rows
    (made :
      ∀ member ∈ set.members,
        member.enabled = true → member.constraint.rows.Made)
    (answers :
      ∀ member ∈ set.members,
        member.enabled = true →
        member.constraint.Answers snapshot
          set.model.mechanism.dofCount) :
    set.maskedRows.Pairwise (· < ·) ∧
      (∀ row ∈ set.maskedRows, row < set.fullCount) ∧
      set.maskedRows.length = set.activeCount ∧
      (set.activeOutputs snapshot).RowsOf (set.outputs snapshot)
        set.maskedRows ∧
      ∀ {index : Nat} {member : Member K T},
        set.members[index]? = some member →
        member.enabled = true →
        ∃ fullStart activeStart,
          set.fullStart index = .ok fullStart ∧
            set.activeStart index = .ok activeStart ∧
            ∀ {place row : Nat},
              member.constraint.rows.indices[place]? = some row →
              set.maskedRows[activeStart + place]? =
                some (fullStart + row) := by
  have answered :
      ∀ constraint ∈ enabledConstraints set.members,
        constraint.Answers snapshot set.model.mechanism.dofCount := by
    intro constraint inside
    obtain ⟨member, found, enabled, rfl⟩ := mem_enabledConstraints.mp inside
    exact answers member found enabled
  have some_of_all := maskedRows_sublist made
  refine
    ⟨List.pairwise_lt_range.sublist some_of_all,
      fun row member => List.mem_range.mp (some_of_all.subset member),
      length_maskedRows set,
      { residual :=
          stackValues_masked made fun constraint inside =>
            (answered constraint inside).residual
        jacobian :=
          stackTable_masked made fun constraint inside =>
            (answered constraint inside).jacobian
        bias :=
          stackValues_masked made fun constraint inside =>
            (answered constraint inside).bias }, ?_⟩
  intro index member found enabled
  exact
    ⟨_, _, fullStart_eq found, activeStart_eq found,
      getElem?_maskedRows found enabled⟩

/--
On the arm, the span's row and the height of the pin take part.  The pin that is
disabled has no rows in either layout.
-/
theorem active_rows_are_masked_rows_armConstraints :
    ∃ snapshot : Snapshot ℝ,
      Mechanism.slidingArm.snapshot [1, 2] [3, 4] = .ok snapshot ∧
        (∀ member ∈ armConstraints.members,
          member.enabled = true → member.constraint.rows.Made) ∧
        (∀ member ∈ armConstraints.members,
          member.enabled = true →
          member.constraint.Answers snapshot
            Mechanism.slidingArm.dofCount) ∧
        armConstraints.maskedRows = [0, 3] ∧
        armConstraints.maskedRows.length =
          armConstraints.activeCount ∧
        (armConstraints.activeOutputs snapshot).RowsOf
          (armConstraints.outputs snapshot) [0, 3] ∧
        armConstraints.activeStart 2 = .ok 1 ∧
        armConstraints.maskedRows[1]? = some 3 := by
  have wellFormed := Mechanism.slidingArm_built.wellFormed
  obtain ⟨snapshot, found, taken⟩ :
      ∃ snapshot : Snapshot ℝ,
        Mechanism.slidingArm.snapshot [1, 2] [3, 4] = .ok snapshot ∧
          Mechanism.slidingArm.Taken [1, 2] [3, 4] snapshot :=
    wellFormed.snapshot_ok rfl rfl
  have made :
      ∀ member ∈ armConstraints.members,
        member.enabled = true → member.constraint.rows.Made :=
    fun member inside _ =>
      (armConstraints_made.members member inside).rows_made
  have answers :
      ∀ member ∈ armConstraints.members,
        member.enabled = true →
        member.constraint.Answers snapshot
          Mechanism.slidingArm.dofCount :=
    fun member inside _ =>
      ((armConstraints_made.members member inside).answers wellFormed
        taken rfl).1
  have places : armConstraints.maskedRows = [0, 3] := rfl
  obtain ⟨_, _, count, rows, starts⟩ :=
    active_rows_are_masked_rows made answers
  obtain ⟨fullStart, activeStart, fullFound, activeFound, moved⟩ :=
    @starts 2 _ rfl rfl
  cases fullFound
  cases activeFound
  rw [places] at rows
  exact
    ⟨snapshot, found, made, answers, places, count, rows, rfl,
      @moved 0 2 rfl⟩

end ConstraintSet

end Linkage
