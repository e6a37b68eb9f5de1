import Linkage.Proofs.Constraint.AnchorDerivative
import Linkage.Proofs.Constraint.Answers
import Linkage.Proofs.Constraint.DistanceDerivative
import Linkage.Proofs.Constraint.Layout

namespace Linkage

/-!
# Stacked rows and layouts

The rows of a set are written into a table by a counter of its own, which
advances by the rows that each member returns.  The layouts count the rows that
each member announces.  If the enabled members return what they announce, the
two agree: the table is filled to its last row, and the rows of every enabled
member stand at the range that the layout gives it.
-/

variable {K T : Type} {α : Type}

namespace ConstraintSet

/-- Writing a block replaces as many rows as it has. -/
theorem writeRows_eq
    (above : List α)
    {old block : List α}
    (sameLength : old.length = block.length)
    (below : List α) :
    writeRows (above ++ (old ++ below)) above.length block =
      .ok (above ++ (block ++ below)) := by
  have room :
      above.length + block.length ≤ (above ++ (old ++ below)).length := by
    simp [sameLength]
  rw [writeRows, if_pos room, List.take_left, ← List.drop_drop,
    List.drop_left, ← sameLength, List.drop_left, List.append_assoc]

/--
A run of the loop overwrites as many rows as the constraints return, in their
order, and leaves the rows above and below as they are.
-/
theorem stackFrom_eq
    {rows : Constraint K T → Except Misuse (List α)}
    {block : Constraint K T → List α}
    {constraints : List (Constraint K T)}
    (found :
      ∀ constraint ∈ constraints, rows constraint = .ok (block constraint))
    (above : List (Option α))
    {old : List (Option α)}
    (room : old.length = (constraints.flatMap block).length)
    (below : List (Option α)) :
    stackFrom rows above.length (above ++ (old ++ below)) constraints =
      .ok (above ++ ((constraints.flatMap block).map some ++ below)) := by
  induction constraints generalizing above old with
  | nil =>
      have nothing : old = [] := List.length_eq_zero_iff.mp room
      rw [nothing]
      rfl
  | cons constraint rest inductionHypothesis =>
      let height := (block constraint).length
      have roomFirst :
          (old.take height).length =
            ((block constraint).map some).length := by
        simp [height, room]
      have roomRest :
          (old.drop height).length = (rest.flatMap block).length := by
        simp [height, room]
      have written :=
        writeRows_eq above roomFirst (old.drop height ++ below)
      have later :=
        inductionHypothesis
          (fun other member => found other (by simp [member]))
          (above ++ (block constraint).map some) roomRest
      rw [← List.append_assoc (old.take height), List.take_append_drop]
        at written
      rw [List.length_append, List.length_map] at later
      rw [stackFrom, found constraint (by simp)]
      change writeRows _ _ _ >>= _ = _
      rw [written, ← List.append_assoc]
      refine later.trans ?_
      rw [List.flatMap_cons, List.map_append]
      simp only [List.append_assoc]

/-- Constraints that return what they announce return as much as is counted. -/
theorem length_flatMap_eq_rowTotal
    {block : Constraint K T → List α}
    {count : Constraint K T → Nat}
    {members : List (Member K T)}
    (announced :
      ∀ constraint ∈ enabledConstraints members,
        (block constraint).length = count constraint) :
    ((enabledConstraints members).flatMap block).length =
      rowTotal count members := by
  rw [rowTotal]
  generalize enabledConstraints members = constraints at announced ⊢
  induction constraints with
  | nil =>
      rfl
  | cons constraint rest inductionHypothesis =>
      have first := announced constraint (by simp)
      have later :=
        inductionHypothesis fun other member =>
          announced other (by simp [member])
      rw [List.flatMap_cons, List.length_append, first, later,
        List.foldr_cons]

/--
A table with as many rows as are counted, where the rows of each member that
has a range stand at this range.
-/
structure Stacked
    (set : ConstraintSet K T)
    (layout : Nat → Except (Refusal K) (Option RowRange))
    (total : Nat)
    (rows : Constraint K T → Except Misuse (List α))
    (table : List α) : Prop where
  length_eq : table.length = total
  slice_eq :
    ∀ {index : Nat} {member : Member K T} {range : RowRange},
      set.members[index]? = some member →
      layout index = .ok (some range) →
      rows member.constraint = .ok (range.slice table)

/--
A layout tiles the rows of all three outputs, and in each of them the rows of a
member's range are that member's own.
-/
structure Follows
    (set : ConstraintSet K T)
    (layout : Nat → Except (Refusal K) (Option RowRange))
    (total : Nat)
    (own : Constraint K T → Outputs T)
    (stacked : Outputs T) : Prop where
  tiles : set.Tiles layout total
  residual :
    ∃ values,
      stacked.residual = .ok values ∧
        set.Stacked layout total (own · |>.residual) values
  jacobian :
    ∃ rows,
      stacked.jacobian = .ok rows ∧
        set.Stacked layout total (own · |>.jacobian) rows ∧
        ∀ row ∈ rows, row.length = set.model.mechanism.dofCount
  bias :
    ∃ values,
      stacked.bias = .ok values ∧
        set.Stacked layout total (own · |>.bias) values

/-- Rows that follow a layout have its shape. -/
theorem Follows.shaped
    {set : ConstraintSet K T}
    {layout : Nat → Except (Refusal K) (Option RowRange)}
    {total : Nat}
    {own : Constraint K T → Outputs T}
    {stacked : Outputs T}
    (follows : set.Follows layout total own stacked) :
    stacked.Shaped total set.model.mechanism.dofCount := by
  obtain ⟨values, valuesFound, valuesStacked⟩ := follows.residual
  obtain ⟨rows, rowsFound, rowsStacked, widths⟩ := follows.jacobian
  obtain ⟨biases, biasesFound, biasesStacked⟩ := follows.bias
  exact
    { residual := ⟨values, valuesFound, valuesStacked.length_eq⟩
      jacobian := ⟨rows, rowsFound, rowsStacked.length_eq, widths⟩
      bias := ⟨biases, biasesFound, biasesStacked.length_eq⟩ }

variable {set : ConstraintSet K T}
variable {count : Constraint K T → Nat}
variable {rows : Constraint K T → Except Misuse (List α)}

theorem mem_enabledConstraints
    {members : List (Member K T)}
    {constraint : Constraint K T} :
    constraint ∈ enabledConstraints members ↔
      ∃ member ∈ members,
        member.enabled = true ∧ member.constraint = constraint := by
  simp [enabledConstraints, and_assoc]

theorem enabledConstraints_append
    (first second : List (Member K T)) :
    enabledConstraints (first ++ second) =
      enabledConstraints first ++ enabledConstraints second := by
  simp [enabledConstraints]

theorem enabledConstraints_cons
    {member : Member K T}
    (enabled : member.enabled = true)
    (rest : List (Member K T)) :
    enabledConstraints (member :: rest) =
      member.constraint :: enabledConstraints rest := by
  simp [enabledConstraints, enabled]

/-- Before and after an enabled member stand those of the other members. -/
theorem enabledConstraints_split
    {index : Nat}
    {member : Member K T}
    (found : set.members[index]? = some member)
    (enabled : member.enabled = true) :
    ∃ later,
      enabledConstraints set.members =
        enabledConstraints (set.members.take index) ++
          member.constraint :: later := by
  obtain ⟨inside, shape⟩ := List.getElem?_eq_some_iff.mp found
  have split := List.take_append_drop index set.members
  rw [List.drop_eq_getElem_cons inside, shape] at split
  refine ⟨enabledConstraints (set.members.drop (index + 1)), ?_⟩
  rw [← enabledConstraints_cons enabled, ← enabledConstraints_append,
    split]

/-- The blocks of the enabled members, one after the other, are stacked. -/
theorem stacked_flatMap
    {block : Constraint K T → List α}
    (found :
      ∀ constraint ∈ enabledConstraints set.members,
        rows constraint = .ok (block constraint))
    (announced :
      ∀ constraint ∈ enabledConstraints set.members,
        (block constraint).length = count constraint) :
    set.Stacked (set.rowsOf count) (rowTotal count set.members) rows
      ((enabledConstraints set.members).flatMap block) where
  length_eq := length_flatMap_eq_rowTotal announced
  slice_eq {index member range} memberFound rangeFound := by
    cases enabled : member.enabled with
    | false =>
        rw [rowsOf_of_disabled memberFound enabled] at rangeFound
        cases rangeFound
    | true =>
        rw [rowsOf_of_enabled memberFound enabled] at rangeFound
        cases rangeFound
        obtain ⟨later, shape⟩ :=
          enabledConstraints_split memberFound enabled
        rw [shape] at found announced ⊢
        let earlier := enabledConstraints (set.members.take index)
        have start :
            (earlier.flatMap block).length =
              rowTotal count (set.members.take index) :=
          length_flatMap_eq_rowTotal fun constraint inside =>
            announced constraint (List.mem_append_left _ inside)
        have own := announced member.constraint (by simp)
        have slice :=
          RowRange.slice_append (earlier.flatMap block)
            (block member.constraint) (later.flatMap block)
        rw [start, own] at slice
        rw [found member.constraint (by simp), List.flatMap_append,
          List.flatMap_cons, slice]

/-- If the enabled members return what they announce, it fills the table. -/
theorem stack_eq_flatMap
    {block : Constraint K T → List α}
    (found :
      ∀ constraint ∈ enabledConstraints set.members,
        rows constraint = .ok (block constraint))
    (announced :
      ∀ constraint ∈ enabledConstraints set.members,
        (block constraint).length = count constraint) :
    set.stack (rowTotal count set.members) rows =
      .ok (((enabledConstraints set.members).flatMap block).map some) := by
  have room :
      (List.replicate (rowTotal count set.members)
          (none : Option α)).length =
        ((enabledConstraints set.members).flatMap block).length := by
    rw [List.length_replicate, length_flatMap_eq_rowTotal announced]
  have written := stackFrom_eq found [] room []
  simpa [stack] using written

/-- Rows pass the check if they are found and all have the width. -/
theorem bind_checkWidth_eq_ok_iff
    {width : Nat}
    {found : Except Misuse (List (List T))}
    {block : List (List T)} :
    found >>= checkWidth width = .ok block ↔
      found = .ok block ∧ ∀ row ∈ block, row.length = width := by
  cases found with
  | error misuse =>
      constructor
      · intro impossible
        cases impossible
      · rintro ⟨impossible, _⟩
        cases impossible
  | ok own =>
      change checkWidth width own = _ ↔ _
      have accepted :
          own.all (·.length == width) = true ↔
            ∀ row ∈ own, row.length = width := by
        simp
      unfold checkWidth
      constructor
      · intro passed
        split at passed
        · cases passed
          exact ⟨rfl, accepted.mp ‹_›⟩
        · cases passed
      · rintro ⟨same, widths⟩
        cases same
        exact if_pos (accepted.mpr widths)

variable [Zero T]

/-- Stacked values are those of the enabled members, in their order. -/
theorem stackValues_eq_flatMap
    {values : Constraint K T → Except Misuse (List T)}
    {block : Constraint K T → List T}
    (found :
      ∀ constraint ∈ enabledConstraints set.members,
        values constraint = .ok (block constraint))
    (announced :
      ∀ constraint ∈ enabledConstraints set.members,
        (block constraint).length = count constraint) :
    set.stackValues (rowTotal count set.members) values =
      .ok ((enabledConstraints set.members).flatMap block) := by
  rw [stackValues, stack_eq_flatMap found announced]
  have written :
      (((enabledConstraints set.members).flatMap block).map some).map
          (·.getD 0) =
        (enabledConstraints set.members).flatMap block := by
    simp
  exact congrArg Except.ok written

/-- A stacked table has the rows of the enabled members, in their order. -/
theorem stackTable_eq_flatMap
    {rows : Constraint K T → Except Misuse (List (List T))}
    {block : Constraint K T → List (List T)}
    (found :
      ∀ constraint ∈ enabledConstraints set.members,
        rows constraint = .ok (block constraint))
    (announced :
      ∀ constraint ∈ enabledConstraints set.members,
        (block constraint).length = count constraint)
    (widths :
      ∀ constraint ∈ enabledConstraints set.members,
        ∀ row ∈ block constraint,
          row.length = set.model.mechanism.dofCount) :
    set.stackTable (rowTotal count set.members) rows =
      .ok ((enabledConstraints set.members).flatMap block) := by
  have checked :
      ∀ constraint ∈ enabledConstraints set.members,
        rows constraint >>= checkWidth set.model.mechanism.dofCount =
          .ok (block constraint) :=
    fun constraint inside =>
      bind_checkWidth_eq_ok_iff.mpr
        ⟨found constraint inside, widths constraint inside⟩
  rw [stackTable, stack_eq_flatMap checked announced]
  let blank := List.replicate set.model.mechanism.dofCount (0 : T)
  have written :
      (((enabledConstraints set.members).flatMap block).map some).map
          (·.getD blank) =
        (enabledConstraints set.members).flatMap block := by
    simp
  exact congrArg Except.ok written

/-- Stacked values, if the enabled members return what they announce. -/
theorem stackValues_stacked
    {values : Constraint K T → Except Misuse (List T)}
    (answered :
      ∀ constraint ∈ enabledConstraints set.members,
        ∃ block,
          values constraint = .ok block ∧
            block.length = count constraint) :
    ∃ table,
      set.stackValues (rowTotal count set.members) values = .ok table ∧
        set.Stacked (set.rowsOf count) (rowTotal count set.members) values
          table := by
  choose! block found announced using answered
  exact
    ⟨_, stackValues_eq_flatMap found announced,
      stacked_flatMap found announced⟩

/-- A stacked table, if the enabled members return what they announce. -/
theorem stackTable_stacked
    {rows : Constraint K T → Except Misuse (List (List T))}
    (answered :
      ∀ constraint ∈ enabledConstraints set.members,
        ∃ block,
          rows constraint = .ok block ∧
            block.length = count constraint ∧
            ∀ row ∈ block,
              row.length = set.model.mechanism.dofCount) :
    ∃ table,
      set.stackTable (rowTotal count set.members) rows = .ok table ∧
        set.Stacked (set.rowsOf count) (rowTotal count set.members) rows
          table ∧
        ∀ row ∈ table, row.length = set.model.mechanism.dofCount := by
  choose! block found announced widths using answered
  refine
    ⟨_, stackTable_eq_flatMap found announced widths,
      stacked_flatMap found announced, ?_⟩
  intro row inside
  obtain ⟨constraint, member, inBlock⟩ := List.mem_flatMap.mp inside
  exact widths constraint member row inBlock

/-- All rows of the enabled members. -/
def outputs
    (set : ConstraintSet K T)
    (snapshot : Snapshot T) : Outputs T where
  residual := set.residual snapshot
  jacobian := set.jacobian snapshot
  bias := set.bias snapshot

/-- The rows of the enabled members that take part. -/
def activeOutputs
    (set : ConstraintSet K T)
    (snapshot : Snapshot T) : Outputs T where
  residual := set.activeResidual snapshot
  jacobian := set.activeJacobian snapshot
  bias := set.activeBias snapshot

/-- Members that return what is counted are stacked as they are laid out. -/
theorem follows_rowsOf
    {own : Constraint K T → Outputs T}
    (shaped :
      ∀ constraint ∈ enabledConstraints set.members,
        (own constraint).Shaped (count constraint)
          set.model.mechanism.dofCount) :
    let total := rowTotal count set.members
    set.Follows (set.rowsOf count) total own
      { residual := set.stackValues total (own · |>.residual)
        jacobian := set.stackTable total (own · |>.jacobian)
        bias := set.stackValues total (own · |>.bias) } where
  tiles := tiles_rowsOf set count
  residual :=
    stackValues_stacked fun constraint inside =>
      (shaped constraint inside).residual
  jacobian :=
    stackTable_stacked fun constraint inside =>
      (shaped constraint inside).jacobian
  bias :=
    stackValues_stacked fun constraint inside =>
      (shaped constraint inside).bias

/--
If the enabled members keep their promise, all rows of a set follow the full
layout; if their masks fit as well, the rows that take part follow the active
one.
-/
theorem outputs_follow_layouts
    {snapshot : Snapshot T}
    (answers :
      ∀ member ∈ set.members,
        member.enabled = true →
        member.constraint.Answers snapshot
          set.model.mechanism.dofCount) :
    set.Follows set.fullRows set.fullCount
        (·.outputs snapshot) (set.outputs snapshot) ∧
      ((∀ member ∈ set.members,
          member.enabled = true → member.constraint.rows.Fits) →
        set.Follows set.activeRows set.activeCount
          (·.activeOutputs snapshot) (set.activeOutputs snapshot)) := by
  rw [fullRows_eq_rowsOf, activeRows_eq_rowsOf]
  refine ⟨follows_rowsOf ?_, fun fits => follows_rowsOf ?_⟩
  · intro constraint inside
    obtain ⟨member, found, enabled, rfl⟩ := mem_enabledConstraints.mp inside
    exact answers member found enabled
  · intro constraint inside
    obtain ⟨member, found, enabled, rfl⟩ := mem_enabledConstraints.mp inside
    exact (answers member found enabled).activeShaped
      (fits member found enabled)

/--
Three constraints on the sliding arm: all of the span, nothing of the disabled
pin, and the height of the pin that is seen along the world axes.
-/
noncomputable def armConstraints : ConstraintSet ℝ ℝ where
  model := ⟨0, Mechanism.slidingArm⟩
  members :=
    [⟨Distance.armSpan.toConstraint, true⟩,
      ⟨Anchor.sliderPin.toConstraint, false⟩,
      ⟨Anchor.toConstraint
          { Anchor.sliderPin with
            view := .identity
            rows := ⟨3, [2]⟩ }, true⟩]

/-- Two of the three constraints on the arm, in both layouts. -/
theorem outputs_follow_layouts_armConstraints :
    ∃ snapshot : Snapshot ℝ,
      Mechanism.slidingArm.snapshot [1, 2] [3, 4] = .ok snapshot ∧
        (∀ member ∈ armConstraints.members,
          member.enabled = true →
          member.constraint.Answers snapshot
            Mechanism.slidingArm.dofCount) ∧
        (∀ member ∈ armConstraints.members,
          member.enabled = true → member.constraint.rows.Fits) ∧
        armConstraints.Follows armConstraints.fullRows
          armConstraints.fullCount
          (·.outputs snapshot) (armConstraints.outputs snapshot) ∧
        armConstraints.Follows armConstraints.activeRows
          armConstraints.activeCount
          (·.activeOutputs snapshot)
          (armConstraints.activeOutputs snapshot) := by
  have wellFormed := Mechanism.slidingArm_built.wellFormed
  obtain ⟨snapshot, found, taken⟩ :
      ∃ snapshot : Snapshot ℝ,
        Mechanism.slidingArm.snapshot [1, 2] [3, 4] = .ok snapshot ∧
          Mechanism.slidingArm.Taken [1, 2] [3, 4] snapshot :=
    wellFormed.snapshot_ok rfl rfl
  have members :
      ∀ member ∈ armConstraints.members,
        member.enabled = true →
        member.constraint.Answers snapshot
            Mechanism.slidingArm.dofCount ∧
          member.constraint.rows.Fits := by
    intro member inside enabled
    rw [armConstraints, List.mem_cons, List.mem_cons,
      List.mem_singleton] at inside
    rcases inside with rfl | rfl | rfl
    · exact
        ⟨Distance.answers wellFormed taken rfl rfl rfl rfl,
          RowMask.fits_all 1⟩
    · cases enabled
    · have accepted :
          (RowMask.ofIndices 3 [2] : Except (Refusal ℝ) RowMask) =
            .ok ⟨3, [2]⟩ := by
        rfl
      exact
        ⟨Anchor.answers wellFormed taken rfl rfl,
          RowMask.fits_of_ofIndices accepted⟩
  have answers := fun member inside enabled =>
    (members member inside enabled).1
  have fits := fun member inside enabled =>
    (members member inside enabled).2
  obtain ⟨full, active⟩ := outputs_follow_layouts answers
  exact ⟨snapshot, found, answers, fits, full, active fits⟩

end ConstraintSet

end Linkage
