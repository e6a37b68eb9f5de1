import Mathlib.Data.List.Basic
import Linkage.Mechanism.Basic

namespace Linkage.Mechanism

/-!
# The structure of mechanisms that were built

A mechanism that was grown from the world one body at a time has more structure
than its fields show: every body comes after its parent, and the coordinates
are handed out in order, each to one body.  Chains down to the world therefore
end, and the joints on a chain have different coordinates.

That chains end needs less than that, and is stated for all mechanisms whose
bodies come after their parents.
-/

variable {K : Type}

section Building

variable [Zero K] [Add K] [Sub K] [Mul K] [Div K] [OfScientific K]
variable [BEq K] [LT K] [DecidableLT K] [Elementary K]

/-- Mechanisms grown from the world by attaching bodies. -/
inductive Built : Mechanism K → Prop where
  | empty (revision : Nat) :
      Built (Mechanism.empty revision)
  | attach
      {mechanism grown : Mechanism K}
      {freshRevision : Nat}
      {name : String}
      {parent frame : FrameId}
      {joint : Joint K}
      {offset : Pose K} :
      Built mechanism →
      mechanism.attach freshRevision name parent joint offset =
        .ok (grown, frame) →
      Built grown

/-- Everything that an accepted attachment has checked and made. -/
theorem attach_eq_ok_iff
    {mechanism grown : Mechanism K}
    {freshRevision : Nat}
    {name : String}
    {parent frame : FrameId}
    {joint : Joint K}
    {offset : Pose K} :
    mechanism.attach freshRevision name parent joint offset =
        .ok (grown, frame) ↔
      mechanism.contains parent = true ∧
        mechanism.nameTaken name = false ∧
        offset.allFinite = true ∧
        ∃ unitJoint,
          joint.normalize? = some unitJoint ∧
            grown =
              { bodies :=
                  mechanism.bodies ++
                    [mechanism.newBody name parent unitJoint offset]
                dofCount := mechanism.dofCount + unitJoint.freedom
                revision := freshRevision } ∧
            frame = ⟨mechanism.frameCount⟩ := by
  unfold attach
  cases mechanism.contains parent <;>
    cases mechanism.nameTaken name <;>
      cases joint.normalize? <;>
        cases offset.allFinite <;>
          simp [eq_comm]

end Building

/-- An entry of a list with one more item is an earlier one or that item. -/
theorem earlier_or_last
    {α : Type}
    {items : List α}
    {last item : α}
    {index : Nat}
    (found : (items ++ [last])[index]? = some item) :
    items[index]? = some item ∨ index = items.length ∧ item = last := by
  rcases Nat.lt_or_ge index items.length with earlier | later
  · rw [List.getElem?_append_left earlier] at found
    exact .inl found
  · rw [List.getElem?_append_right later,
      List.getElem?_singleton] at found
    split at found
    · rename_i isLast
      exact .inr
        ⟨Nat.le_antisymm (Nat.le_of_sub_eq_zero isLast) later,
          (Option.some.inj found).symm⟩
    · cases found

/-- Bodies come after their parents and read coordinates that exist. -/
structure Grounded
    (mechanism : Mechanism K) : Prop where
  parentBefore :
    ∀ {index : Nat} {body : Body K},
      mechanism.bodies[index]? = some body →
      body.parent.index ≤ index
  dof_lt :
    ∀ {index dof : Nat} {body : Body K},
      mechanism.bodies[index]? = some body →
      body.dof = some dof →
      dof < mechanism.dofCount

/-- The chain of a body that comes after its parent is that of the parent. -/
theorem chain?_body
    {mechanism : Mechanism K}
    {index : Nat}
    {body : Body K}
    (found : mechanism.bodies[index]? = some body)
    (parentBefore : body.parent.index ≤ index) :
    mechanism.chain? (index + 1) =
      (mechanism.chain? body.parent.index).map
        ((index + 1, body) :: ·) := by
  rw [chain?, found]
  exact if_pos (Nat.lt_succ_of_le parentBefore)

namespace Grounded

variable {mechanism : Mechanism K}

/--
Every frame has a chain, and what holds of the chain of the world and passes
from the chain of a parent to that of a body holds of all chains.
-/
theorem chain_induction
    (grounded : mechanism.Grounded)
    {motive : Nat → List (Nat × Body K) → Prop}
    (world : motive 0 [])
    (follow :
      ∀ {index : Nat} {body : Body K} {chain : List (Nat × Body K)},
        mechanism.bodies[index]? = some body →
        mechanism.chain? body.parent.index = some chain →
        motive body.parent.index chain →
        motive (index + 1) ((index + 1, body) :: chain))
    {frame : Nat}
    (inside : frame < mechanism.frameCount) :
    ∃ chain, mechanism.chain? frame = some chain ∧ motive frame chain := by
  induction frame using Nat.strongRecOn with
  | ind frame inductionHypothesis =>
      cases frame with
      | zero =>
          exact ⟨[], by rw [chain?], world⟩
      | succ index =>
          obtain ⟨body, found⟩ :
              ∃ body, mechanism.bodies[index]? = some body :=
            ⟨_, List.getElem?_eq_getElem (Nat.lt_of_succ_lt_succ inside)⟩
          have parentBefore := grounded.parentBefore found
          have earlier := Nat.lt_succ_of_le parentBefore
          obtain ⟨chain, parentChain, holds⟩ :=
            inductionHypothesis body.parent.index earlier
              (Nat.lt_trans earlier inside)
          refine ⟨(index + 1, body) :: chain, ?_,
            follow found parentChain holds⟩
          rw [chain?_body found parentBefore, parentChain]
          rfl

/-- Every frame has a chain. -/
theorem chain_exists
    (grounded : mechanism.Grounded)
    {frame : Nat}
    (inside : frame < mechanism.frameCount) :
    ∃ chain, mechanism.chain? frame = some chain := by
  obtain ⟨chain, hasChain, _⟩ :=
    grounded.chain_induction (motive := fun _ _ => True) trivial
      (fun _ _ _ => trivial) inside
  exact ⟨chain, hasChain⟩

/-- The links of a chain are bodies that come no later than its frame. -/
theorem link_found
    (grounded : mechanism.Grounded)
    {frame : Nat}
    (inside : frame < mechanism.frameCount)
    {chain : List (Nat × Body K)}
    (hasChain : mechanism.chain? frame = some chain) :
    ∀ link ∈ chain,
      ∃ index, link.1 = index + 1 ∧ index < frame ∧
        mechanism.bodies[index]? = some link.2 := by
  obtain ⟨sameChain, hasSame, holds⟩ :=
    grounded.chain_induction
      (motive := fun frame chain =>
        ∀ link ∈ chain,
          ∃ index, link.1 = index + 1 ∧ index < frame ∧
            mechanism.bodies[index]? = some link.2)
      (by simp)
      (by
        intro index body chain found _ earlier link member
        rcases List.mem_cons.mp member with rfl | inChain
        · exact ⟨index, rfl, Nat.lt_succ_self index, found⟩
        · obtain ⟨place, number, before, linkFound⟩ := earlier link inChain
          exact ⟨place, number,
            Nat.lt_of_lt_of_le before
              (Nat.le_succ_of_le (grounded.parentBefore found)),
            linkFound⟩)
      inside
  rw [hasSame] at hasChain
  cases hasChain
  exact holds

end Grounded

/-- Bodies come after their parents, and coordinates are numbered in order. -/
structure WellFormed
    (mechanism : Mechanism K) : Prop where
  parentBefore :
    ∀ {index : Nat} {body : Body K},
      mechanism.bodies[index]? = some body →
      body.parent.index ≤ index
  dofsInOrder :
    mechanism.bodies.filterMap (·.dof) = List.range mechanism.dofCount

/-- The world alone is well formed. -/
theorem WellFormed.empty
    (revision : Nat) :
    (Mechanism.empty revision : Mechanism K).WellFormed where
  parentBefore found := by
    simp [Mechanism.empty] at found
  dofsInOrder := rfl

/-- The coordinate of a new body is the next one, if its joint moves. -/
theorem dofs_newBody
    (mechanism : Mechanism K)
    (name : String)
    (parent : FrameId)
    (joint : Joint K)
    (offset : Pose K) :
    List.range mechanism.dofCount ++
        (mechanism.newBody name parent joint offset).dof.toList =
      List.range (mechanism.dofCount + joint.freedom) := by
  cases joint with
  | fixed =>
      simp [newBody, Joint.freedom]
  | revolute axis =>
      simp [newBody, Joint.freedom, List.range_succ]
  | prismatic axis =>
      simp [newBody, Joint.freedom, List.range_succ]

/-- A body attached to a frame that exists keeps a mechanism well formed. -/
theorem WellFormed.grow
    {mechanism : Mechanism K}
    (wellFormed : mechanism.WellFormed)
    {parent : FrameId}
    (inside : mechanism.contains parent = true)
    (name : String)
    (joint : Joint K)
    (offset : Pose K)
    (freshRevision : Nat) :
    WellFormed
      { bodies :=
          mechanism.bodies ++
            [mechanism.newBody name parent joint offset]
        dofCount := mechanism.dofCount + joint.freedom
        revision := freshRevision } where
  parentBefore {index body} found := by
    rcases earlier_or_last found with earlier | ⟨rfl, rfl⟩
    · exact wellFormed.parentBefore earlier
    · have parentExists : parent.index < mechanism.bodies.length + 1 :=
        of_decide_eq_true inside
      exact Nat.le_of_lt_succ parentExists
  dofsInOrder := by
    have newDofs :
        List.filterMap (fun body : Body K => body.dof)
            [mechanism.newBody name parent joint offset] =
          (mechanism.newBody name parent joint offset).dof.toList := by
      cases dofShape :
          (mechanism.newBody name parent joint offset).dof <;>
        simp [dofShape]
    rw [List.filterMap_append, wellFormed.dofsInOrder, newDofs,
      dofs_newBody]

/-- Mechanisms that were built are well formed. -/
theorem Built.wellFormed
    [Zero K] [Add K] [Sub K] [Mul K] [Div K] [OfScientific K]
    [BEq K] [LT K] [DecidableLT K] [Elementary K]
    {mechanism : Mechanism K}
    (built : mechanism.Built) :
    mechanism.WellFormed := by
  induction built with
  | empty revision =>
      exact .empty revision
  | attach _ accepted inductionHypothesis =>
      obtain ⟨inside, _, _, unitJoint, _, rfl, _⟩ :=
        attach_eq_ok_iff.mp accepted
      exact inductionHypothesis.grow inside _ _ _ _

namespace WellFormed

variable {mechanism : Mechanism K}

/-- A coordinate of a body is one of the mechanism. -/
theorem dof_lt
    (wellFormed : mechanism.WellFormed)
    {index dof : Nat}
    {body : Body K}
    (found : mechanism.bodies[index]? = some body)
    (hasDof : body.dof = some dof) :
    dof < mechanism.dofCount := by
  have member : dof ∈ mechanism.bodies.filterMap (·.dof) :=
    List.mem_filterMap.mpr
      ⟨body, List.mem_of_getElem? found, hasDof⟩
  rw [wellFormed.dofsInOrder] at member
  exact List.mem_range.mp member

/-- A well-formed mechanism is grounded. -/
theorem grounded
    (wellFormed : mechanism.WellFormed) :
    mechanism.Grounded where
  parentBefore := wellFormed.parentBefore
  dof_lt := wellFormed.dof_lt

/-- A body that comes before another has a different coordinate. -/
theorem dof_ne_of_lt
    (wellFormed : mechanism.WellFormed)
    {earlier later dof : Nat}
    {first second : Body K}
    (before : earlier < later)
    (firstFound : mechanism.bodies[earlier]? = some first)
    (secondFound : mechanism.bodies[later]? = some second)
    (firstDof : first.dof = some dof) :
    second.dof ≠ some dof := by
  intro secondDof
  have distinct : (mechanism.bodies.filterMap (·.dof)).Nodup := by
    rw [wellFormed.dofsInOrder]
    exact List.nodup_range
  have apart := List.pairwise_filterMap.mp distinct
  obtain ⟨earlierInside, firstShape⟩ :=
    List.getElem?_eq_some_iff.mp firstFound
  obtain ⟨laterInside, secondShape⟩ :=
    List.getElem?_eq_some_iff.mp secondFound
  have different :=
    List.pairwise_iff_getElem.mp apart earlier later
      earlierInside laterInside before
  rw [firstShape, secondShape] at different
  exact different dof firstDof dof secondDof rfl

/-- Each coordinate is that of a body. -/
theorem exists_body_of_dof
    (wellFormed : mechanism.WellFormed)
    {dof : Nat}
    (dofInside : dof < mechanism.dofCount) :
    ∃ (index : Nat) (body : Body K),
      mechanism.bodies[index]? = some body ∧ body.dof = some dof := by
  have member : dof ∈ mechanism.bodies.filterMap (·.dof) := by
    rw [wellFormed.dofsInOrder]
    exact List.mem_range.mpr dofInside
  obtain ⟨body, bodyMember, hasDof⟩ := List.mem_filterMap.mp member
  obtain ⟨index, found⟩ := List.mem_iff_getElem?.mp bodyMember
  exact ⟨index, body, found, hasDof⟩

/-- Bodies of one coordinate are at one place. -/
theorem index_eq_of_dof
    (wellFormed : mechanism.WellFormed)
    {index otherIndex dof : Nat}
    {body otherBody : Body K}
    (found : mechanism.bodies[index]? = some body)
    (otherFound : mechanism.bodies[otherIndex]? = some otherBody)
    (hasDof : body.dof = some dof)
    (otherDof : otherBody.dof = some dof) :
    index = otherIndex := by
  rcases Nat.lt_trichotomy index otherIndex with before | same | after
  · exact
      absurd otherDof
        (wellFormed.dof_ne_of_lt before found otherFound hasDof)
  · exact same
  · exact
      absurd hasDof
        (wellFormed.dof_ne_of_lt after otherFound found otherDof)

/-- The bodies on the chain of a parent have other coordinates. -/
theorem chain_dof_ne
    (wellFormed : mechanism.WellFormed)
    {index dof : Nat}
    {body : Body K}
    (bodyFound : mechanism.bodies[index]? = some body)
    (hasDof : body.dof = some dof)
    {chain : List (Nat × Body K)}
    (hasChain : mechanism.chain? body.parent.index = some chain) :
    ∀ link ∈ chain, link.2.dof ≠ some dof := by
  intro link member linkDof
  have parentBefore := wellFormed.parentBefore bodyFound
  have bodyInside : index < mechanism.bodies.length :=
    (List.getElem?_eq_some_iff.mp bodyFound).1
  have parentInside : body.parent.index < mechanism.frameCount :=
    Nat.lt_succ_of_lt (Nat.lt_of_le_of_lt parentBefore bodyInside)
  obtain ⟨place, _, before, linkFound⟩ :=
    wellFormed.grounded.link_found parentInside hasChain link member
  exact
    wellFormed.dof_ne_of_lt (Nat.lt_of_lt_of_le before parentBefore)
      linkFound bodyFound linkDof hasDof

end WellFormed

end Linkage.Mechanism
