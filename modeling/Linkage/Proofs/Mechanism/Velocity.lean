import Linkage.Proofs.Geometry.Linear
import Linkage.Proofs.Geometry.ScalarMap
import Linkage.Proofs.Mechanism.Query
import Linkage.Proofs.Mechanism.Sweep

namespace Linkage

/-!
# Jacobians and velocities

A Jacobian collects, on the way from a frame down to the world, the velocity
that each joint contributes.  The snapshot adds the same contributions on the
way up.  Multiplied by the rates of the coordinates, the Jacobian therefore
gives the velocity that the snapshot at these rates states.

The Jacobian itself does not depend on rates, so it may be read from a snapshot
at other rates than those it is multiplied by.
-/

variable {K T : Type} [CommRing T]

namespace FrameMotion

/-- Two motions with equal places differ at most in rates and biases. -/
structure SamePlace (first second : FrameMotion T) : Prop where
  rotation : first.rotation = second.rotation
  origin : first.origin = second.origin
  axis : first.axis = second.axis

/-- A point of the frame is at the same place in both motions. -/
theorem SamePlace.pointPosition
    {first second : FrameMotion T}
    (same : first.SamePlace second)
    (point : Vec3 T) :
    first.pointPosition point = second.pointPosition point := by
  rw [FrameMotion.pointPosition, FrameMotion.pointPosition,
    same.rotation, same.origin]

/-- A joint contributes the same column in both motions. -/
theorem SamePlace.jointColumn
    {first second : FrameMotion T}
    (same : first.SamePlace second)
    (joint : Joint K)
    (position : Vec3 T) :
    Mechanism.jointColumn joint first position =
      Mechanism.jointColumn joint second position := by
  cases joint <;>
    simp [Mechanism.jointColumn, same.origin, same.axis]

/-- No point of the world moves. -/
@[simp] theorem pointVelocity_world (position : Vec3 T) :
    (world : FrameMotion T).pointVelocity position = 0 := by
  simp [world, pointVelocity]

end FrameMotion

variable [One K] [Add K] [Sub K] [Mul K]
variable [Elementary T] [Constant K T]

namespace FrameMotion

/-- The place of a body does not depend on rates. -/
theorem SamePlace.follow
    {first second : FrameMotion T}
    (same : first.SamePlace second)
    (body : Body K)
    (coordinate firstRate secondRate : T) :
    (first.follow body coordinate firstRate).SamePlace
      (second.follow body coordinate secondRate) := by
  obtain ⟨name, parent, joint, offset, dof⟩ := body
  cases joint <;>
    constructor <;>
    simp [FrameMotion.follow, JointMotion.of, same.rotation, same.origin]

/--
A point of a body moves as the point of the parent at the same place does, and
in addition as its joint moves it.
-/
theorem pointVelocity_follow
    (parent : FrameMotion T)
    (body : Body K)
    (coordinate rate : T)
    (position : Vec3 T) :
    (parent.follow body coordinate rate).pointVelocity position =
      parent.pointVelocity position +
        (Mechanism.jointColumn body.joint
          (parent.follow body coordinate rate) position).scale rate := by
  obtain ⟨name, parentFrame, joint, offset, dof⟩ := body
  cases joint <;>
    ext <;>
    simp [follow, JointMotion.of, pointVelocity, Mechanism.jointColumn,
      Vec3.cross, Vec3.scale] <;>
    ring

end FrameMotion

namespace Mechanism

variable {mechanism : Mechanism K}
variable {positions velocities rates : List T}
variable {resting moving : Snapshot T}

/-- At equal positions, snapshots have all frames at the same places. -/
theorem Taken.samePlace
    (wellFormed : mechanism.WellFormed)
    (first : mechanism.Taken positions velocities resting)
    (second : mechanism.Taken positions rates moving)
    {frame : Nat}
    {motion movingMotion : FrameMotion T}
    (found : resting.frames[frame]? = some motion)
    (movingFound : moving.frames[frame]? = some movingMotion) :
    motion.SamePlace movingMotion := by
  refine first.related wellFormed second FrameMotion.SamePlace
    ⟨rfl, rfl, rfl⟩ ?_ found movingFound
  intro body _ parent otherParent state otherState stateFound
    otherStateFound same
  rw [coordinate_eq stateFound otherStateFound]
  exact same.follow body _ _ _

/--
Writing the columns of a chain adds the velocity of a point of its frame to
the product with the rates, as long as none of its columns was written before.
-/
def WritesVelocity
    (mechanism : Mechanism K)
    (resting moving : Snapshot T)
    (rates : List T)
    (position : Vec3 T)
    (frame : Nat)
    (chain : List (Nat × Body K)) : Prop :=
  ∀ {columns : Columns T} {motion : FrameMotion T},
    columns.length = mechanism.dofCount →
    (∀ link ∈ chain, ∀ dof, link.2.dof = some dof →
      columns[dof]? = some 0) →
    moving.frames[frame]? = some motion →
    ∃ written,
      writeColumns resting position chain columns = .ok written ∧
        written.length = mechanism.dofCount ∧
        Columns.combine (written.zip rates) =
          Columns.combine (columns.zip rates) +
            motion.pointVelocity position

/-- The world has no columns and does not move. -/
theorem WritesVelocity.world
    (moved : mechanism.Taken positions rates moving)
    (position : Vec3 T) :
    mechanism.WritesVelocity resting moving rates position 0 [] := by
  intro columns motion width _ found
  rw [moved.swept.world] at found
  cases found
  exact ⟨columns, rfl, width, by simp⟩

/-- A body writes its own column and then those of its parent. -/
theorem WritesVelocity.follow
    (wellFormed : mechanism.WellFormed)
    (taken : mechanism.Taken positions velocities resting)
    (moved : mechanism.Taken positions rates moving)
    (position : Vec3 T)
    {index : Nat}
    {body : Body K}
    {chain : List (Nat × Body K)}
    (bodyFound : mechanism.bodies[index]? = some body)
    (hasChain : mechanism.chain? body.parent.index = some chain)
    (earlier :
      mechanism.WritesVelocity resting moving rates position
        body.parent.index chain) :
    mechanism.WritesVelocity resting moving rates position
      (index + 1) ((index + 1, body) :: chain) := by
  intro columns motion width untouched found
  obtain ⟨parent, state, parentFound, stateFound, shape⟩ :=
    moved.swept.follows bodyFound
  rw [shape] at found
  cases found
  cases dofShape : body.dof with
  | none =>
      rw [dofShape] at stateFound
      cases stateFound
      obtain ⟨written, accepted, writtenWidth, product⟩ :=
        earlier width
          (fun link member => untouched link (by simp [member]))
          parentFound
      refine ⟨written, ?_, writtenWidth, ?_⟩
      · rwa [writeColumns_cons_of_none dofShape]
      · rw [product, FrameMotion.pointVelocity_follow]
        simp
  | some dof =>
      have dofInside := wellFormed.dof_lt bodyFound dofShape
      have isZero : columns[dof]? = some 0 :=
        untouched (index + 1, body) (by simp) dof dofShape
      rw [dofShape] at stateFound
      have hasRate := (coordinateOf_some_iff.mp stateFound).2
      have bodyInside : index < mechanism.bodies.length :=
        (List.getElem?_eq_some_iff.mp bodyFound).1
      obtain ⟨restingMotion, restingFound⟩ :=
        taken.motion_exists (Nat.succ_lt_succ bodyInside)
      have same :=
        taken.samePlace wellFormed moved restingFound shape
      -- The links that remain have other coordinates, so the write is safe.
      have stillUntouched :
          ∀ link ∈ chain, ∀ other, link.2.dof = some other →
            (columns.set dof
              (jointColumn body.joint restingMotion position))[other]? =
                some 0 := by
        intro link member other hasOther
        have different : dof ≠ other := by
          rintro rfl
          exact
            wellFormed.chain_dof_ne bodyFound dofShape hasChain
              link member hasOther
        rw [List.getElem?_set_ne different]
        exact untouched link (by simp [member]) other hasOther
      obtain ⟨written, accepted, writtenWidth, product⟩ :=
        earlier (by simpa using width) stillUntouched parentFound
      refine ⟨written, ?_, writtenWidth, ?_⟩
      · have writable : dof < columns.length := by
          rw [width]
          exact dofInside
        exact
          (writeColumns_cons_eq_ok_iff dofShape).mpr
            ⟨restingMotion, restingFound, writable, accepted⟩
      · rw [product, FrameMotion.pointVelocity_follow,
          Columns.combine_set isZero hasRate, same.jointColumn]
        ext <;> simp <;> ring

/-- The world Jacobian times the rates is the velocity of the point. -/
theorem worldJacobian_velocity
    (wellFormed : mechanism.WellFormed)
    (taken : mechanism.Taken positions velocities resting)
    (moved : mechanism.Taken positions rates moving)
    (position : Vec3 T)
    {frame : FrameId}
    {motion : FrameMotion T}
    (found : moving.frames[frame.index]? = some motion) :
    ∃ columns,
      mechanism.worldJacobian resting frame position = .ok columns ∧
        columns.length = mechanism.dofCount ∧
        Columns.combine (columns.zip rates) =
          motion.pointVelocity position := by
  have inside : frame.index < mechanism.frameCount := by
    have frameInside := (List.getElem?_eq_some_iff.mp found).1
    rw [moved.swept.count] at frameInside
    exact frameInside
  obtain ⟨chain, hasChain, writes⟩ :=
    wellFormed.grounded.chain_induction
      (motive := mechanism.WritesVelocity resting moving rates position)
      (WritesVelocity.world moved position)
      (WritesVelocity.follow wellFormed taken moved position)
      inside
  have untouched :
      ∀ link ∈ chain, ∀ dof, link.2.dof = some dof →
        (Columns.zeros mechanism.dofCount : Columns T)[dof]? =
          some 0 := by
    intro link member dof hasDof
    obtain ⟨place, _, _, linkFound⟩ :=
      wellFormed.grounded.link_found inside hasChain link member
    have dofInside := wellFormed.dof_lt linkFound hasDof
    simp [Columns.zeros, dofInside]
  obtain ⟨columns, accepted, width, product⟩ :=
    writes (by simp) untouched found
  refine ⟨columns, ?_, width, ?_⟩
  · simp only [worldJacobian, hasChain]
    exact accepted
  · rw [product, Columns.combine_zeros, Vec3.zero_add]

end Mechanism

end Linkage
