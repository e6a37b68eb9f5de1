import Mathlib.Analysis.SpecialFunctions.Trigonometric.Basic
import Linkage.Proofs.Mechanism.Reading
import Linkage.Proofs.Mechanism.Weld

namespace Linkage

/-!
# Locked joints

A joint that is held at one coordinate puts its body where a rigid attachment
could put it as well.  While the coordinate does not change, every frame then
moves as in the welded mechanism.  A Jacobian is decided by the velocities it
gives at all rates, so that of the welded mechanism is the original one without
the column of the joint.
-/

variable {K T : Type}

/-- Two motions that agree in all but the axis of the joint. -/
structure FrameMotion.MovesLike
    (first second : FrameMotion T) : Prop where
  rotation : first.rotation = second.rotation
  origin : first.origin = second.origin
  angularVelocity : first.angularVelocity = second.angularVelocity
  originVelocity : first.originVelocity = second.originVelocity
  angularBias : first.angularBias = second.angularBias
  originBias : first.originBias = second.originBias

namespace FrameMotion

variable {first second : FrameMotion T}

theorem MovesLike.refl
    (motion : FrameMotion T) :
    motion.MovesLike motion :=
  ⟨rfl, rfl, rfl, rfl, rfl, rfl⟩

theorem MovesLike.pointPosition
    [One T] [Add T] [Mul T]
    (alike : first.MovesLike second)
    (point : Vec3 T) :
    first.pointPosition point = second.pointPosition point := by
  rw [FrameMotion.pointPosition, FrameMotion.pointPosition,
    alike.rotation, alike.origin]

theorem MovesLike.pointVelocity
    [Add T] [Sub T] [Mul T]
    (alike : first.MovesLike second)
    (position : Vec3 T) :
    first.pointVelocity position = second.pointVelocity position := by
  rw [FrameMotion.pointVelocity, FrameMotion.pointVelocity,
    alike.originVelocity, alike.angularVelocity, alike.origin]

/-- A body does not notice the axis of its parent. -/
theorem MovesLike.follow_eq
    [One K] [Add K] [Sub K] [Mul K]
    [Zero T] [One T] [Add T] [Sub T] [Neg T] [Mul T]
    [Elementary T] [Constant K T]
    (alike : first.MovesLike second)
    (body : Body K)
    (coordinate rate : T) :
    first.follow body coordinate rate =
      second.follow body coordinate rate := by
  simp only [follow, alike.pointVelocity, alike.rotation, alike.origin,
    alike.angularVelocity, alike.angularBias, alike.originBias]

end FrameMotion

section Held

variable [CommRing K] [Elementary K]

/--
A place for a rigid attachment where the joint puts the body at a coordinate:
the offset, turned about the axis or moved along it.
-/
def Body.HeldAt
    (body : Body K)
    (amount : K)
    (placement : Pose K) : Prop :=
  match body.joint with
  | .fixed =>
      placement = body.offset
  | .revolute axis =>
      placement.position = body.offset.position ∧
        placement.rotation.toMatrix =
          body.offset.rotation.toMatrix.times
            (Mat3.axisAngle axis amount)
  | .prismatic axis =>
      placement.position =
          body.offset.position +
            (body.offset.rotation.toMatrix.apply axis).scale amount ∧
        placement.rotation.toMatrix = body.offset.rotation.toMatrix

variable [CommRing T] [Elementary T] [Constant K T]
variable [PreservesArithmetic (Constant.constant : K → T)]
variable [PreservesTrigonometry (Constant.constant : K → T)]

/-- A body whose joint is held moves as if it were attached there. -/
theorem FrameMotion.follow_weld
    (parent : FrameMotion T)
    {body : Body K}
    {amount : K}
    {placement : Pose K}
    (held : body.HeldAt amount placement) :
    (parent.follow body (Constant.constant amount) 0).MovesLike
      (parent.follow (body.weld placement) 0 0) := by
  obtain ⟨name, parentFrame, joint, offset, dof⟩ := body
  cases joint with
  | fixed =>
      obtain rfl : placement = offset := held
      exact .refl _
  | revolute axis =>
      obtain ⟨position, rotation⟩ := held
      dsimp only at position rotation
      have turned :
          parent.rotation.times
              (placement.rotation.toMatrix.map Constant.constant) =
            (parent.rotation.times
                (offset.rotation.toMatrix.map Constant.constant)).times
              (Mat3.axisAngle (axis.map Constant.constant)
                (Constant.constant amount)) := by
        rw [rotation, Mat3.map_times, Mat3.map_axisAngle,
          Mat3.times_assoc]
      constructor <;>
        simp [Body.weld, follow, JointMotion.of, position, turned]
  | prismatic axis =>
      obtain ⟨position, rotation⟩ := held
      dsimp only at position rotation
      have moved :
          parent.origin +
              parent.rotation.apply
                (placement.position.map Constant.constant) =
            parent.origin +
                parent.rotation.apply
                  (offset.position.map Constant.constant) +
              ((parent.rotation.times
                  (offset.rotation.toMatrix.map Constant.constant)).apply
                (axis.map Constant.constant)).scale
                (Constant.constant amount) := by
        rw [position, Vec3.map_add, Vec3.map_scale, Mat3.map_apply,
          Mat3.apply_add, Mat3.apply_scale, Mat3.times_apply,
          Vec3.add_assoc]
      constructor <;>
        simp [Body.weld, follow, JointMotion.of, moved, rotation]

/-- The arm locked after half a turn. -/
noncomputable def Pose.halfTurn : Pose ℝ :=
  ⟨⟨1, 0, 0⟩, ⟨0, 0, 0, 1⟩⟩

/-- A half turn about the vertical, as a quaternion and as a rotation. -/
theorem Pose.halfTurn_rotation :
    Pose.halfTurn.rotation.toMatrix =
      (Quaternion.identity : Quaternion ℝ).toMatrix.times
        (Mat3.axisAngle ⟨0, 0, 1⟩ Real.pi) := by
  have sine : (Elementary.sin Real.pi : ℝ) = 0 := Real.sin_pi
  have cosine : (Elementary.cos Real.pi : ℝ) = -1 := Real.cos_pi
  ext <;>
    simp [Pose.halfTurn, Quaternion.toMatrix, Quaternion.identity,
      Mat3.times, Mat3.transpose, Mat3.axisAngle, Mat3.identity,
      Mat3.scale, Mat3.skew, Mat3.outer, Vec3.scale, Vec3.rowTimes_eq,
      sine, cosine, two]

end Held

namespace Mechanism

/-- A body with another coordinate reads the same state at its new number. -/
theorem coordinateOf_closeGap
    [Zero T]
    (positions velocities : List T)
    {removed : Nat}
    {dof : Option Nat}
    (left : dof ≠ some removed) :
    coordinateOf (positions.eraseIdx removed)
        (velocities.eraseIdx removed) (dof.map (closeGap removed)) =
      coordinateOf positions velocities dof := by
  cases dof with
  | none =>
      rfl
  | some index =>
      have other : index ≠ removed := fun same =>
        left (congrArg some same)
      simp only [Option.map_some, coordinateOf, entry,
        getElem?_eraseIdx_closeGap _ other]

/-- Two bodies with one coordinate are the same. -/
theorem WellFormed.dof_ne_of_ne
    {mechanism : Mechanism K}
    (wellFormed : mechanism.WellFormed)
    {index other dof : Nat}
    (different : other ≠ index)
    {body otherBody : Body K}
    (found : mechanism.bodies[index]? = some body)
    (otherFound : mechanism.bodies[other]? = some otherBody)
    (hasDof : body.dof = some dof) :
    otherBody.dof ≠ some dof := by
  rcases Nat.lt_or_gt_of_ne different with before | after
  · intro otherHasDof
    exact
      wellFormed.dof_ne_of_lt before otherFound found otherHasDof hasDof
  · exact wellFormed.dof_ne_of_lt after found otherFound hasDof

section Welded

variable [CommRing K] [Elementary K]

/--
The second mechanism is the first with the joint of one body replaced by a rigid
attachment, where the joint would put the body at a coordinate.
-/
structure Welded
    (mechanism welded : Mechanism K)
    (index removed : Nat)
    (amount : K)
    (placement : Pose K) : Prop where
  wellFormed : mechanism.WellFormed
  weldedWellFormed : welded.WellFormed
  bodies_eq :
    welded.bodies = (mechanism.weld index removed placement).bodies
  dofCount_eq : welded.dofCount = mechanism.dofCount - 1
  body :
    ∃ body,
      mechanism.bodies[index]? = some body ∧
        body.dof = some removed ∧ body.HeldAt amount placement

namespace Welded

variable {mechanism welded : Mechanism K}
variable {index removed : Nat}
variable {amount : K}
variable {placement : Pose K}

/-- The coordinate that is gone was one of the mechanism. -/
theorem removed_lt
    (same : mechanism.Welded welded index removed amount placement) :
    removed < mechanism.dofCount := by
  obtain ⟨body, found, hasDof, _⟩ := same.body
  exact same.wellFormed.dof_lt found hasDof

theorem frameCount_eq
    (same : mechanism.Welded welded index removed amount placement) :
    welded.frameCount = mechanism.frameCount := by
  rw [frameCount, same.bodies_eq, weld, List.length_mapIdx, frameCount]

/-- The frames are the same. -/
theorem contains_eq
    (same : mechanism.Welded welded index removed amount placement)
    (frame : FrameId) :
    welded.contains frame = mechanism.contains frame := by
  rw [contains, contains, same.frameCount_eq]

/-- A state without the coordinate has as many numbers as are left. -/
theorem length_eraseIdx
    {α : Type}
    (same : mechanism.Welded welded index removed amount placement)
    {items : List α}
    (count : items.length = mechanism.dofCount) :
    (items.eraseIdx removed).length = welded.dofCount := by
  have inside : removed < items.length := by
    rw [count]
    exact same.removed_lt
  rw [List.length_eraseIdx_of_lt inside, count, same.dofCount_eq]

/-- Each body still hangs from the same frame. -/
theorem parent_eq
    (same : mechanism.Welded welded index removed amount placement)
    {place : Nat}
    {body weldedBody : Body K}
    (found : mechanism.bodies[place]? = some body)
    (weldedFound : welded.bodies[place]? = some weldedBody) :
    weldedBody.parent = body.parent := by
  rw [same.bodies_eq] at weldedFound
  by_cases isJoined : place = index
  · subst isJoined
    cases (weld_bodies_self found).symm.trans weldedFound
    rfl
  · cases (weld_bodies_of_ne found isJoined).symm.trans weldedFound
    rfl

/-- Jacobians that give the same velocities differ by the column removed. -/
theorem eq_eraseIdx
    [CommRing T]
    (same : mechanism.Welded welded index removed amount placement)
    {columns weldedColumns : Columns T}
    (width : columns.length = mechanism.dofCount)
    (weldedWidth : weldedColumns.length = welded.dofCount)
    (agree :
      ∀ rates : List T,
        rates.length = welded.dofCount →
        Columns.combine (columns.zip (rates.insertIdx removed 0)) =
          Columns.combine (weldedColumns.zip rates)) :
    weldedColumns = columns.eraseIdx removed := by
  refine
    Columns.eq_of_combine_eq
      (weldedWidth.trans (same.length_eraseIdx width).symm)
      fun rates rateCount => ?_
  rw [← agree rates (rateCount.trans weldedWidth),
    Columns.combine_insertIdx_zero]

variable [CommRing T] [Elementary T] [Constant K T]
variable [PreservesArithmetic (Constant.constant : K → T)]
variable [PreservesTrigonometry (Constant.constant : K → T)]
variable {positions velocities : List T}
variable {snapshot weldedSnapshot : Snapshot T}

/--
Bodies whose parents move alike move alike: the one with the joint acts as its
weld, and the others read what they read before.
-/
theorem follow
    (same : mechanism.Welded welded index removed amount placement)
    (held : positions[removed]? = some (Constant.constant amount))
    (atRest : velocities[removed]? = some 0)
    {place : Nat}
    {body weldedBody : Body K}
    (found : mechanism.bodies[place]? = some body)
    (weldedFound : welded.bodies[place]? = some weldedBody)
    {parent weldedParent : FrameMotion T}
    {state weldedState : T × T}
    (stateFound :
      coordinateOf positions velocities body.dof = .ok state)
    (weldedStateFound :
      coordinateOf (positions.eraseIdx removed)
          (velocities.eraseIdx removed) weldedBody.dof =
        .ok weldedState)
    (alike : parent.MovesLike weldedParent) :
    (parent.follow body state.1 state.2).MovesLike
      (weldedParent.follow weldedBody weldedState.1 weldedState.2) := by
  obtain ⟨joined, joinedFound, hasDof, heldAt⟩ := same.body
  rw [same.bodies_eq] at weldedFound
  by_cases isJoined : place = index
  · subst isJoined
    cases found.symm.trans joinedFound
    cases (weld_bodies_self found).symm.trans weldedFound
    cases weldedStateFound
    rw [hasDof, coordinateOf_some_iff, held, atRest] at stateFound
    obtain ⟨coordinate, rate⟩ := stateFound
    rw [← Option.some.inj coordinate, ← Option.some.inj rate,
      ← alike.follow_eq]
    exact parent.follow_weld heldAt
  · have left : body.dof ≠ some removed :=
      same.wellFormed.dof_ne_of_ne isJoined joinedFound found hasDof
    cases (weld_bodies_of_ne found isJoined).symm.trans weldedFound
    have sameState :=
      (coordinateOf_closeGap positions velocities left).trans stateFound
    cases sameState.symm.trans weldedStateFound
    rw [alike.follow_eq]
    exact .refl _

/-- While the joint is held and at rest, all frames move alike. -/
theorem movesLike
    (same : mechanism.Welded welded index removed amount placement)
    (held : positions[removed]? = some (Constant.constant amount))
    (atRest : velocities[removed]? = some 0)
    (taken : mechanism.Taken positions velocities snapshot)
    (weldedTaken :
      welded.Taken (positions.eraseIdx removed)
        (velocities.eraseIdx removed) weldedSnapshot)
    {frame : Nat}
    {motion weldedMotion : FrameMotion T}
    (found : snapshot.frames[frame]? = some motion)
    (weldedFound : weldedSnapshot.frames[frame]? = some weldedMotion) :
    motion.MovesLike weldedMotion :=
  taken.related_of_sameParents same.wellFormed weldedTaken
    same.parent_eq FrameMotion.MovesLike (.refl _)
    (same.follow held atRest) found weldedFound

/-- Whatever the other coordinates do, all frames move alike. -/
theorem moving
    (same : mechanism.Welded welded index removed amount placement)
    (positionCount : positions.length = mechanism.dofCount)
    (held : positions[removed]? = some (Constant.constant amount))
    {rates : List T}
    (rateCount : rates.length = welded.dofCount) :
    ∃ moving weldedMoving : Snapshot T,
      mechanism.Taken positions (rates.insertIdx removed 0) moving ∧
        welded.Taken (positions.eraseIdx removed) rates weldedMoving ∧
        ∀ {frame : FrameId},
          mechanism.contains frame = true →
          ∃ motion weldedMotion,
            moving.motion? frame = some motion ∧
              weldedMoving.motion? frame = some weldedMotion ∧
              motion.MovesLike weldedMotion := by
  have removedInside : removed ≤ rates.length := by
    rw [rateCount, same.dofCount_eq]
    exact Nat.le_sub_one_of_lt same.removed_lt
  have insertedCount :
      (rates.insertIdx removed 0).length = mechanism.dofCount := by
    rw [List.length_insertIdx_of_le_length removedInside, rateCount,
      same.dofCount_eq,
      Nat.sub_add_cancel (Nat.one_le_of_lt same.removed_lt)]
  obtain ⟨moving, _, moved⟩ :=
    same.wellFormed.snapshot_ok positionCount insertedCount
  obtain ⟨weldedMoving, _, weldedMoved⟩ :=
    same.weldedWellFormed.snapshot_ok
      (same.length_eraseIdx positionCount) rateCount
  refine ⟨moving, weldedMoving, moved, weldedMoved, ?_⟩
  intro frame inside
  obtain ⟨motion, found⟩ := moved.motion_of_contains inside
  obtain ⟨weldedMotion, weldedFound⟩ :=
    weldedMoved.motion_of_contains
      ((same.contains_eq frame).trans inside)
  refine ⟨motion, weldedMotion, found, weldedFound, ?_⟩
  refine same.movesLike held ?_ moved ?_ found weldedFound
  · rw [List.getElem?_insertIdx_self, if_pos removedInside]
  · rwa [List.eraseIdx_insertIdx_self]

theorem worldJacobian_eraseIdx
    (same : mechanism.Welded welded index removed amount placement)
    (positionCount : positions.length = mechanism.dofCount)
    (held : positions[removed]? = some (Constant.constant amount))
    (taken : mechanism.Taken positions velocities snapshot)
    (weldedTaken :
      welded.Taken (positions.eraseIdx removed)
        (velocities.eraseIdx removed) weldedSnapshot)
    {frame : FrameId}
    (inside : mechanism.contains frame = true)
    (position : Vec3 T) :
    ∃ columns,
      mechanism.worldJacobian snapshot frame position = .ok columns ∧
        welded.worldJacobian weldedSnapshot frame position =
          .ok (columns.eraseIdx removed) := by
  have weldedInside := (same.contains_eq frame).trans inside
  obtain ⟨columns, found, width⟩ :=
    taken.worldJacobian_ok same.wellFormed.grounded inside position
  obtain ⟨weldedColumns, weldedFound, weldedWidth⟩ :=
    weldedTaken.worldJacobian_ok same.weldedWellFormed.grounded
      weldedInside position
  refine ⟨columns, found, ?_⟩
  rw [weldedFound, same.eq_eraseIdx width weldedWidth]
  intro rates rateCount
  obtain ⟨moving, weldedMoving, moved, weldedMoved, alike⟩ :=
    same.moving positionCount held rateCount
  obtain ⟨motion, weldedMotion, motionFound, weldedMotionFound,
      movesLike⟩ :=
    alike inside
  obtain ⟨sameColumns, sameFound, _, velocity⟩ :=
    worldJacobian_velocity same.wellFormed taken moved position
      motionFound
  obtain ⟨sameWelded, sameWeldedFound, _, weldedVelocity⟩ :=
    worldJacobian_velocity same.weldedWellFormed weldedTaken weldedMoved
      position weldedMotionFound
  cases found.symm.trans sameFound
  cases weldedFound.symm.trans sameWeldedFound
  rw [velocity, weldedVelocity, movesLike.pointVelocity]

theorem pointJacobian_eraseIdx
    (same : mechanism.Welded welded index removed amount placement)
    (positionCount : positions.length = mechanism.dofCount)
    (held : positions[removed]? = some (Constant.constant amount))
    (taken : mechanism.Taken positions velocities snapshot)
    (weldedTaken :
      welded.Taken (positions.eraseIdx removed)
        (velocities.eraseIdx removed) weldedSnapshot)
    {frame measuredIn expressedIn : FrameId}
    (inside : mechanism.contains frame = true)
    (referenceInside : mechanism.contains measuredIn = true)
    (targetInside : mechanism.contains expressedIn = true)
    (point : Vec3 T) :
    ∃ columns,
      mechanism.pointJacobian snapshot frame point measuredIn
            expressedIn =
          .ok columns ∧
        welded.pointJacobian weldedSnapshot frame point measuredIn
            expressedIn =
          .ok (columns.eraseIdx removed) := by
  obtain ⟨columns, found, width⟩ :=
    taken.pointJacobian_ok same.wellFormed.grounded inside
      referenceInside targetInside point
  obtain ⟨weldedColumns, weldedFound, weldedWidth⟩ :=
    weldedTaken.pointJacobian_ok same.weldedWellFormed.grounded
      ((same.contains_eq frame).trans inside)
      ((same.contains_eq measuredIn).trans referenceInside)
      ((same.contains_eq expressedIn).trans targetInside) point
  refine ⟨columns, found, ?_⟩
  rw [weldedFound, same.eq_eraseIdx width weldedWidth]
  intro rates rateCount
  obtain ⟨moving, weldedMoving, moved, weldedMoved, alike⟩ :=
    same.moving positionCount held rateCount
  obtain ⟨motion, weldedMotion, motionFound, weldedMotionFound,
      motionAlike⟩ :=
    alike inside
  obtain ⟨reference, weldedReference, referenceFound,
      weldedReferenceFound, referenceAlike⟩ :=
    alike referenceInside
  obtain ⟨target, weldedTarget, targetFound, weldedTargetFound,
      targetAlike⟩ :=
    alike targetInside
  obtain ⟨sameColumns, sameFound, _, velocity⟩ :=
    pointJacobian_velocity same.wellFormed taken moved motionFound
      referenceFound targetFound point
  obtain ⟨sameWelded, sameWeldedFound, _, weldedVelocity⟩ :=
    pointJacobian_velocity same.weldedWellFormed weldedTaken weldedMoved
      weldedMotionFound weldedReferenceFound weldedTargetFound point
  cases found.symm.trans sameFound
  cases weldedFound.symm.trans sameWeldedFound
  rw [velocity, weldedVelocity, targetAlike.rotation,
    motionAlike.pointPosition, motionAlike.pointVelocity,
    referenceAlike.pointVelocity]

end Welded

variable [Div K] [OfScientific K] [BEq K] [LT K] [DecidableLT K]

/-- Declared with a rigid attachment there, the bodies are the welded ones. -/
theorem Assembled.welded
    {declarations : List (Declaration K)}
    {mechanism welded : Mechanism K}
    (assembled : Assembled declarations mechanism)
    {index removed : Nat}
    {body : Body K}
    (found : mechanism.bodies[index]? = some body)
    (hasDof : body.dof = some removed)
    {declaration : Declaration K}
    (declared : declarations[index]? = some declaration)
    {amount : K}
    {placement : Pose K}
    (heldAt : body.HeldAt amount placement)
    (finite : placement.allFinite = true)
    (weldedAssembled :
      Assembled (declarations.set index (declaration.weld placement))
        welded) :
    mechanism.Welded welded index removed amount placement := by
  obtain ⟨sameBodies, sameCount⟩ :=
    (assembled.weld found hasDof declared finite).unique weldedAssembled
  exact
    { wellFormed := assembled.built.wellFormed
      weldedWellFormed := weldedAssembled.built.wellFormed
      bodies_eq := sameBodies
      dofCount_eq := sameCount
      body := ⟨body, found, hasDof, heldAt⟩ }

variable [CommRing T] [Elementary T] [Constant K T]
variable [PreservesArithmetic (Constant.constant : K → T)]
variable [PreservesTrigonometry (Constant.constant : K → T)]

/--
Declaring a body once more with a rigid attachment, at the place where its joint
would hold it, is accepted, and the mechanism has one coordinate less.  While
the joint is held there, every frame moves in it as in the original, at the
state without that coordinate.  Its Jacobians are the original ones without that
column.
-/
theorem locked_joint_is_welded
    {declarations : List (Declaration K)}
    {mechanism : Mechanism K}
    (assembled : Assembled declarations mechanism)
    {index removed : Nat}
    {body : Body K}
    (found : mechanism.bodies[index]? = some body)
    (hasDof : body.dof = some removed)
    {declaration : Declaration K}
    (declared : declarations[index]? = some declaration)
    {amount : K}
    {placement : Pose K}
    (heldAt : body.HeldAt amount placement)
    (finite : placement.allFinite = true)
    {positions velocities : List T}
    (positionCount : positions.length = mechanism.dofCount)
    (velocityCount : velocities.length = mechanism.dofCount)
    (held : positions[removed]? = some (Constant.constant amount))
    (atRest : velocities[removed]? = some 0) :
    (∃ welded,
      Assembled (declarations.set index (declaration.weld placement))
        welded) ∧
      ∀ {welded : Mechanism K},
        Assembled (declarations.set index (declaration.weld placement))
          welded →
        welded.frameCount = mechanism.frameCount ∧
          welded.dofCount = mechanism.dofCount - 1 ∧
          ∃ snapshot weldedSnapshot : Snapshot T,
            mechanism.snapshot positions velocities = .ok snapshot ∧
              welded.snapshot (positions.eraseIdx removed)
                  (velocities.eraseIdx removed) =
                .ok weldedSnapshot ∧
              (∀ frame, mechanism.contains frame = true →
                ∃ motion weldedMotion,
                  snapshot.motion? frame = some motion ∧
                    weldedSnapshot.motion? frame = some weldedMotion ∧
                    motion.MovesLike weldedMotion) ∧
              (∀ frame, mechanism.contains frame = true →
                ∀ position : Vec3 T,
                  ∃ columns,
                    mechanism.worldJacobian snapshot frame position =
                        .ok columns ∧
                      welded.worldJacobian weldedSnapshot frame
                          position =
                        .ok (columns.eraseIdx removed)) ∧
              ∀ {frame measuredIn expressedIn : FrameId},
                mechanism.contains frame = true →
                mechanism.contains measuredIn = true →
                mechanism.contains expressedIn = true →
                ∀ point : Vec3 T,
                  ∃ columns,
                    mechanism.pointJacobian snapshot frame point
                          measuredIn expressedIn =
                        .ok columns ∧
                      welded.pointJacobian weldedSnapshot frame point
                          measuredIn expressedIn =
                        .ok (columns.eraseIdx removed) := by
  refine ⟨⟨_, assembled.weld found hasDof declared finite⟩, ?_⟩
  intro welded weldedAssembled
  have same :=
    assembled.welded found hasDof declared heldAt finite weldedAssembled
  obtain ⟨snapshot, snapshotFound, taken⟩ :=
    same.wellFormed.snapshot_ok positionCount velocityCount
  obtain ⟨weldedSnapshot, weldedSnapshotFound, weldedTaken⟩ :=
    same.weldedWellFormed.snapshot_ok
      (same.length_eraseIdx positionCount)
      (same.length_eraseIdx velocityCount)
  refine
    ⟨same.frameCount_eq, same.dofCount_eq, snapshot, weldedSnapshot,
      snapshotFound, weldedSnapshotFound, ?_, ?_, ?_⟩
  · intro frame inside
    obtain ⟨motion, motionFound⟩ := taken.motion_of_contains inside
    obtain ⟨weldedMotion, weldedMotionFound⟩ :=
      weldedTaken.motion_of_contains
        ((same.contains_eq frame).trans inside)
    exact
      ⟨motion, weldedMotion, motionFound, weldedMotionFound,
        same.movesLike held atRest taken weldedTaken motionFound
          weldedMotionFound⟩
  · intro frame inside position
    exact
      same.worldJacobian_eraseIdx positionCount held taken weldedTaken
        inside position
  · intro frame measuredIn expressedIn inside referenceInside
      targetInside point
    exact
      same.pointJacobian_eraseIdx positionCount held taken weldedTaken
        inside referenceInside targetInside point

/-- The arm is locked after half a turn, while the slider slides on. -/
theorem locked_joint_is_welded_slidingArm :
    Assembled slidingArmDeclarations slidingArm ∧
      ∃ (declaration : Declaration ℝ) (welded : Mechanism ℝ),
        slidingArmDeclarations[0]? = some declaration ∧
          Assembled
            (slidingArmDeclarations.set 0
              (declaration.weld Pose.halfTurn)) welded ∧
          welded.dofCount = 1 ∧
          ∃ (snapshot weldedSnapshot : Snapshot ℝ)
            (motion weldedMotion : FrameMotion ℝ)
            (columns : Columns ℝ),
            slidingArm.snapshot [Real.pi, 2] [0, 4] = .ok snapshot ∧
              welded.snapshot [2] [4] = .ok weldedSnapshot ∧
              snapshot.motion? ⟨2⟩ = some motion ∧
              weldedSnapshot.motion? ⟨2⟩ = some weldedMotion ∧
              motion.MovesLike weldedMotion ∧
              slidingArm.pointJacobian snapshot ⟨2⟩ ⟨1, 2, 3⟩
                  .world ⟨1⟩ =
                .ok columns ∧
              welded.pointJacobian weldedSnapshot ⟨2⟩ ⟨1, 2, 3⟩
                  .world ⟨1⟩ =
                .ok (columns.eraseIdx 0) := by
  have finite : Pose.halfTurn.allFinite = true := by
    simp [Pose.halfTurn, Pose.allFinite, Vec3.allFinite,
      Quaternion.allFinite]
  obtain ⟨arm, armFound, hasDof, heldAt⟩ :
      ∃ arm,
        slidingArm.bodies[0]? = some arm ∧
          arm.dof = some 0 ∧ arm.HeldAt Real.pi Pose.halfTurn :=
    ⟨_, rfl, rfl, rfl, Pose.halfTurn_rotation⟩
  obtain ⟨declaration, declared⟩ :
      ∃ declaration, slidingArmDeclarations[0]? = some declaration :=
    ⟨_, rfl⟩
  obtain ⟨⟨welded, weldedAssembled⟩, locked⟩ :=
    locked_joint_is_welded slidingArm_assembled armFound hasDof declared
      heldAt finite
      (rfl : [Real.pi, 2].length = 2) (rfl : [(0 : ℝ), 4].length = 2)
      rfl rfl
  obtain ⟨_, count, snapshot, weldedSnapshot, found, weldedFound,
      motions, _, jacobians⟩ :=
    locked weldedAssembled
  obtain ⟨motion, weldedMotion, motionFound, weldedMotionFound, alike⟩ :=
    motions ⟨2⟩ rfl
  obtain ⟨columns, columnsFound, weldedColumnsFound⟩ :=
    @jacobians ⟨2⟩ .world ⟨1⟩ rfl rfl rfl ⟨1, 2, 3⟩
  exact
    ⟨slidingArm_assembled, declaration, welded, declared,
      weldedAssembled, count, snapshot, weldedSnapshot, motion,
      weldedMotion, columns, found, weldedFound, motionFound,
      weldedMotionFound, alike, columnsFound, weldedColumnsFound⟩

end Welded

end Mechanism

end Linkage
