import Linkage.Proofs.Mechanism.Orderly
import Linkage.Proofs.Mechanism.Reading
import Linkage.Proofs.Mechanism.SlidingArm

namespace Linkage

/-!
# Fixed joints are transparent

A body with a fixed joint is a rigid extension of its parent.  The snapshot
computes a motion of its own for it, and a Jacobian meets it on the way down.
Both come to what the parent has: the two motions move each place of the world
alike, and the body has no column to write.  A tool frame may therefore be
replaced by its link wherever it is asked about.
-/

variable {K T : Type}

section Bodies

variable [One K] [Add K] [Sub K] [Mul K]

/-- Where a point of a body is on the parent, if the joint does not move. -/
def Body.pointOnParent
    [One T] [Add T] [Mul T] [Constant K T]
    (body : Body K)
    (point : Vec3 T) : Vec3 T :=
  body.offset.position.map Constant.constant +
    (body.offset.rotation.toMatrix.map Constant.constant).apply point

variable [CommRing T] [Elementary T] [Constant K T]

/--
A motion extends that of a parent rigidly if points of the body are where they
are on the parent, and if both accelerate alike at each place of the world.
-/
structure FrameMotion.Extends
    (motion parent : FrameMotion T)
    (body : Body K) : Prop where
  pointPosition :
    ∀ point : Vec3 T,
      motion.pointPosition point =
        parent.pointPosition (body.pointOnParent point)
  pointBias :
    ∀ position : Vec3 T,
      motion.pointBias position = parent.pointBias position

/-- A body with a fixed joint extends its parent, whatever it reads. -/
theorem FrameMotion.extends_follow
    (parent : FrameMotion T)
    {body : Body K}
    (isFixed : body.joint = .fixed)
    (coordinate rate : T) :
    (parent.follow body coordinate rate).Extends parent body where
  pointPosition point := by
    simp only [FrameMotion.pointPosition, follow, isFixed, JointMotion.of,
      Body.pointOnParent, Mat3.times_apply, Mat3.apply_add,
      Vec3.add_assoc]
  pointBias position := by
    simp only [FrameMotion.pointBias, follow, isFixed, JointMotion.of,
      Vec3.cross_zero]
    -- The bias at the origin of the body is the one that the parent has there.
    ext <;> simp [Vec3.cross, Vec3.scale] <;> ring

end Bodies

namespace Mechanism

/-- The frame of a body comes right after the bodies before it. -/
theorem exists_of_body?
    {mechanism : Mechanism K}
    {frame : FrameId}
    {body : Body K}
    (found : mechanism.body? frame = some body) :
    ∃ index,
      frame = ⟨index + 1⟩ ∧ mechanism.bodies[index]? = some body := by
  obtain ⟨number⟩ := frame
  cases number with
  | zero => cases found
  | succ index => exact ⟨index, rfl, found⟩

/-- A body without a coordinate has the world Jacobians of its parent. -/
theorem Grounded.worldJacobian_of_dof_none
    [Zero T] [Sub T] [Mul T]
    {mechanism : Mechanism K}
    (grounded : mechanism.Grounded)
    {frame : FrameId}
    {body : Body K}
    (bodyFound : mechanism.body? frame = some body)
    (hasNone : body.dof = none)
    (snapshot : Snapshot T)
    (position : Vec3 T) :
    mechanism.worldJacobian snapshot frame position =
      mechanism.worldJacobian snapshot body.parent position := by
  obtain ⟨index, rfl, found⟩ := exists_of_body? bodyFound
  rw [worldJacobian, worldJacobian,
    chain?_body found (grounded.parentBefore found)]
  cases mechanism.chain? body.parent.index with
  | none => rfl
  | some chain => exact writeColumns_cons_of_none hasNone

/-- A body with a fixed joint was attached without a coordinate. -/
theorem Built.dof_of_fixed
    [Zero K] [Add K] [Sub K] [Mul K] [Div K] [OfScientific K]
    [BEq K] [LT K] [DecidableLT K] [Elementary K]
    {mechanism : Mechanism K}
    (built : mechanism.Built)
    {body : Body K}
    (member : body ∈ mechanism.bodies)
    (isFixed : body.joint = .fixed) :
    body.dof = none := by
  have moves := built.orderly.dof_isSome_iff body member
  rw [isFixed] at moves
  simpa using moves

section Snapshots

variable [One K] [Add K] [Sub K] [Mul K]
variable [CommRing T] [Elementary T] [Constant K T]
variable {mechanism : Mechanism K}
variable {positions velocities : List T}
variable {snapshot : Snapshot T}
variable {frame : FrameId}
variable {body : Body K}

/-- In a snapshot the motion of a fixed body extends that of its parent. -/
theorem Taken.extends_of_fixed
    (taken : mechanism.Taken positions velocities snapshot)
    (bodyFound : mechanism.body? frame = some body)
    (isFixed : body.joint = .fixed) :
    ∃ motion parent,
      snapshot.motion? frame = some motion ∧
        snapshot.motion? body.parent = some parent ∧
        motion.Extends parent body := by
  obtain ⟨index, rfl, found⟩ := exists_of_body? bodyFound
  obtain ⟨parent, state, parentFound, _, motionFound⟩ :=
    taken.swept.follows found
  exact
    ⟨_, parent, motionFound, parentFound,
      parent.extends_follow isFixed state.1 state.2⟩

/-- A point of a fixed body is seen and accelerates as one of the parent. -/
theorem Taken.point_of_fixed
    (taken : mechanism.Taken positions velocities snapshot)
    (bodyFound : mechanism.body? frame = some body)
    (isFixed : body.joint = .fixed)
    {expressedIn : FrameId}
    (targetInside : mechanism.contains expressedIn = true)
    (point : Vec3 T) :
    (∃ place,
      mechanism.pointPosition snapshot frame point expressedIn =
          .ok place ∧
        mechanism.pointPosition snapshot body.parent
            (body.pointOnParent point) expressedIn =
          .ok place) ∧
      ∃ bias,
        mechanism.pointBias snapshot frame point expressedIn =
            .ok bias ∧
          mechanism.pointBias snapshot body.parent
              (body.pointOnParent point) expressedIn =
            .ok bias := by
  obtain ⟨motion, parent, found, parentFound, alike⟩ :=
    taken.extends_of_fixed bodyFound isFixed
  obtain ⟨target, targetFound⟩ := taken.motion_of_contains targetInside
  refine
    ⟨⟨_, taken.pointPosition_eq found targetFound point, ?_⟩,
      ⟨_, taken.pointBias_eq found targetFound point, ?_⟩⟩
  · rw [taken.pointPosition_eq parentFound targetFound,
      alike.pointPosition]
  · rw [taken.pointBias_eq parentFound targetFound,
      alike.pointPosition, alike.pointBias]

/-- A point of a fixed body has the Jacobian that it has on the parent. -/
theorem Taken.pointJacobian_of_fixed
    (grounded : mechanism.Grounded)
    (taken : mechanism.Taken positions velocities snapshot)
    (bodyFound : mechanism.body? frame = some body)
    (isFixed : body.joint = .fixed)
    (hasNone : body.dof = none)
    {measuredIn expressedIn : FrameId}
    (referenceInside : mechanism.contains measuredIn = true)
    (targetInside : mechanism.contains expressedIn = true)
    (point : Vec3 T) :
    ∃ columns,
      mechanism.pointJacobian snapshot frame point
            measuredIn expressedIn =
          .ok columns ∧
        mechanism.pointJacobian snapshot body.parent
            (body.pointOnParent point) measuredIn expressedIn =
          .ok columns := by
  obtain ⟨motion, parent, found, parentFound, alike⟩ :=
    taken.extends_of_fixed bodyFound isFixed
  have samePlace := alike.pointPosition point
  obtain ⟨target, targetFound⟩ := taken.motion_of_contains targetInside
  obtain ⟨own, ownFound, width⟩ :=
    taken.worldJacobian_ok grounded (taken.contains_of_motion parentFound)
      (parent.pointPosition (body.pointOnParent point))
  obtain ⟨reference, referenceFound, _⟩ :=
    taken.worldJacobian_ok grounded referenceInside
      (parent.pointPosition (body.pointOnParent point))
  refine
    ⟨_, taken.pointJacobian_of_columns found referenceInside targetFound
        ?_ ?_ width,
      taken.pointJacobian_of_columns parentFound referenceInside
        targetFound ownFound referenceFound width⟩
  · rw [samePlace,
      grounded.worldJacobian_of_dof_none bodyFound hasNone, ownFound]
  · rw [samePlace, referenceFound]

/-- What is measured in a fixed body may as well be measured in the parent. -/
theorem Taken.pointJacobian_in_fixed
    (grounded : mechanism.Grounded)
    (taken : mechanism.Taken positions velocities snapshot)
    (bodyFound : mechanism.body? frame = some body)
    (isFixed : body.joint = .fixed)
    (hasNone : body.dof = none)
    {other expressedIn : FrameId}
    (otherInside : mechanism.contains other = true)
    (targetInside : mechanism.contains expressedIn = true)
    (point : Vec3 T) :
    ∃ columns,
      mechanism.pointJacobian snapshot other point frame expressedIn =
          .ok columns ∧
        mechanism.pointJacobian snapshot other point
            body.parent expressedIn =
          .ok columns := by
  obtain ⟨_, _, found, parentFound, _⟩ :=
    taken.extends_of_fixed bodyFound isFixed
  have inside := taken.contains_of_motion found
  have parentInside := taken.contains_of_motion parentFound
  obtain ⟨motion, otherFound⟩ := taken.motion_of_contains otherInside
  obtain ⟨target, targetFound⟩ := taken.motion_of_contains targetInside
  obtain ⟨own, ownFound, width⟩ :=
    taken.worldJacobian_ok grounded otherInside
      (motion.pointPosition point)
  obtain ⟨reference, referenceFound, _⟩ :=
    taken.worldJacobian_ok grounded parentInside
      (motion.pointPosition point)
  have sameReference :=
    (grounded.worldJacobian_of_dof_none bodyFound hasNone snapshot
      (motion.pointPosition point)).trans referenceFound
  exact
    ⟨_, taken.pointJacobian_of_columns otherFound inside targetFound
        ownFound sameReference width,
      taken.pointJacobian_of_columns otherFound parentInside
        targetFound ownFound referenceFound width⟩

end Snapshots

section Theorem

variable [Zero K] [One K] [Add K] [Sub K] [Mul K] [Div K]
variable [OfScientific K] [BEq K] [LT K] [DecidableLT K] [Elementary K]
variable [CommRing T] [Elementary T] [Constant K T]

variable {mechanism : Mechanism K}

/--
In every snapshot of a mechanism that was built, a body with a fixed joint may
be replaced by its parent.  A point of the body has the position, the bias
acceleration and the Jacobian that it has as a point of the parent, whatever
they are measured and expressed in.  And what is measured in the body may as
well be measured in the parent.
-/
theorem fixed_joint_is_transparent
    (built : mechanism.Built)
    {positions velocities : List T}
    (positionCount : positions.length = mechanism.dofCount)
    (velocityCount : velocities.length = mechanism.dofCount) :
    ∃ snapshot : Snapshot T,
      mechanism.snapshot positions velocities = .ok snapshot ∧
        ∀ {frame : FrameId} {body : Body K},
          mechanism.body? frame = some body →
          body.joint = .fixed →
          ∀ {expressedIn : FrameId},
            mechanism.contains expressedIn = true →
            (∀ point : Vec3 T,
              (∃ place,
                mechanism.pointPosition snapshot frame point
                      expressedIn =
                    .ok place ∧
                  mechanism.pointPosition snapshot body.parent
                      (body.pointOnParent point) expressedIn =
                    .ok place) ∧
                (∃ bias,
                  mechanism.pointBias snapshot frame point expressedIn =
                      .ok bias ∧
                    mechanism.pointBias snapshot body.parent
                        (body.pointOnParent point) expressedIn =
                      .ok bias) ∧
                ∀ {measuredIn : FrameId},
                  mechanism.contains measuredIn = true →
                  ∃ columns,
                    mechanism.pointJacobian snapshot frame point
                          measuredIn expressedIn =
                        .ok columns ∧
                      mechanism.pointJacobian snapshot body.parent
                          (body.pointOnParent point)
                          measuredIn expressedIn =
                        .ok columns) ∧
              ∀ {other : FrameId},
                mechanism.contains other = true →
                ∀ point : Vec3 T,
                  ∃ columns,
                    mechanism.pointJacobian snapshot other point
                          frame expressedIn =
                        .ok columns ∧
                      mechanism.pointJacobian snapshot other point
                          body.parent expressedIn =
                        .ok columns := by
  have grounded := built.wellFormed.grounded
  obtain ⟨snapshot, snapshotFound, taken⟩ :=
    grounded.snapshot_ok positionCount velocityCount
  refine ⟨snapshot, snapshotFound, ?_⟩
  intro frame body bodyFound isFixed expressedIn targetInside
  obtain ⟨_, _, found⟩ := exists_of_body? bodyFound
  have hasNone := built.dof_of_fixed (List.mem_of_getElem? found) isFixed
  refine ⟨fun point => ?_, fun otherInside point => ?_⟩
  · obtain ⟨position, bias⟩ :=
      taken.point_of_fixed bodyFound isFixed targetInside point
    refine ⟨position, bias, fun referenceInside => ?_⟩
    exact
      taken.pointJacobian_of_fixed grounded bodyFound isFixed hasNone
        referenceInside targetInside point
  · exact
      taken.pointJacobian_in_fixed grounded bodyFound isFixed hasNone
        otherInside targetInside point

end Theorem

/-- The hook of the hooked arm. -/
noncomputable def hook : Body ℝ :=
  slidingArm.newBody "hook" ⟨2⟩ .fixed ⟨⟨0, 0, 1⟩, .identity⟩

theorem hook_pointOnParent :
    hook.pointOnParent (⟨1, 0, 0⟩ : Vec3 ℝ) = ⟨1, 0, 1⟩ := by
  ext <;>
    simp [Body.pointOnParent, hook, newBody, Quaternion.toMatrix,
      Quaternion.identity, Mat3.map, Mat3.apply, Vec3.map, Vec3.rowTimes]

/--
Each point of the hook is a point of the slider, one unit along the third axis.
-/
theorem fixed_joint_is_transparent_hook :
    hookedArm.Built ∧
      hookedArm.body? ⟨3⟩ = some hook ∧
      hook.joint = .fixed ∧
      ∃ (snapshot : Snapshot ℝ) (place bias : Vec3 ℝ)
        (own reference : Columns ℝ),
        hookedArm.snapshot [1, 2] [3, 4] = .ok snapshot ∧
          hookedArm.pointPosition snapshot ⟨3⟩ ⟨1, 0, 0⟩ ⟨1⟩ =
            .ok place ∧
          hookedArm.pointPosition snapshot ⟨2⟩ ⟨1, 0, 1⟩ ⟨1⟩ =
            .ok place ∧
          hookedArm.pointBias snapshot ⟨3⟩ ⟨1, 0, 0⟩ ⟨1⟩ = .ok bias ∧
          hookedArm.pointBias snapshot ⟨2⟩ ⟨1, 0, 1⟩ ⟨1⟩ = .ok bias ∧
          hookedArm.pointJacobian snapshot ⟨3⟩ ⟨1, 0, 0⟩ .world ⟨1⟩ =
            .ok own ∧
          hookedArm.pointJacobian snapshot ⟨2⟩ ⟨1, 0, 1⟩ .world ⟨1⟩ =
            .ok own ∧
          hookedArm.pointJacobian snapshot ⟨1⟩ 0 ⟨3⟩ ⟨1⟩ =
            .ok reference ∧
          hookedArm.pointJacobian snapshot ⟨1⟩ 0 ⟨2⟩ ⟨1⟩ =
            .ok reference := by
  obtain ⟨snapshot, snapshotFound, transparent⟩ :=
    fixed_joint_is_transparent hookedArm_built
      (rfl : [(1 : ℝ), 2].length = 2) (rfl : [(3 : ℝ), 4].length = 2)
  have found : hookedArm.body? ⟨3⟩ = some hook := rfl
  have isFixed : hook.joint = .fixed := rfl
  obtain ⟨ofPoint, measured⟩ := @transparent _ _ found isFixed ⟨1⟩ rfl
  have ofHook := ofPoint ⟨1, 0, 0⟩
  rw [hook_pointOnParent] at ofHook
  obtain ⟨⟨place, placeFound, samePlace⟩, ⟨bias, biasFound, sameBias⟩,
      jacobians⟩ := ofHook
  obtain ⟨own, ownFound, sameOwn⟩ := @jacobians .world rfl
  obtain ⟨reference, referenceFound, sameReference⟩ :=
    @measured ⟨1⟩ rfl 0
  exact
    ⟨hookedArm_built, found, isFixed, snapshot, place, bias, own,
      reference, snapshotFound, placeFound, samePlace, biasFound,
      sameBias, ownFound, sameOwn, referenceFound, sameReference⟩

end Mechanism

end Linkage
