import Linkage.Proofs.Mechanism.Reading
import Linkage.Proofs.Mechanism.SlidingArm

namespace Linkage.Mechanism

/-!
# Jacobians against the motions of a snapshot

The velocity of a point is computed twice, and the two computations share
nothing: a snapshot adds velocities on the way from the world to each frame,
and a Jacobian collects columns on the way from the frame to the world.  At
every state of a mechanism that was built, they give the same velocity, for any
choice of the three frames of a Jacobian.  Only the laws of a commutative ring
are used; neither axes nor offsets need to have unit length.
-/

variable {K T : Type}
variable [Zero K] [One K] [Add K] [Sub K] [Mul K] [Div K]
variable [OfScientific K] [BEq K] [LT K] [DecidableLT K] [Elementary K]
variable [CommRing T] [Elementary T] [Constant K T]

variable {mechanism : Mechanism K}

/--
The Jacobian of a point times the velocities of a snapshot is the difference of
the velocities that the snapshot states, for the frame of the point and for the
frame it is measured in, at the place of the point.
-/
theorem jacobian_velocity_eq_motion_velocity
    (built : mechanism.Built)
    {positions velocities : List T}
    (positionCount : positions.length = mechanism.dofCount)
    (velocityCount : velocities.length = mechanism.dofCount)
    {frame measuredIn expressedIn : FrameId}
    (inside : mechanism.contains frame = true)
    (measuredInInside : mechanism.contains measuredIn = true)
    (expressedInInside : mechanism.contains expressedIn = true)
    (point : Vec3 T) :
    ∃ (snapshot : Snapshot T)
      (motion reference target : FrameMotion T)
      (place : Vec3 T) (columns : Columns T),
      mechanism.snapshot positions velocities = .ok snapshot ∧
        snapshot.motion? frame = some motion ∧
        snapshot.motion? measuredIn = some reference ∧
        snapshot.motion? expressedIn = some target ∧
        mechanism.pointPosition snapshot frame point .world =
          .ok place ∧
        mechanism.pointJacobian snapshot frame point
          measuredIn expressedIn = .ok columns ∧
        columns.timesVector velocities =
          .ok
            (target.rotation.transpose.apply
              (motion.pointVelocity place -
                reference.pointVelocity place)) := by
  have wellFormed := built.wellFormed
  obtain ⟨snapshot, snapshotFound, taken⟩ :=
    wellFormed.snapshot_ok positionCount velocityCount
  obtain ⟨motion, found⟩ := taken.motion_of_contains inside
  obtain ⟨reference, referenceFound⟩ :=
    taken.motion_of_contains measuredInInside
  obtain ⟨target, targetFound⟩ :=
    taken.motion_of_contains expressedInInside
  obtain ⟨columns, columnsFound, width, product⟩ :=
    pointJacobian_velocity wellFormed taken taken
      found referenceFound targetFound point
  refine ⟨snapshot, motion, reference, target, motion.pointPosition point,
    columns, snapshotFound, found, referenceFound, targetFound,
    taken.pointPosition_world found point, columnsFound, ?_⟩
  rw [Columns.timesVector_eq (width.trans velocityCount.symm), product]

/-- A point of the slider, measured in the arm and expressed in the slider. -/
theorem jacobian_velocity_eq_motion_velocity_slider :
    slidingArm.Built ∧
      slidingArm.contains ⟨2⟩ = true ∧
      slidingArm.contains ⟨1⟩ = true ∧
      ∃ (snapshot : Snapshot ℝ)
        (motion reference target : FrameMotion ℝ)
        (place : Vec3 ℝ) (columns : Columns ℝ),
        slidingArm.snapshot [1, 2] [3, 4] = .ok snapshot ∧
          snapshot.motion? ⟨2⟩ = some motion ∧
          snapshot.motion? ⟨1⟩ = some reference ∧
          snapshot.motion? ⟨2⟩ = some target ∧
          slidingArm.pointPosition snapshot ⟨2⟩ ⟨5, 6, 7⟩ .world =
            .ok place ∧
          slidingArm.pointJacobian snapshot ⟨2⟩ ⟨5, 6, 7⟩ ⟨1⟩ ⟨2⟩ =
            .ok columns ∧
          columns.timesVector [3, 4] =
            .ok
              (target.rotation.transpose.apply
                (motion.pointVelocity place -
                  reference.pointVelocity place)) :=
  ⟨slidingArm_built, rfl, rfl,
    jacobian_velocity_eq_motion_velocity slidingArm_built rfl rfl
      rfl rfl rfl ⟨5, 6, 7⟩⟩

end Linkage.Mechanism
