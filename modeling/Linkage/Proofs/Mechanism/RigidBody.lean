import Linkage.Proofs.Mechanism.Reading
import Linkage.Proofs.Mechanism.SlidingArm

namespace Linkage

/-!
# Bodies stay rigid

The orientation of every frame is a rotation.  A joint turns its body about the
axis or slides it along, so the axis is fixed in the body as well as in the
frame it is attached to, and it keeps its length.  Whatever frame the points of
a body are seen from, their distances are those they have in the body.
-/

variable {K T : Type}
variable [CommRing K] [CommRing T] [Constant K T]
variable [PreservesArithmetic (Constant.constant : K → T)]
variable [Elementary T]

/-- The world axis of a joint is the axis of the joint, turned with its body. -/
theorem FrameMotion.axis_follow
    (parent : FrameMotion T)
    {body : Body K}
    {axis : Vec3 K}
    (hasAxis : body.joint.axis? = some axis)
    (unit : axis.normSquared = 1)
    (coordinate rate : T) :
    (parent.follow body coordinate rate).axis =
      (parent.follow body coordinate rate).rotation.apply
        (axis.map Constant.constant) := by
  obtain ⟨name, parentFrame, joint, offset, dof⟩ := body
  cases joint with
  | fixed =>
      cases hasAxis
  | revolute own =>
      cases hasAxis
      have kept :=
        Mat3.axisAngle_apply_axis (T := T)
          (Vec3.normSquared_constant unit) coordinate
      simp only [FrameMotion.follow, JointMotion.of]
      rw [Mat3.times_apply _ (Mat3.axisAngle _ coordinate), kept]
  | prismatic own =>
      cases hasAxis
      rfl

namespace Mechanism

variable [LawfulTrigonometry T]
variable {mechanism : Mechanism K}
variable {positions velocities : List T}
variable {snapshot : Snapshot T}

/-- The world axis of a moving joint is fixed in its body and has unit length. -/
theorem Taken.axis_of_body
    (wellFormed : mechanism.WellFormed)
    (normalized : mechanism.Normalized)
    (taken : mechanism.Taken positions velocities snapshot)
    {index : Nat}
    {body : Body K}
    (bodyFound : mechanism.bodies[index]? = some body)
    {axis : Vec3 K}
    (hasAxis : body.joint.axis? = some axis) :
    ∃ motion,
      snapshot.motion? ⟨index + 1⟩ = some motion ∧
        motion.axis.normSquared = 1 ∧
        motion.axis =
          motion.rotation.apply (axis.map Constant.constant) := by
  obtain ⟨parent, state, _, _, found⟩ := taken.swept.follows bodyFound
  have unit : axis.normSquared = 1 :=
    (normalized body (List.mem_of_getElem? bodyFound)).axis_unit hasAxis
  have turned := parent.axis_follow hasAxis unit state.1 state.2
  have rotation :=
    taken.isRotation wellFormed normalized
      (show snapshot.motion? ⟨index + 1⟩ = some _ from found)
  refine ⟨_, found, ?_, turned⟩
  rw [turned, rotation.normSquared_apply, Vec3.normSquared_constant unit]

/-- The way between two points of a body, seen from a frame, is turned. -/
theorem Taken.normSquared_between_points
    (wellFormed : mechanism.WellFormed)
    (normalized : mechanism.Normalized)
    (taken : mechanism.Taken positions velocities snapshot)
    {frame expressedIn : FrameId}
    (inside : mechanism.contains frame = true)
    (targetInside : mechanism.contains expressedIn = true)
    (first second : Vec3 T) :
    ∃ firstPlace secondPlace,
      mechanism.pointPosition snapshot frame first expressedIn =
          .ok firstPlace ∧
        mechanism.pointPosition snapshot frame second expressedIn =
          .ok secondPlace ∧
        (firstPlace - secondPlace).normSquared =
          (first - second).normSquared := by
  obtain ⟨motion, found⟩ := taken.motion_of_contains inside
  obtain ⟨target, targetFound⟩ := taken.motion_of_contains targetInside
  have rotation := taken.isRotation wellFormed normalized found
  have targetRotation := taken.isRotation wellFormed normalized targetFound
  refine
    ⟨_, _, taken.pointPosition_eq found targetFound first,
      taken.pointPosition_eq found targetFound second, ?_⟩
  have between :
      motion.pointPosition first - target.origin -
          (motion.pointPosition second - target.origin) =
        motion.rotation.apply (first - second) := by
    rw [Mat3.apply_sub]
    ext <;> simp [FrameMotion.pointPosition]
  rw [← Mat3.apply_sub, between, Vec3.normSquared,
    targetRotation.dot_transpose_apply]
  exact rotation.normSquared_apply _

variable [Div K] [OfScientific K] [BEq K] [LT K] [DecidableLT K]
variable [Elementary K]

/--
In every snapshot of a mechanism that was built, each frame is turned by a
rotation.  The world axis of each moving joint is its own axis turned with the
body, and has unit length.  Two points of one body are as far apart, seen from
any frame, as they are in the body.
-/
theorem bodies_stay_rigid
    (built : mechanism.Built)
    (normalized : mechanism.Normalized)
    {positions velocities : List T}
    (positionCount : positions.length = mechanism.dofCount)
    (velocityCount : velocities.length = mechanism.dofCount) :
    ∃ snapshot : Snapshot T,
      mechanism.snapshot positions velocities = .ok snapshot ∧
        (∀ frame, mechanism.contains frame = true →
          ∃ motion,
            snapshot.motion? frame = some motion ∧
              motion.rotation.IsRotation) ∧
        (∀ {index : Nat} {body : Body K} {axis : Vec3 K},
          mechanism.bodies[index]? = some body →
          body.joint.axis? = some axis →
          ∃ motion,
            snapshot.motion? ⟨index + 1⟩ = some motion ∧
              motion.axis.normSquared = 1 ∧
              motion.axis =
                motion.rotation.apply (axis.map Constant.constant)) ∧
        ∀ {frame expressedIn : FrameId},
          mechanism.contains frame = true →
          mechanism.contains expressedIn = true →
          ∀ first second : Vec3 T,
            ∃ firstPlace secondPlace,
              mechanism.pointPosition snapshot frame first expressedIn =
                  .ok firstPlace ∧
                mechanism.pointPosition snapshot frame second
                    expressedIn =
                  .ok secondPlace ∧
                (firstPlace - secondPlace).normSquared =
                  (first - second).normSquared ∧
                (firstPlace - secondPlace).norm =
                  (first - second).norm := by
  have wellFormed := built.wellFormed
  obtain ⟨snapshot, snapshotFound, taken⟩ :=
    wellFormed.snapshot_ok positionCount velocityCount
  refine ⟨snapshot, snapshotFound, ?_, ?_, ?_⟩
  · intro frame inside
    obtain ⟨motion, found⟩ := taken.motion_of_contains inside
    exact ⟨motion, found, taken.isRotation wellFormed normalized found⟩
  · intro index body axis bodyFound hasAxis
    exact taken.axis_of_body wellFormed normalized bodyFound hasAxis
  · intro frame expressedIn inside targetInside first second
    obtain ⟨firstPlace, secondPlace, firstFound, secondFound, same⟩ :=
      taken.normSquared_between_points wellFormed normalized inside
        targetInside first second
    exact
      ⟨firstPlace, secondPlace, firstFound, secondFound, same,
        congrArg Elementary.sqrt same⟩

/--
The slider turns with the arm and keeps the axis it slides along; two of its
points are three apart, also when they are seen from the arm.
-/
theorem bodies_stay_rigid_slider :
    slidingArm.Built ∧
      slidingArm.Normalized ∧
      ∃ (snapshot : Snapshot ℝ) (motion : FrameMotion ℝ)
        (firstPlace secondPlace : Vec3 ℝ),
        slidingArm.snapshot [1, 2] [3, 4] = .ok snapshot ∧
          snapshot.motion? ⟨2⟩ = some motion ∧
          motion.rotation.IsRotation ∧
          motion.axis.normSquared = 1 ∧
          motion.axis = motion.rotation.apply ⟨1, 0, 0⟩ ∧
          slidingArm.pointPosition snapshot ⟨2⟩ ⟨3, 4, 4⟩ ⟨1⟩ =
            .ok firstPlace ∧
          slidingArm.pointPosition snapshot ⟨2⟩ ⟨1, 2, 3⟩ ⟨1⟩ =
            .ok secondPlace ∧
          (firstPlace - secondPlace).norm = 3 := by
  obtain ⟨snapshot, snapshotFound, rotations, axes, distances⟩ :=
    bodies_stay_rigid slidingArm_built slidingArm_normalized
      (rfl : [(1 : ℝ), 2].length = 2) (rfl : [(3 : ℝ), 4].length = 2)
  obtain ⟨motion, found, rotation⟩ := rotations ⟨2⟩ rfl
  obtain ⟨sameMotion, sameFound, unit, turned⟩ :=
    @axes 1 _ _ rfl rfl
  cases found.symm.trans sameFound
  obtain ⟨firstPlace, secondPlace, firstFound, secondFound, _, distance⟩ :=
    @distances ⟨2⟩ ⟨1⟩ rfl rfl ⟨3, 4, 4⟩ ⟨1, 2, 3⟩
  have three : ((⟨3, 4, 4⟩ : Vec3 ℝ) - ⟨1, 2, 3⟩).norm = 3 := by
    have square :
        ((⟨3, 4, 4⟩ : Vec3 ℝ) - ⟨1, 2, 3⟩).normSquared = 3 ^ 2 := by
      norm_num [Vec3.normSquared, Vec3.dot]
    rw [Vec3.norm, square]
    exact Real.sqrt_sq (by norm_num)
  exact
    ⟨slidingArm_built, slidingArm_normalized, snapshot, motion,
      firstPlace, secondPlace, snapshotFound, found, rotation, unit,
      turned, firstFound, secondFound, distance.trans three⟩

end Mechanism

end Linkage
