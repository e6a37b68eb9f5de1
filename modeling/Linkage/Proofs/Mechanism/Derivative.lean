import Mathlib.Data.Rat.Cast.Defs
import Linkage.Proofs.Mechanism.Coherence
import Linkage.Proofs.Mechanism.SlidingArm

namespace Linkage

/-!
# Jacobians as derivatives

Positions of a mechanism that carry a direction give every position of a point
its derivative in that direction.  That derivative is what the Jacobian of the
point makes of the direction, whichever frame the point is seen from; and the
derivative of the Jacobian along the motion is the bias acceleration.
-/

namespace FrameMotion.Coherent

variable {K : Type}
variable [Field K] [FusedMulAdd K] [LawfulFusedMulAdd K]

/-- Seen from a moving frame, a point moves at its relative velocity. -/
theorem relativePosition
    {motion target : FrameMotion (Dual K)}
    (coherent : motion.Coherent)
    (targetCoherent : target.Coherent)
    (point : Vec3 K) :
    let position := motion.pointPosition (point.map Constant.constant)
    (target.rotation.transpose.apply (position - target.origin)).map
        Dual.eps =
      (target.rotation.transpose.apply
        (motion.pointVelocity position -
          target.pointVelocity position)).map Dual.re := by
  intro position
  have carried :
      position.map Dual.eps =
        (motion.pointVelocity position).map Dual.re :=
    coherent.pointPosition point
  rw [targetCoherent.rotation.transpose_apply, Vec3.map_eps_sub, carried,
    targetCoherent.origin, Mat3.map_apply, Mat3.map_transpose]
  congr 1
  simp only [FrameMotion.pointVelocity, Vec3.map_add, Vec3.map_sub,
    Vec3.map_cross]
  ext <;> simp [Vec3.cross] <;> ring

end FrameMotion.Coherent

namespace Mechanism

variable {K : Type} [Field K] [FusedMulAdd K] [Elementary K]
variable {mechanism : Mechanism K}

/-- The values of a seeded snapshot are those of the plain one. -/
theorem snapshot_re
    {positions directions : List K}
    (sameLength : positions.length = directions.length)
    {rates : List (Dual K)}
    {snapshot : Snapshot (Dual K)}
    (found :
      mechanism.snapshot (Dual.seed positions directions) rates =
        .ok snapshot) :
    mechanism.snapshot positions (rates.map Dual.re) =
      .ok (snapshot.map Dual.re) := by
  have mapped :=
    snapshot_map Dual.re mechanism (Dual.seed positions directions) rates
  rw [Dual.map_re_seed sameLength, found] at mapped
  exact mapped

/--
A state and its companion whose positions carry a direction have snapshots; the
values of the second are the first.
-/
theorem WellFormed.seeded_ok
    (wellFormed : mechanism.WellFormed)
    {positions directions rates : List K}
    (positionCount : positions.length = mechanism.dofCount)
    (directionCount : directions.length = mechanism.dofCount)
    (rateCount : rates.length = mechanism.dofCount) :
    ∃ dual : Snapshot (Dual K),
      mechanism.snapshot (Dual.seed positions directions)
          (rates.map Constant.constant) = .ok dual ∧
        mechanism.Taken (Dual.seed positions directions)
          (rates.map Constant.constant) dual ∧
        mechanism.snapshot positions rates =
          .ok (dual.map Dual.re) ∧
        mechanism.Taken positions rates (dual.map Dual.re) := by
  have sameLength := positionCount.trans directionCount.symm
  obtain ⟨dual, dualFound, dualTaken⟩ :=
    wellFormed.snapshot_ok
      ((Dual.length_seed sameLength).trans positionCount)
      ((List.length_map _).trans rateCount)
  obtain ⟨plain, plainFound, plainTaken⟩ :=
    wellFormed.snapshot_ok positionCount rateCount
  have values := snapshot_re sameLength dualFound
  rw [Dual.map_re_constant, plainFound] at values
  cases values
  exact ⟨dual, dualFound, dualTaken, plainFound, plainTaken⟩

variable [LawfulFusedMulAdd K] [LawfulTrigonometry K]

/--
Where a point is seen from a frame, at positions that carry a direction, has
the relative velocity that the direction gives as its derivative.  The rates of
the snapshot do not matter.
-/
theorem pointPosition_rate
    (wellFormed : mechanism.WellFormed)
    (normalized : mechanism.Normalized)
    {positions directions : List K}
    {rates : List (Dual K)}
    {dual moving : Snapshot (Dual K)}
    (taken :
      mechanism.Taken (Dual.seed positions directions) rates dual)
    (moved :
      mechanism.Taken (Dual.seed positions directions)
        (directions.map Constant.constant) moving)
    {frame expressedIn : FrameId}
    {motion target : FrameMotion (Dual K)}
    (found : moving.motion? frame = some motion)
    (targetFound : moving.motion? expressedIn = some target)
    (point : Vec3 K) :
    ∃ position,
      mechanism.pointPosition dual frame
          (point.map Constant.constant) expressedIn = .ok position ∧
        position =
          target.rotation.transpose.apply
            (motion.pointPosition (point.map Constant.constant) -
              target.origin) ∧
        position.map Dual.eps =
          (target.rotation.transpose.apply
            (motion.pointVelocity
                (motion.pointPosition (point.map Constant.constant)) -
              target.pointVelocity
                (motion.pointPosition
                  (point.map Constant.constant)))).map Dual.re := by
  obtain ⟨own, ownFound⟩ :=
    taken.motion_of_contains (moved.contains_of_motion found)
  obtain ⟨ownTarget, ownTargetFound⟩ :=
    taken.motion_of_contains (moved.contains_of_motion targetFound)
  have same := taken.samePlace wellFormed moved ownFound found
  have sameTarget :=
    taken.samePlace wellFormed moved ownTargetFound targetFound
  refine ⟨_, taken.pointPosition_eq ownFound ownTargetFound _, ?_, ?_⟩
  · rw [same.pointPosition, sameTarget.rotation, sameTarget.origin]
  · rw [same.pointPosition, sameTarget.rotation, sameTarget.origin]
    exact
      (moved.coherent wellFormed normalized found).relativePosition
        (moved.coherent wellFormed normalized targetFound) point

variable [BEq K] [LT K] [DecidableLT K]

/--
The bias acceleration of a point is the derivative, along the motion, of its
Jacobian times the constant rates.
-/
theorem jacobian_rate_eq_pointBias
    (built : mechanism.Built)
    (normalized : mechanism.Normalized)
    {positions velocities : List K}
    (positionCount : positions.length = mechanism.dofCount)
    (velocityCount : velocities.length = mechanism.dofCount)
    {frame : FrameId}
    (inside : mechanism.contains frame = true)
    (point : Vec3 K) :
    ∃ (plain : Snapshot K) (dual : Snapshot (Dual K))
      (columns : Columns (Dual K)) (velocity : Vec3 (Dual K))
      (bias : Vec3 K),
      mechanism.snapshot positions velocities = .ok plain ∧
        mechanism.snapshot (Dual.seed positions velocities)
          (velocities.map Constant.constant) = .ok dual ∧
        mechanism.pointJacobian dual frame
          (point.map Constant.constant) .world .world = .ok columns ∧
        columns.timesVector (velocities.map Constant.constant) =
          .ok velocity ∧
        mechanism.pointBias plain frame point .world = .ok bias ∧
        velocity.map Dual.eps = bias := by
  have wellFormed := built.wellFormed
  obtain ⟨dual, dualFound, dualTaken, plainFound, plainTaken⟩ :=
    wellFormed.seeded_ok positionCount velocityCount velocityCount
  obtain ⟨motion, found⟩ := dualTaken.motion_of_contains inside
  have coherent := dualTaken.coherent wellFormed normalized found
  obtain ⟨columns, jacobianFound, width, product⟩ :=
    pointJacobian_world_velocity wellFormed dualTaken dualTaken
      found (point.map Constant.constant)
  have biasFound :=
    plainTaken.pointBias_world (Snapshot.motion?_map Dual.re found) point
  refine ⟨dual.map Dual.re, dual, columns, _, _, plainFound, dualFound,
    jacobianFound, Columns.timesVector_eq ?_, biasFound, ?_⟩
  · rw [width, List.length_map, velocityCount]
  · rw [product, coherent.pointVelocity (coherent.pointPosition point),
      FrameMotion.map_pointBias, FrameMotion.map_pointPosition,
      Vec3.map_constant, Vec3.constant_self]

/-- A point of the slider, where Coriolis and centripetal terms both occur. -/
theorem jacobian_rate_eq_pointBias_slider :
    slidingArm.Built ∧
      slidingArm.Normalized ∧
      slidingArm.contains ⟨2⟩ = true ∧
      ∃ (plain : Snapshot ℝ) (dual : Snapshot (Dual ℝ))
        (columns : Columns (Dual ℝ)) (velocity : Vec3 (Dual ℝ))
        (bias : Vec3 ℝ),
        slidingArm.snapshot [1, 2] [3, 4] = .ok plain ∧
          slidingArm.snapshot (Dual.seed [1, 2] [3, 4])
            [⟨3, 0⟩, ⟨4, 0⟩] = .ok dual ∧
          slidingArm.pointJacobian dual ⟨2⟩
            (Vec3.map Constant.constant (⟨5, 6, 7⟩ : Vec3 ℝ))
            .world .world = .ok columns ∧
          columns.timesVector [⟨3, 0⟩, ⟨4, 0⟩] = .ok velocity ∧
          slidingArm.pointBias plain ⟨2⟩ ⟨5, 6, 7⟩ .world = .ok bias ∧
          velocity.map Dual.eps = bias :=
  ⟨slidingArm_built, slidingArm_normalized, rfl,
    jacobian_rate_eq_pointBias slidingArm_built slidingArm_normalized
      rfl rfl rfl ⟨5, 6, 7⟩⟩

/--
The position of a point, seen from any frame, has the Jacobian times the
direction as its derivative.  The Jacobian is measured and expressed in the
same frame, which may itself move.
-/
theorem pointPosition_rate_eq_jacobian
    (built : mechanism.Built)
    (normalized : mechanism.Normalized)
    {positions velocities directions : List K}
    {dualVelocities : List (Dual K)}
    (positionCount : positions.length = mechanism.dofCount)
    (velocityCount : velocities.length = mechanism.dofCount)
    (directionCount : directions.length = mechanism.dofCount)
    (dualVelocityCount : dualVelocities.length = mechanism.dofCount)
    {frame seenFrom : FrameId}
    (inside : mechanism.contains frame = true)
    (seenFromInside : mechanism.contains seenFrom = true)
    (point : Vec3 K) :
    ∃ (plain : Snapshot K) (dual : Snapshot (Dual K))
      (position : Vec3 (Dual K)) (columns : Columns K) (rate : Vec3 K),
      mechanism.snapshot positions velocities = .ok plain ∧
        mechanism.snapshot (Dual.seed positions directions)
          dualVelocities = .ok dual ∧
        mechanism.pointPosition dual frame
          (point.map Constant.constant) seenFrom = .ok position ∧
        mechanism.pointJacobian plain frame point seenFrom seenFrom =
          .ok columns ∧
        columns.timesVector directions = .ok rate ∧
        position.map Dual.eps = rate := by
  have wellFormed := built.wellFormed
  have sameLength := positionCount.trans directionCount.symm
  obtain ⟨plain, plainFound, plainTaken⟩ :=
    wellFormed.snapshot_ok positionCount velocityCount
  obtain ⟨dual, dualFound, dualTaken⟩ :=
    wellFormed.snapshot_ok
      ((Dual.length_seed sameLength).trans positionCount)
      dualVelocityCount
  obtain ⟨moving, _, movingTaken, _, movingPlain⟩ :=
    wellFormed.seeded_ok positionCount directionCount directionCount
  obtain ⟨motion, found⟩ := movingTaken.motion_of_contains inside
  obtain ⟨target, targetFound⟩ :=
    movingTaken.motion_of_contains seenFromInside
  obtain ⟨position, positionFound, _, rate⟩ :=
    pointPosition_rate wellFormed normalized dualTaken movingTaken
      found targetFound point
  obtain ⟨columns, jacobianFound, width, product⟩ :=
    pointJacobian_velocity wellFormed plainTaken movingPlain
      (Snapshot.motion?_map Dual.re found)
      (Snapshot.motion?_map Dual.re targetFound)
      (Snapshot.motion?_map Dual.re targetFound) point
  refine ⟨plain, dual, position, columns, _, plainFound, dualFound,
    positionFound, jacobianFound, Columns.timesVector_eq ?_, ?_⟩
  · rw [width, directionCount]
  · rw [rate, product, Mat3.map_apply, Vec3.map_sub,
      FrameMotion.map_pointVelocity, FrameMotion.map_pointVelocity,
      FrameMotion.map_pointPosition, Vec3.map_constant,
      Vec3.constant_self]
    rfl

/-- A point of the world, seen from the moving slider. -/
theorem pointPosition_rate_eq_jacobian_slider :
    slidingArm.Built ∧
      slidingArm.Normalized ∧
      slidingArm.contains .world = true ∧
      slidingArm.contains ⟨2⟩ = true ∧
      ∃ (plain : Snapshot ℝ) (dual : Snapshot (Dual ℝ))
        (position : Vec3 (Dual ℝ)) (columns : Columns ℝ)
        (rate : Vec3 ℝ),
        slidingArm.snapshot [1, 2] [0, 0] = .ok plain ∧
          slidingArm.snapshot (Dual.seed [1, 2] [3, 4]) [0, 0] = .ok dual ∧
          slidingArm.pointPosition dual .world
            (Vec3.map Constant.constant (⟨5, 6, 7⟩ : Vec3 ℝ)) ⟨2⟩ =
              .ok position ∧
          slidingArm.pointJacobian plain .world ⟨5, 6, 7⟩ ⟨2⟩ ⟨2⟩ =
            .ok columns ∧
          columns.timesVector [3, 4] = .ok rate ∧
          position.map Dual.eps = rate :=
  ⟨slidingArm_built, slidingArm_normalized, rfl, rfl,
    pointPosition_rate_eq_jacobian slidingArm_built slidingArm_normalized
      rfl rfl rfl rfl rfl rfl ⟨5, 6, 7⟩⟩

end Mechanism

end Linkage
