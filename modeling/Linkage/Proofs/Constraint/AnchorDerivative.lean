import Linkage.Proofs.Constraint.AnchorReading
import Linkage.Proofs.Mechanism.Derivative

namespace Linkage.Anchor

/-!
# Derivatives of anchors

Along the motion, the displacement of the point changes at its velocity and the
velocity at its bias acceleration.  The view only turns these vectors, so the
Jacobian of an anchor is the derivative of its residual, and its bias is what
the accelerations leave of the derivative of the Jacobian times the velocities.
-/

variable {K : Type} [Field K] [FusedMulAdd K]

/-- The view turns values as it turns the vector. -/
theorem map_re_viewMatrix_apply
    (anchor : Anchor K)
    (vector : Vec3 (Dual K)) :
    (anchor.viewMatrix.apply vector).map Dual.re =
      anchor.viewMatrix.apply (vector.map Dual.re) := by
  rw [viewMatrix, Mat3.map_apply, Mat3.map_constant, viewMatrix]

variable [LawfulFusedMulAdd K]

/-- The view is constant, so it turns derivatives as it turns values. -/
theorem map_eps_viewMatrix_apply
    (anchor : Anchor K)
    (vector : Vec3 (Dual K)) :
    (anchor.viewMatrix.apply vector).map Dual.eps =
      anchor.viewMatrix.apply (vector.map Dual.eps) := by
  rw [viewMatrix, Mat3.map_eps_constant_apply, viewMatrix,
    Mat3.constant_self]

/-- The values of the velocity are the velocity of the values. -/
theorem map_re_velocity
    (anchor : Anchor K)
    (motion : FrameMotion (Dual K)) :
    (anchor.velocity motion).map Dual.re =
      anchor.velocity (motion.map Dual.re) := by
  simp only [velocity, FrameMotion.map_pointVelocity,
    FrameMotion.map_pointPosition, Vec3.map_constant]

/-- The values of the acceleration are the acceleration of the values. -/
theorem map_re_acceleration
    (anchor : Anchor K)
    (motion : FrameMotion (Dual K)) :
    (anchor.acceleration motion).map Dual.re =
      anchor.acceleration (motion.map Dual.re) := by
  simp only [acceleration, FrameMotion.map_pointBias,
    FrameMotion.map_pointPosition, Vec3.map_constant]

variable {motion : FrameMotion (Dual K)}

/-- The displacement changes at the velocity: the target stays where it is. -/
theorem map_eps_displacement
    (anchor : Anchor K)
    (coherent : motion.Coherent) :
    (anchor.displacement motion).map Dual.eps =
      anchor.velocity (motion.map Dual.re) := by
  rw [← map_re_velocity, displacement, velocity, Vec3.map_eps_sub,
    coherent.pointPosition, Vec3.map_eps_constant, Vec3.sub_zero]

/-- The velocity changes at the bias acceleration. -/
theorem map_eps_velocity
    (anchor : Anchor K)
    (coherent : motion.Coherent) :
    (anchor.velocity motion).map Dual.eps =
      anchor.acceleration (motion.map Dual.re) := by
  rw [← map_re_acceleration, velocity, acceleration,
    coherent.pointVelocity (coherent.pointPosition _)]

section Motion

variable [Elementary K] [LawfulTrigonometry K]
variable {anchor : Anchor K}
variable {positions velocities accelerations : List K}
variable {rates : List (Dual K)}
variable {dual moving pushed : Snapshot (Dual K)}

/-- The residual changes at the velocity of the point, along the view. -/
theorem residual_rate
    (wellFormed : anchor.model.mechanism.WellFormed)
    (normalized : anchor.model.mechanism.Normalized)
    (taken :
      anchor.model.mechanism.Taken
        (Dual.seed positions velocities) rates dual)
    (moved :
      anchor.model.mechanism.Taken (Dual.seed positions velocities)
        (velocities.map Constant.constant) moving)
    (found : moving.motion? anchor.frame = some motion) :
    ∃ residual : Vec3 (Dual K),
      anchor.residual dual = .ok residual.toList ∧
        residual.map Dual.eps =
          anchor.viewMatrix.apply
            (anchor.velocity (motion.map Dual.re)) := by
  obtain ⟨own, ownFound⟩ :=
    taken.motion_of_contains (moved.contains_of_motion found)
  have same := taken.samePlace wellFormed moved ownFound found
  refine ⟨_, residual_eq taken ownFound, ?_⟩
  rw [anchor.displacement_eq_of_samePlace same, map_eps_viewMatrix_apply,
    map_eps_displacement anchor
      (moved.coherent wellFormed normalized found)]

/--
The Jacobian times velocities that carry accelerations changes for two reasons:
the point would accelerate at constant velocities, and the velocities change.
-/
theorem jacobian_rate
    (wellFormed : anchor.model.mechanism.WellFormed)
    (normalized : anchor.model.mechanism.Normalized)
    (sameLength : velocities.length = accelerations.length)
    (taken :
      anchor.model.mechanism.Taken
        (Dual.seed positions velocities) rates dual)
    (moved :
      anchor.model.mechanism.Taken (Dual.seed positions velocities)
        (velocities.map Constant.constant) moving)
    (movedOn :
      anchor.model.mechanism.Taken (Dual.seed positions velocities)
        (accelerations.map Constant.constant) pushed)
    {pushedMotion : FrameMotion (Dual K)}
    (found : moving.motion? anchor.frame = some motion)
    (pushedFound : pushed.motion? anchor.frame = some pushedMotion) :
    ∃ columns : Columns (Dual K),
      anchor.jacobian dual = .ok columns.toRows ∧
        columns.length = anchor.model.mechanism.dofCount ∧
        (Columns.combine
            (columns.zip (Dual.seed velocities accelerations))).map
              Dual.eps =
          anchor.viewMatrix.apply
              (anchor.acceleration (motion.map Dual.re)) +
            anchor.viewMatrix.apply
              (anchor.velocity (pushedMotion.map Dual.re)) := by
  have coherent := moved.coherent wellFormed normalized found
  obtain ⟨columns, columnsFound, width, product⟩ :=
    jacobian_columns wellFormed taken (moved.contains_of_motion found)
  refine ⟨columns, columnsFound, width, ?_⟩
  rw [Columns.map_eps_combine_seed columns sameLength, product moved found,
    product movedOn pushedFound, map_eps_viewMatrix_apply,
    map_eps_velocity anchor coherent, map_re_viewMatrix_apply,
    map_re_velocity]

end Motion

variable [Elementary K] [LawfulTrigonometry K]
variable [BEq K] [LT K] [DecidableLT K]
variable {anchor : Anchor K}

/--
Along the motion, the derivative of each row of the residual is that row of the
Jacobian times the velocities; and the derivative of each row of the Jacobian
times the velocities is that row times the accelerations plus the bias.
-/
theorem rows_rate_eq_jacobian_and_bias
    (built : anchor.model.mechanism.Built)
    (normalized : anchor.model.mechanism.Normalized)
    (inside : anchor.model.mechanism.contains anchor.frame = true)
    {positions velocities accelerations : List K}
    {dualVelocities : List (Dual K)}
    (positionCount :
      positions.length = anchor.model.mechanism.dofCount)
    (velocityCount :
      velocities.length = anchor.model.mechanism.dofCount)
    (accelerationCount :
      accelerations.length = anchor.model.mechanism.dofCount)
    (dualVelocityCount :
      dualVelocities.length = anchor.model.mechanism.dofCount) :
    ∃ (plain : Snapshot K) (dual : Snapshot (Dual K))
      (rows : List (List K)) (dualRows : List (List (Dual K)))
      (residual rate : Vec3 (Dual K)) (slope push bias : Vec3 K),
      anchor.model.mechanism.snapshot positions velocities =
          .ok plain ∧
        anchor.model.mechanism.snapshot
          (Dual.seed positions velocities) dualVelocities = .ok dual ∧
        anchor.jacobian plain = .ok rows ∧
        anchor.residual dual = .ok residual.toList ∧
        rowsTimesVector rows velocities = .ok slope.toList ∧
        residual.map Dual.eps = slope ∧
        anchor.jacobian dual = .ok dualRows ∧
        rowsTimesVector dualRows (Dual.seed velocities accelerations) =
          .ok rate.toList ∧
        rowsTimesVector rows accelerations = .ok push.toList ∧
        anchor.bias plain = .ok bias.toList ∧
        rate.map Dual.eps = push + bias := by
  have wellFormed := built.wellFormed
  have sameLength := positionCount.trans velocityCount.symm
  have pushedLength := velocityCount.trans accelerationCount.symm
  obtain ⟨moving, _, moved, plainFound, plainTaken⟩ :=
    wellFormed.seeded_ok positionCount velocityCount velocityCount
  obtain ⟨pushed, _, movedOn, _, pushedPlain⟩ :=
    wellFormed.seeded_ok positionCount velocityCount accelerationCount
  obtain ⟨dual, dualFound, dualTaken⟩ :=
    wellFormed.snapshot_ok
      ((Dual.length_seed sameLength).trans positionCount)
      dualVelocityCount
  obtain ⟨motion, found⟩ := moved.motion_of_contains inside
  obtain ⟨pushedMotion, pushedFound⟩ := movedOn.motion_of_contains inside
  have plainMotion := Snapshot.motion?_map Dual.re found
  have pushedPlainMotion := Snapshot.motion?_map Dual.re pushedFound
  obtain ⟨residual, residualFound, residualRate⟩ :=
    residual_rate wellFormed normalized dualTaken moved found
  obtain ⟨dualColumns, dualColumnsFound, dualWidth, dualRate⟩ :=
    jacobian_rate wellFormed normalized pushedLength dualTaken moved movedOn
      found pushedFound
  obtain ⟨columns, columnsFound, width, product⟩ :=
    jacobian_columns wellFormed plainTaken inside
  refine ⟨moving.map Dual.re, dual, columns.toRows, dualColumns.toRows,
    residual, _, _, _, _, plainFound, dualFound, columnsFound,
    residualFound,
    Columns.rowsTimesVector_toRows (width.trans velocityCount.symm), ?_,
    dualColumnsFound, Columns.rowsTimesVector_toRows ?_,
    Columns.rowsTimesVector_toRows (width.trans accelerationCount.symm),
    bias_eq plainTaken plainMotion, ?_⟩
  · rw [residualRate, product plainTaken plainMotion]
  · rw [dualWidth, Dual.length_seed pushedLength, velocityCount]
  · rw [dualRate, product pushedPlain pushedPlainMotion, Vec3.add_comm]

/--
A point of the slider pinned to a place in the world, seen along axes that are
turned about the diagonal: the matrix of the view is not symmetric.
-/
noncomputable def sliderPin : Anchor ℝ where
  name := "pin"
  model := ⟨0, Mechanism.slidingArm⟩
  point := ⟨7, 6, 4⟩
  frame := ⟨2⟩
  target := ⟨1, 3, 6⟩
  view := ⟨1 / 7, 4 / 7, 4 / 7, 4 / 7⟩
  rows := .all 3

/-- The pinned point of the slider, along one motion. -/
theorem rows_rate_eq_jacobian_and_bias_sliderPin :
    Mechanism.slidingArm.Built ∧
      Mechanism.slidingArm.Normalized ∧
      Mechanism.slidingArm.contains sliderPin.frame = true ∧
      ∃ (plain : Snapshot ℝ) (dual : Snapshot (Dual ℝ))
        (rows : List (List ℝ)) (dualRows : List (List (Dual ℝ)))
        (residual rate : Vec3 (Dual ℝ)) (slope push bias : Vec3 ℝ),
        Mechanism.slidingArm.snapshot [1, 2] [3, 4] = .ok plain ∧
          Mechanism.slidingArm.snapshot
            (Dual.seed [1, 2] [3, 4]) [0, 0] = .ok dual ∧
          sliderPin.jacobian plain = .ok rows ∧
          sliderPin.residual dual = .ok residual.toList ∧
          rowsTimesVector rows [3, 4] = .ok slope.toList ∧
          residual.map Dual.eps = slope ∧
          sliderPin.jacobian dual = .ok dualRows ∧
          rowsTimesVector dualRows (Dual.seed [3, 4] [5, 6]) =
            .ok rate.toList ∧
          rowsTimesVector rows [5, 6] = .ok push.toList ∧
          sliderPin.bias plain = .ok bias.toList ∧
          rate.map Dual.eps = push + bias := by
  have built : sliderPin.model.mechanism.Built :=
    Mechanism.slidingArm_built
  have normalized : sliderPin.model.mechanism.Normalized :=
    Mechanism.slidingArm_normalized
  exact
    ⟨built, normalized, rfl,
      rows_rate_eq_jacobian_and_bias built normalized rfl rfl rfl rfl rfl⟩

end Linkage.Anchor
