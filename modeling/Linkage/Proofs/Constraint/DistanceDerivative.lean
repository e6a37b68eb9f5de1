import Linkage.Proofs.Constraint.DistanceReading
import Linkage.Proofs.Mechanism.Derivative

namespace Linkage.Distance

/-!
# Derivatives of distance constraints

Along the motion, the derivative of the gap is its rate and the derivative of
the rate is its bias.  The Jacobian of a distance constraint is therefore the
derivative of its residual by the chain rule for the length, and its bias is
what the quotient rule leaves of the derivative of the Jacobian.
-/

variable {K : Type} [Field K]

section Apart

variable [LinearOrder K] [IsStrictOrderedRing K]
variable [Elementary K] [LawfulSqrt K] [LawfulTrigonometry K]
variable {distance : Distance K}
variable {positions velocities : List K}
variable {snapshot : Snapshot K}
variable {motionA motionB : FrameMotion K}

/-- The separation of points at different places has a length to divide by. -/
theorem separation_norm_ne_zero
    (wellFormed : distance.model.mechanism.WellFormed)
    (normalized : distance.model.mechanism.Normalized)
    (taken :
      distance.model.mechanism.Taken positions velocities snapshot)
    (foundA : snapshot.motion? distance.frameA = some motionA)
    (foundB : snapshot.motion? distance.frameB = some motionB)
    (apart :
      motionA.pointPosition distance.pointA ≠
        motionB.pointPosition distance.pointB) :
    ∃ separation : Vec3 K,
      distance.separation snapshot = .ok separation ∧
        separation.norm ≠ 0 := by
  have rotation := taken.isRotation wellFormed normalized foundB
  refine ⟨_, separation_eq wellFormed normalized taken foundA foundB, ?_⟩
  rw [rotation.norm_transpose_apply]
  exact Vec3.norm_ne_zero (gap_ne_zero apart)

end Apart

/-- A point above the slider, and the origin of the arm that carries it. -/
noncomputable def armSpan : Distance ℝ where
  name := "span"
  model := ⟨0, Mechanism.slidingArm⟩
  pointA := ⟨0, 0, 5⟩
  frameA := ⟨2⟩
  pointB := 0
  frameB := ⟨1⟩
  target := 1
  rows := .all 1

/-- The slider hangs upside down, so its point is always below the arm. -/
theorem armSpan_apart
    {angle slide turning sliding : ℝ}
    {snapshot : Snapshot ℝ}
    {placeA placeB : Vec3 ℝ}
    (found :
      Mechanism.slidingArm.snapshot [angle, slide] [turning, sliding] =
        .ok snapshot)
    (foundA :
      Mechanism.slidingArm.pointPosition snapshot
        armSpan.frameA armSpan.pointA .world = .ok placeA)
    (foundB :
      Mechanism.slidingArm.pointPosition snapshot
        armSpan.frameB armSpan.pointB .world = .ok placeB) :
    placeA ≠ placeB := by
  cases found
  cases foundA
  cases foundB
  intro same
  have heights := congrArg Vec3.z same
  simp [armSpan, FrameMotion.pointPosition, FrameMotion.follow,
    FrameMotion.world, JointMotion.of, Quaternion.toMatrix,
    Quaternion.identity, Mat3.apply, Mat3.times, Mat3.transpose,
    Mat3.axisAngle, Mat3.map, Mat3.outer, Mat3.skew, Mat3.identity,
    Mat3.scale, Vec3.map, Vec3.scale, Vec3.rowTimes_eq, two]
    at heights

variable [FusedMulAdd K] [LawfulFusedMulAdd K]

variable {motionA motionB : FrameMotion (Dual K)}

/-- The values of the gap are the gap of the values. -/
theorem map_re_gap
    (distance : Distance K)
    (motionA motionB : FrameMotion (Dual K)) :
    (distance.gap motionA motionB).map Dual.re =
      distance.gap (motionA.map Dual.re) (motionB.map Dual.re) := by
  simp only [gap, Vec3.map_sub, FrameMotion.map_pointPosition,
    Vec3.map_constant]

/-- The values of the rate are the rate of the values. -/
theorem map_re_gapRate
    (distance : Distance K)
    (motionA motionB : FrameMotion (Dual K)) :
    (distance.gapRate motionA motionB).map Dual.re =
      distance.gapRate (motionA.map Dual.re) (motionB.map Dual.re) := by
  simp only [gapRate, Vec3.map_sub, FrameMotion.map_pointVelocity,
    FrameMotion.map_pointPosition, Vec3.map_constant]

/-- The values of the bias are the bias of the values. -/
theorem map_re_gapBias
    (distance : Distance K)
    (motionA motionB : FrameMotion (Dual K)) :
    (distance.gapBias motionA motionB).map Dual.re =
      distance.gapBias (motionA.map Dual.re) (motionB.map Dual.re) := by
  simp only [gapBias, Vec3.map_sub, FrameMotion.map_pointBias,
    FrameMotion.map_pointPosition, Vec3.map_constant]

/-- The value of the rate of the length is that of the values. -/
theorem re_lengthRate
    [Elementary K]
    (distance : Distance K)
    (motionA motionB : FrameMotion (Dual K)) :
    (distance.lengthRate motionA motionB).re =
      distance.lengthRate
        (motionA.map Dual.re) (motionB.map Dual.re) := by
  rw [lengthRate, Dual.re_div, Vec3.apply_dot Dual.re, map_re_gap,
    map_re_gapRate, lengthRate, ← map_re_gap]
  rfl

/-- The gap changes at its rate. -/
theorem map_eps_gap
    (distance : Distance K)
    (coherentA : motionA.Coherent)
    (coherentB : motionB.Coherent) :
    (distance.gap motionA motionB).map Dual.eps =
      distance.gapRate (motionA.map Dual.re) (motionB.map Dual.re) := by
  rw [← map_re_gapRate, gap, gapRate, Vec3.map_eps_sub,
    coherentA.pointPosition, coherentB.pointPosition, Vec3.map_sub]

/-- The rate of the gap changes at its bias. -/
theorem map_eps_gapRate
    (distance : Distance K)
    (coherentA : motionA.Coherent)
    (coherentB : motionB.Coherent) :
    (distance.gapRate motionA motionB).map Dual.eps =
      distance.gapBias (motionA.map Dual.re) (motionB.map Dual.re) := by
  rw [← map_re_gapBias, gapRate, gapBias, Vec3.map_eps_sub,
    coherentA.pointVelocity (coherentA.pointPosition _),
    coherentB.pointVelocity (coherentB.pointPosition _), Vec3.map_sub]

section Ordered

variable [LinearOrder K] [IsStrictOrderedRing K] [Elementary K]

/-- The derivative of the length of the gap is the rate of that length. -/
theorem eps_norm_gap
    (distance : Distance K)
    (coherentA : motionA.Coherent)
    (coherentB : motionB.Coherent) :
    (distance.gap motionA motionB).norm.eps =
      distance.lengthRate (motionA.map Dual.re) (motionB.map Dual.re) := by
  rw [Vec3.eps_norm, map_re_gap, map_eps_gap distance coherentA coherentB,
    lengthRate]

variable [LawfulSqrt K]

/-- The quotient rule for the rate of the length leaves the bias formula. -/
theorem eps_lengthRate
    (distance : Distance K)
    (coherentA : motionA.Coherent)
    (coherentB : motionB.Coherent)
    (gapNotZero :
      distance.gap (motionA.map Dual.re) (motionB.map Dual.re) ≠ 0) :
    (distance.lengthRate motionA motionB).eps =
      biasOf
        (distance.gap (motionA.map Dual.re) (motionB.map Dual.re))
        (distance.gapRate (motionA.map Dual.re) (motionB.map Dual.re))
        (distance.gapBias
          (motionA.map Dual.re) (motionB.map Dual.re)) := by
  have lengthNotZero := Vec3.norm_ne_zero gapNotZero
  have lengthValue :
      (distance.gap motionA motionB).norm.re =
        (distance.gap (motionA.map Dual.re)
          (motionB.map Dual.re)).norm := by
    rw [← map_re_gap]
    rfl
  rw [lengthRate, Dual.eps_div, Vec3.eps_dot,
    eps_norm_gap distance coherentA coherentB,
    map_eps_gap distance coherentA coherentB,
    map_eps_gapRate distance coherentA coherentB, Vec3.apply_dot Dual.re,
    lengthValue, map_re_gap, map_re_gapRate, lengthRate, biasOf,
    Vec3.normSquared]
  field_simp

variable [LawfulTrigonometry K]
variable {distance : Distance K}

/--
The derivative of the residual in any direction is the Jacobian times that
direction, wherever the two points are apart.
-/
theorem residual_rate_eq_jacobian
    (built : distance.model.mechanism.Built)
    (normalized : distance.model.mechanism.Normalized)
    (insideA : distance.model.mechanism.contains distance.frameA = true)
    (insideB : distance.model.mechanism.contains distance.frameB = true)
    {positions velocities directions : List K}
    {dualVelocities : List (Dual K)}
    (positionCount :
      positions.length = distance.model.mechanism.dofCount)
    (velocityCount :
      velocities.length = distance.model.mechanism.dofCount)
    (directionCount :
      directions.length = distance.model.mechanism.dofCount)
    (dualVelocityCount :
      dualVelocities.length = distance.model.mechanism.dofCount) :
    ∃ (plain : Snapshot K) (dual : Snapshot (Dual K))
      (placeA placeB : Vec3 K),
      distance.model.mechanism.snapshot positions velocities =
          .ok plain ∧
        distance.model.mechanism.snapshot
          (Dual.seed positions directions) dualVelocities = .ok dual ∧
        distance.model.mechanism.pointPosition plain
          distance.frameA distance.pointA .world = .ok placeA ∧
        distance.model.mechanism.pointPosition plain
          distance.frameB distance.pointB .world = .ok placeB ∧
        (placeA ≠ placeB →
          ∃ (separation : Vec3 K) (residual : Dual K)
            (rows : List (List K)) (slope : K),
            distance.separation plain = .ok separation ∧
              separation.norm ≠ 0 ∧
              distance.residual dual = .ok [residual] ∧
              distance.jacobian plain = .ok rows ∧
              rowsTimesVector rows directions = .ok [slope] ∧
              residual.eps = slope) := by
  have wellFormed := built.wellFormed
  have sameLength := positionCount.trans directionCount.symm
  obtain ⟨plain, plainFound, plainTaken⟩ :=
    wellFormed.snapshot_ok positionCount velocityCount
  obtain ⟨dual, dualFound, dualTaken⟩ :=
    wellFormed.snapshot_ok
      ((Dual.length_seed sameLength).trans positionCount)
      dualVelocityCount
  obtain ⟨moving, _, movingTaken, _, movingPlain⟩ :=
    wellFormed.seeded_ok positionCount directionCount directionCount
  obtain ⟨restA, restFoundA⟩ := plainTaken.motion_of_contains insideA
  obtain ⟨restB, restFoundB⟩ := plainTaken.motion_of_contains insideB
  obtain ⟨dualA, dualFoundA⟩ := dualTaken.motion_of_contains insideA
  obtain ⟨dualB, dualFoundB⟩ := dualTaken.motion_of_contains insideB
  obtain ⟨motionA, foundA⟩ := movingTaken.motion_of_contains insideA
  obtain ⟨motionB, foundB⟩ := movingTaken.motion_of_contains insideB
  have coherentA := movingTaken.coherent wellFormed normalized foundA
  have coherentB := movingTaken.coherent wellFormed normalized foundB
  refine ⟨plain, dual, _, _, plainFound, dualFound,
    plainTaken.pointPosition_world restFoundA _,
    plainTaken.pointPosition_world restFoundB _, fun apart => ?_⟩
  obtain ⟨separation, separationFound, lengthNotZero⟩ :=
    separation_norm_ne_zero wellFormed normalized plainTaken
      restFoundA restFoundB apart
  have residualFound :=
    residual_eq wellFormed normalized dualTaken dualFoundA dualFoundB
  rw [distance.gap_eq_of_samePlace
    (dualTaken.samePlace wellFormed movingTaken dualFoundA foundA)
    (dualTaken.samePlace wellFormed movingTaken dualFoundB foundB)]
    at residualFound
  obtain ⟨row, rowFound, width, product⟩ :=
    jacobian_velocity wellFormed normalized plainTaken movingPlain
      (Snapshot.motion?_map Dual.re foundA)
      (Snapshot.motion?_map Dual.re foundB)
  refine ⟨separation, _, [row], _, separationFound, lengthNotZero,
    residualFound, rowFound,
    rowsTimesVector_row (width.trans directionCount.symm), ?_⟩
  rw [product, Dual.eps_sub, eps_norm_gap distance coherentA coherentB,
    Dual.eps_constant, sub_zero]

/-- The span between the slider and the arm, in one direction. -/
theorem residual_rate_eq_jacobian_armSpan :
    Mechanism.slidingArm.Built ∧
      Mechanism.slidingArm.Normalized ∧
      Mechanism.slidingArm.contains armSpan.frameA = true ∧
      Mechanism.slidingArm.contains armSpan.frameB = true ∧
      ∃ (plain : Snapshot ℝ) (dual : Snapshot (Dual ℝ))
        (placeA placeB : Vec3 ℝ),
        Mechanism.slidingArm.snapshot [1, 2] [0, 0] = .ok plain ∧
          Mechanism.slidingArm.snapshot
            (Dual.seed [1, 2] [3, 4]) [0, 0] = .ok dual ∧
          Mechanism.slidingArm.pointPosition plain
            armSpan.frameA armSpan.pointA .world = .ok placeA ∧
          Mechanism.slidingArm.pointPosition plain
            armSpan.frameB armSpan.pointB .world = .ok placeB ∧
          placeA ≠ placeB ∧
          ∃ (separation : Vec3 ℝ) (residual : Dual ℝ)
            (rows : List (List ℝ)) (slope : ℝ),
            armSpan.separation plain = .ok separation ∧
              separation.norm ≠ 0 ∧
              armSpan.residual dual = .ok [residual] ∧
              armSpan.jacobian plain = .ok rows ∧
              rowsTimesVector rows [3, 4] = .ok [slope] ∧
              residual.eps = slope := by
  have built : armSpan.model.mechanism.Built :=
    Mechanism.slidingArm_built
  have normalized : armSpan.model.mechanism.Normalized :=
    Mechanism.slidingArm_normalized
  obtain ⟨plain, dual, placeA, placeB, plainFound, dualFound, foundA,
      foundB, whereApart⟩ :=
    residual_rate_eq_jacobian built normalized rfl rfl
      (rfl : [(1 : ℝ), 2].length = 2) (rfl : [(0 : ℝ), 0].length = 2)
      (rfl : [(3 : ℝ), 4].length = 2)
      (rfl : [(0 : Dual ℝ), 0].length = 2)
  have apart := armSpan_apart plainFound foundA foundB
  exact
    ⟨built, normalized, rfl, rfl, plain, dual, placeA, placeB,
      plainFound, dualFound, foundA, foundB, apart, whereApart apart⟩

/--
The derivative of the Jacobian times the velocities, along the motion, is the
Jacobian times the accelerations plus the bias, wherever the two points are
apart.
-/
theorem jacobian_rate_eq_bias
    (built : distance.model.mechanism.Built)
    (normalized : distance.model.mechanism.Normalized)
    (insideA : distance.model.mechanism.contains distance.frameA = true)
    (insideB : distance.model.mechanism.contains distance.frameB = true)
    {positions velocities accelerations : List K}
    {dualVelocities : List (Dual K)}
    (positionCount :
      positions.length = distance.model.mechanism.dofCount)
    (velocityCount :
      velocities.length = distance.model.mechanism.dofCount)
    (accelerationCount :
      accelerations.length = distance.model.mechanism.dofCount)
    (dualVelocityCount :
      dualVelocities.length = distance.model.mechanism.dofCount) :
    ∃ (plain : Snapshot K) (dual : Snapshot (Dual K))
      (placeA placeB : Vec3 K),
      distance.model.mechanism.snapshot positions velocities =
          .ok plain ∧
        distance.model.mechanism.snapshot
          (Dual.seed positions velocities) dualVelocities = .ok dual ∧
        distance.model.mechanism.pointPosition plain
          distance.frameA distance.pointA .world = .ok placeA ∧
        distance.model.mechanism.pointPosition plain
          distance.frameB distance.pointB .world = .ok placeB ∧
        (placeA ≠ placeB →
          ∃ (separation : Vec3 K) (dualRows : List (List (Dual K)))
            (value : Dual K) (rows : List (List K)) (slope bias : K),
            distance.separation plain = .ok separation ∧
              separation.norm ≠ 0 ∧
              distance.jacobian dual = .ok dualRows ∧
              rowsTimesVector dualRows
                (Dual.seed velocities accelerations) = .ok [value] ∧
              distance.jacobian plain = .ok rows ∧
              rowsTimesVector rows accelerations = .ok [slope] ∧
              distance.bias plain = .ok [bias] ∧
              value.eps = slope + bias) := by
  have wellFormed := built.wellFormed
  have sameLength := positionCount.trans velocityCount.symm
  obtain ⟨moving, _, movingTaken, plainFound, plainTaken⟩ :=
    wellFormed.seeded_ok positionCount velocityCount velocityCount
  obtain ⟨pushed, _, pushedTaken, _, pushedPlain⟩ :=
    wellFormed.seeded_ok positionCount velocityCount accelerationCount
  obtain ⟨dual, dualFound, dualTaken⟩ :=
    wellFormed.snapshot_ok
      ((Dual.length_seed sameLength).trans positionCount)
      dualVelocityCount
  obtain ⟨motionA, foundA⟩ := movingTaken.motion_of_contains insideA
  obtain ⟨motionB, foundB⟩ := movingTaken.motion_of_contains insideB
  obtain ⟨pushedA, pushedFoundA⟩ :=
    pushedTaken.motion_of_contains insideA
  obtain ⟨pushedB, pushedFoundB⟩ :=
    pushedTaken.motion_of_contains insideB
  have coherentA := movingTaken.coherent wellFormed normalized foundA
  have coherentB := movingTaken.coherent wellFormed normalized foundB
  have plainFoundA := Snapshot.motion?_map Dual.re foundA
  have plainFoundB := Snapshot.motion?_map Dual.re foundB
  refine ⟨moving.map Dual.re, dual, _, _, plainFound, dualFound,
    plainTaken.pointPosition_world plainFoundA _,
    plainTaken.pointPosition_world plainFoundB _, fun apart => ?_⟩
  obtain ⟨separation, separationFound, lengthNotZero⟩ :=
    separation_norm_ne_zero wellFormed normalized plainTaken
      plainFoundA plainFoundB apart
  -- One row of dual numbers, multiplied by the velocities and accelerations.
  obtain ⟨dualRow, dualRowFound, dualWidth, along⟩ :=
    jacobian_velocity wellFormed normalized dualTaken movingTaken
      foundA foundB
  obtain ⟨sameRow, sameRowFound, _, pushedAlong⟩ :=
    jacobian_velocity wellFormed normalized dualTaken pushedTaken
      pushedFoundA pushedFoundB
  rw [dualRowFound] at sameRowFound
  cases sameRowFound
  obtain ⟨row, rowFound, width, product⟩ :=
    jacobian_velocity wellFormed normalized plainTaken pushedPlain
      (Snapshot.motion?_map Dual.re pushedFoundA)
      (Snapshot.motion?_map Dual.re pushedFoundB)
  have biasFound :=
    bias_eq wellFormed plainTaken velocityCount plainFoundA plainFoundB
  refine ⟨separation, [dualRow], _, [row], _, _, separationFound,
    lengthNotZero, dualRowFound, rowsTimesVector_row ?_, rowFound,
    rowsTimesVector_row (width.trans accelerationCount.symm), biasFound,
    ?_⟩
  · rw [dualWidth, Dual.length_seed
      (velocityCount.trans accelerationCount.symm), velocityCount]
  · rw [eps_sumProducts_seed dualRow
      (velocityCount.trans accelerationCount.symm), along, pushedAlong,
      product, re_lengthRate,
      eps_lengthRate distance coherentA coherentB (gap_ne_zero apart),
      add_comm]

/-- The span between the slider and the arm, along one motion. -/
theorem jacobian_rate_eq_bias_armSpan :
    Mechanism.slidingArm.Built ∧
      Mechanism.slidingArm.Normalized ∧
      Mechanism.slidingArm.contains armSpan.frameA = true ∧
      Mechanism.slidingArm.contains armSpan.frameB = true ∧
      ∃ (plain : Snapshot ℝ) (dual : Snapshot (Dual ℝ))
        (placeA placeB : Vec3 ℝ),
        Mechanism.slidingArm.snapshot [1, 2] [3, 4] = .ok plain ∧
          Mechanism.slidingArm.snapshot
            (Dual.seed [1, 2] [3, 4]) [0, 0] = .ok dual ∧
          Mechanism.slidingArm.pointPosition plain
            armSpan.frameA armSpan.pointA .world = .ok placeA ∧
          Mechanism.slidingArm.pointPosition plain
            armSpan.frameB armSpan.pointB .world = .ok placeB ∧
          placeA ≠ placeB ∧
          ∃ (separation : Vec3 ℝ) (dualRows : List (List (Dual ℝ)))
            (value : Dual ℝ) (rows : List (List ℝ)) (slope bias : ℝ),
            armSpan.separation plain = .ok separation ∧
              separation.norm ≠ 0 ∧
              armSpan.jacobian dual = .ok dualRows ∧
              rowsTimesVector dualRows (Dual.seed [3, 4] [5, 6]) =
                .ok [value] ∧
              armSpan.jacobian plain = .ok rows ∧
              rowsTimesVector rows [5, 6] = .ok [slope] ∧
              armSpan.bias plain = .ok [bias] ∧
              value.eps = slope + bias := by
  have built : armSpan.model.mechanism.Built :=
    Mechanism.slidingArm_built
  have normalized : armSpan.model.mechanism.Normalized :=
    Mechanism.slidingArm_normalized
  obtain ⟨plain, dual, placeA, placeB, plainFound, dualFound, foundA,
      foundB, whereApart⟩ :=
    jacobian_rate_eq_bias built normalized rfl rfl
      (rfl : [(1 : ℝ), 2].length = 2) (rfl : [(3 : ℝ), 4].length = 2)
      (rfl : [(5 : ℝ), 6].length = 2)
      (rfl : [(0 : Dual ℝ), 0].length = 2)
  have apart := armSpan_apart plainFound foundA foundB
  exact
    ⟨built, normalized, rfl, rfl, plain, dual, placeA, placeB,
      plainFound, dualFound, foundA, foundB, apart, whereApart apart⟩

end Ordered

end Linkage.Distance
