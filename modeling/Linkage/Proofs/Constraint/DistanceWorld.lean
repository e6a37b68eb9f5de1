import Linkage.Proofs.Constraint.DistanceDerivative

namespace Linkage.Distance

/-!
# A distance constraint along two paths

Value and Jacobian of a distance constraint are computed in the second frame;
the bias forms the same gap, the same Jacobian and the same rate in the world.
The two Jacobians of the points are different matrices: in the second frame the
first point is compared with the point of that frame at its own place, in the
world with the second point.  Each column then differs by a turning of the gap,
which the projection on the gap takes away.
-/

variable {K T : Type}
variable [CommRing K] [CommRing T] [Elementary T] [Constant K T]
variable [PreservesArithmetic (Constant.constant : K → T)]
variable [LawfulTrigonometry T]
variable [Div T] [LawfulDivision T]

/--
The row of the Jacobian is the projection on the gap of the difference of the
world Jacobians of the two points, divided by the length of the gap.
-/
theorem jacobian_eq_world
    {distance : Distance K}
    (wellFormed : distance.model.mechanism.WellFormed)
    (normalized : distance.model.mechanism.Normalized)
    {positions velocities : List T}
    (positionCount :
      positions.length = distance.model.mechanism.dofCount)
    {snapshot : Snapshot T}
    (taken :
      distance.model.mechanism.Taken positions velocities snapshot)
    {motionA motionB : FrameMotion T}
    (foundA : snapshot.motion? distance.frameA = some motionA)
    (foundB : snapshot.motion? distance.frameB = some motionB)
    {columnsA columnsB : Columns T}
    (columnsFoundA :
      distance.model.mechanism.pointJacobian snapshot distance.frameA
        (distance.pointA.map Constant.constant) .world .world =
          .ok columnsA)
    (columnsFoundB :
      distance.model.mechanism.pointJacobian snapshot distance.frameB
        (distance.pointB.map Constant.constant) .world .world =
          .ok columnsB) :
    distance.jacobian snapshot =
      .ok
        [divideVector
          ((columnsA.subtract columnsB).project
            (distance.gap motionA motionB))
          (distance.gap motionA motionB).norm] := by
  have insideA := taken.contains_of_motion foundA
  have insideB := taken.contains_of_motion foundB
  obtain ⟨_, sameFoundA, widthA, productA⟩ :=
    Mechanism.pointJacobian_world_columns wellFormed taken insideA
      (distance.pointA.map Constant.constant)
  obtain ⟨_, sameFoundB, widthB, productB⟩ :=
    Mechanism.pointJacobian_world_columns wellFormed taken insideB
      (distance.pointB.map Constant.constant)
  cases columnsFoundA.symm.trans sameFoundA
  cases columnsFoundB.symm.trans sameFoundB
  have sameWidth := widthA.trans widthB.symm
  obtain ⟨row, rowFound, width, _⟩ :=
    jacobian_velocity wellFormed normalized taken taken foundA foundB
  rw [rowFound]
  congr 2
  -- Rows are compared by their products with the rates of any motion.
  refine eq_of_sumProducts_eq ?_ fun rates rateCount => ?_
  · simp [divideVector, Columns.subtract, width, widthA, widthB]
  · obtain ⟨moving, _, moved⟩ :=
      wellFormed.snapshot_ok positionCount (rateCount.trans width)
    obtain ⟨movingA, movingFoundA⟩ := moved.motion_of_contains insideA
    obtain ⟨movingB, movingFoundB⟩ := moved.motion_of_contains insideB
    have sameA := taken.samePlace wellFormed moved foundA movingFoundA
    have sameB := taken.samePlace wellFormed moved foundB movingFoundB
    obtain ⟨_, sameRowFound, _, product⟩ :=
      jacobian_velocity wellFormed normalized taken moved
        movingFoundA movingFoundB
    cases rowFound.symm.trans sameRowFound
    rw [product, sumProducts_divideVector, Columns.sumProducts_project,
      Columns.combine_subtract sameWidth, productA moved movingFoundA,
      productB moved movingFoundB,
      distance.gap_eq_of_samePlace sameA sameB, lengthRate, gapRate]

variable [Div K] [OfScientific K] [BEq K] [LT K] [DecidableLT K]
variable [Elementary K]

/--
Value and Jacobian of a distance constraint are those that the world positions
and world Jacobians of its points give, column by column; and the rate that the
bias divides out is the product of the Jacobian and the velocities.
-/
theorem relative_path_eq_world_path
    {distance : Distance K}
    (built : distance.model.mechanism.Built)
    (normalized : distance.model.mechanism.Normalized)
    (insideA : distance.model.mechanism.contains distance.frameA = true)
    (insideB : distance.model.mechanism.contains distance.frameB = true)
    {positions velocities : List T}
    (positionCount :
      positions.length = distance.model.mechanism.dofCount)
    (velocityCount :
      velocities.length = distance.model.mechanism.dofCount) :
    ∃ (snapshot : Snapshot T)
      (placeA placeB velocity biasA biasB : Vec3 T)
      (columnsA columnsB : Columns T) (row : List T) (rate : T),
      distance.model.mechanism.snapshot positions velocities =
          .ok snapshot ∧
        distance.model.mechanism.pointPosition snapshot distance.frameA
          (distance.pointA.map Constant.constant) .world =
            .ok placeA ∧
        distance.model.mechanism.pointPosition snapshot distance.frameB
          (distance.pointB.map Constant.constant) .world =
            .ok placeB ∧
        distance.model.mechanism.pointJacobian snapshot distance.frameA
          (distance.pointA.map Constant.constant) .world .world =
            .ok columnsA ∧
        distance.model.mechanism.pointJacobian snapshot distance.frameB
          (distance.pointB.map Constant.constant) .world .world =
            .ok columnsB ∧
        distance.model.mechanism.pointBias snapshot distance.frameA
          (distance.pointA.map Constant.constant) .world = .ok biasA ∧
        distance.model.mechanism.pointBias snapshot distance.frameB
          (distance.pointB.map Constant.constant) .world = .ok biasB ∧
        (columnsA.subtract columnsB).timesVector velocities =
          .ok velocity ∧
        distance.residual snapshot =
          .ok
            [(placeA - placeB).norm -
              Constant.constant distance.target] ∧
        row =
          divideVector
            ((columnsA.subtract columnsB).project (placeA - placeB))
            (placeA - placeB).norm ∧
        row.length = distance.model.mechanism.dofCount ∧
        distance.jacobian snapshot = .ok [row] ∧
        rowsTimesVector [row] velocities = .ok [rate] ∧
        rate =
          (placeA - placeB).dot velocity / (placeA - placeB).norm ∧
        distance.bias snapshot =
          .ok
            [velocity.normSquared / (placeA - placeB).norm +
              (placeA - placeB).dot (biasA - biasB) /
                (placeA - placeB).norm -
              rate * (placeA - placeB).dot velocity /
                ((placeA - placeB).norm * (placeA - placeB).norm)] := by
  have wellFormed := built.wellFormed
  obtain ⟨snapshot, snapshotFound, taken⟩ :=
    wellFormed.snapshot_ok positionCount velocityCount
  obtain ⟨motionA, foundA⟩ := taken.motion_of_contains insideA
  obtain ⟨motionB, foundB⟩ := taken.motion_of_contains insideB
  obtain ⟨columnsA, columnsFoundA, widthA, productA⟩ :=
    Mechanism.pointJacobian_world_columns wellFormed taken insideA
      (distance.pointA.map Constant.constant)
  obtain ⟨columnsB, columnsFoundB, widthB, productB⟩ :=
    Mechanism.pointJacobian_world_columns wellFormed taken insideB
      (distance.pointB.map Constant.constant)
  have sameWidth := widthA.trans widthB.symm
  have width :
      (Columns.subtract columnsA columnsB).length =
        distance.model.mechanism.dofCount := by
    simp [Columns.subtract, widthA, widthB]
  have product :
      Columns.combine
          ((Columns.subtract columnsA columnsB).zip velocities) =
        distance.gapRate motionA motionB := by
    rw [Columns.combine_subtract sameWidth, productA taken foundA,
      productB taken foundB, gapRate]
  have rowWidth :
      (divideVector
          ((Columns.subtract columnsA columnsB).project
            (distance.gap motionA motionB))
          (distance.gap motionA motionB).norm).length =
        distance.model.mechanism.dofCount := by
    simp [divideVector, width]
  refine ⟨snapshot, _, _, distance.gapRate motionA motionB, _, _,
    columnsA, columnsB, _, distance.lengthRate motionA motionB,
    snapshotFound, taken.pointPosition_world foundA _,
    taken.pointPosition_world foundB _, columnsFoundA, columnsFoundB,
    taken.pointBias_world foundA _, taken.pointBias_world foundB _, ?_,
    residual_eq wellFormed normalized taken foundA foundB, rfl, rowWidth,
    jacobian_eq_world wellFormed normalized positionCount taken
      foundA foundB columnsFoundA columnsFoundB,
    ?_, rfl, bias_eq wellFormed taken velocityCount foundA foundB⟩
  · rw [Columns.timesVector_eq (width.trans velocityCount.symm), product]
  · rw [← gap, rowsTimesVector_row (rowWidth.trans velocityCount.symm),
      sumProducts_divideVector, Columns.sumProducts_project, product,
      lengthRate]

/-- The span between the slider and the arm, whose points are apart. -/
theorem relative_path_eq_world_path_armSpan :
    Mechanism.slidingArm.Built ∧
      Mechanism.slidingArm.Normalized ∧
      Mechanism.slidingArm.contains armSpan.frameA = true ∧
      Mechanism.slidingArm.contains armSpan.frameB = true ∧
      ∃ (snapshot : Snapshot ℝ)
        (placeA placeB velocity biasA biasB : Vec3 ℝ)
        (columnsA columnsB : Columns ℝ) (row : List ℝ) (rate : ℝ),
        Mechanism.slidingArm.snapshot [1, 2] [3, 4] = .ok snapshot ∧
          Mechanism.slidingArm.pointPosition snapshot armSpan.frameA
            armSpan.pointA .world = .ok placeA ∧
          Mechanism.slidingArm.pointPosition snapshot armSpan.frameB
            armSpan.pointB .world = .ok placeB ∧
          placeA ≠ placeB ∧
          Mechanism.slidingArm.pointJacobian snapshot armSpan.frameA
            armSpan.pointA .world .world = .ok columnsA ∧
          Mechanism.slidingArm.pointJacobian snapshot armSpan.frameB
            armSpan.pointB .world .world = .ok columnsB ∧
          Mechanism.slidingArm.pointBias snapshot armSpan.frameA
            armSpan.pointA .world = .ok biasA ∧
          Mechanism.slidingArm.pointBias snapshot armSpan.frameB
            armSpan.pointB .world = .ok biasB ∧
          (columnsA.subtract columnsB).timesVector [3, 4] =
            .ok velocity ∧
          armSpan.residual snapshot =
            .ok [(placeA - placeB).norm - armSpan.target] ∧
          row =
            divideVector
              ((columnsA.subtract columnsB).project (placeA - placeB))
              (placeA - placeB).norm ∧
          row.length = 2 ∧
          armSpan.jacobian snapshot = .ok [row] ∧
          rowsTimesVector [row] [3, 4] = .ok [rate] ∧
          rate =
            (placeA - placeB).dot velocity / (placeA - placeB).norm ∧
          armSpan.bias snapshot =
            .ok
              [velocity.normSquared / (placeA - placeB).norm +
                (placeA - placeB).dot (biasA - biasB) /
                  (placeA - placeB).norm -
                rate * (placeA - placeB).dot velocity /
                  ((placeA - placeB).norm *
                    (placeA - placeB).norm)] := by
  have built : armSpan.model.mechanism.Built :=
    Mechanism.slidingArm_built
  have normalized : armSpan.model.mechanism.Normalized :=
    Mechanism.slidingArm_normalized
  obtain ⟨snapshot, placeA, placeB, velocity, biasA, biasB, columnsA,
      columnsB, row, rate, found, foundA, foundB, agreement⟩ :=
    relative_path_eq_world_path built normalized rfl rfl
      (rfl : [(1 : ℝ), 2].length = 2) (rfl : [(3 : ℝ), 4].length = 2)
  exact
    ⟨built, normalized, rfl, rfl, snapshot, placeA, placeB, velocity,
      biasA, biasB, columnsA, columnsB, row, rate, found, foundA, foundB,
      armSpan_apart found foundA foundB, agreement⟩

end Linkage.Distance
