import Linkage.Proofs.Constraint.DistanceDerivative
import Linkage.Proofs.Mechanism.RelativeMotion
import Linkage.Proofs.Mechanism.Rest

namespace Linkage

/-!
# A distance constraint sees relative motion alone

A motion that carries both points along rigidly turns the gap between them, and
adds terms to its rate and its bias that are orthogonal to the gap or cancel
each other.  Length, rate of length and bias of the length are left as they are
in the frame where the ways of the two points meet.  So a distance constraint
cannot tell two states apart that agree on the coordinates between its frames.
-/

namespace Distance

section Bias

variable {T : Type} [CommRing T] [Div T] [LawfulDivision T]

/-- Quotients by one divisor are added as their dividends are. -/
theorem div_add_div_same
    (a b divisor : T) :
    a / divisor + b / divisor = (a + b) / divisor := by
  rw [LawfulDivision.div_eq_mul_reciprocal a,
    LawfulDivision.div_eq_mul_reciprocal b,
    LawfulDivision.div_eq_mul_reciprocal (a + b)]
  ring

variable [Elementary T]

/-- The bias of a length is a function of three scalar products. -/
theorem biasOf_congr
    {separation velocity acceleration : Vec3 T}
    {otherSeparation otherVelocity otherAcceleration : Vec3 T}
    (length : separation.norm = otherSeparation.norm)
    (along :
      separation.dot velocity = otherSeparation.dot otherVelocity)
    (total :
      velocity.normSquared + separation.dot acceleration =
        otherVelocity.normSquared +
          otherSeparation.dot otherAcceleration) :
    biasOf separation velocity acceleration =
      biasOf otherSeparation otherVelocity otherAcceleration := by
  simp only [biasOf, div_add_div_same, length, along, total]

/-- Points that rest relative to each other have no bias. -/
theorem biasOf_zero (separation : Vec3 T) :
    biasOf separation 0 0 = 0 := by
  have zeroDiv : ∀ divisor : T, 0 / divisor = 0 := by
    intro divisor
    rw [LawfulDivision.div_eq_mul_reciprocal, zero_mul]
  simp [biasOf, Vec3.normSquared, Vec3.dot, zeroDiv]

/-- Between frames at rest a length has no bias. -/
theorem biasOf_of_atRest
    {K : Type} [Constant K T]
    (distance : Distance K)
    {motionA motionB : FrameMotion T}
    (restA : motionA.AtRest)
    (restB : motionB.AtRest) :
    biasOf (distance.gap motionA motionB)
        (distance.gapRate motionA motionB)
        (distance.gapBias motionA motionB) = 0 := by
  rw [gapRate, gapBias, restA.pointVelocity, restB.pointVelocity,
    restA.pointBias, restB.pointBias, Vec3.sub_zero, biasOf_zero]

end Bias

section Carried

variable {K T : Type} [CommRing T] [Constant K T]
variable {base relativeA relativeB motionA motionB : FrameMotion T}

/-- The gap of carried points is turned. -/
theorem gap_of_carried
    (distance : Distance K)
    (carriedA : FrameMotion.Carried base relativeA motionA)
    (carriedB : FrameMotion.Carried base relativeB motionB) :
    distance.gap motionA motionB =
      base.rotation.apply (distance.gap relativeA relativeB) := by
  rw [gap, gap, carriedA.pointPosition, carriedB.pointPosition,
    FrameMotion.pointPosition_sub]

/-- The rate of the gap of carried points turns with the base as well. -/
theorem gapRate_of_carried
    (distance : Distance K)
    (rotation : base.rotation.IsRotation)
    (carriedA : FrameMotion.Carried base relativeA motionA)
    (carriedB : FrameMotion.Carried base relativeB motionB) :
    distance.gapRate motionA motionB =
      base.angularVelocity.cross
          (base.rotation.apply (distance.gap relativeA relativeB)) +
        base.rotation.apply
          (distance.gapRate relativeA relativeB) := by
  rw [gapRate, gapRate, gap, carriedA.pointPosition,
    carriedB.pointPosition, carriedA.pointVelocity rotation,
    carriedB.pointVelocity rotation, Vec3.add_sub_add,
    FrameMotion.pointVelocity_sub, FrameMotion.pointPosition_sub,
    Mat3.apply_sub _ (relativeA.pointVelocity _)]

/-- The bias of the gap of carried points has the terms of a turning frame. -/
theorem gapBias_of_carried
    (distance : Distance K)
    (rotation : base.rotation.IsRotation)
    (carriedA : FrameMotion.Carried base relativeA motionA)
    (carriedB : FrameMotion.Carried base relativeB motionB) :
    distance.gapBias motionA motionB =
      base.angularBias.cross
          (base.rotation.apply (distance.gap relativeA relativeB)) +
        base.angularVelocity.cross
          (base.angularVelocity.cross
            (base.rotation.apply (distance.gap relativeA relativeB))) +
        (base.angularVelocity.cross
          (base.rotation.apply
            (distance.gapRate relativeA relativeB))).scale two +
        base.rotation.apply
          (distance.gapBias relativeA relativeB) := by
  rw [gapBias, gapBias, gapRate, gap, carriedA.pointPosition,
    carriedB.pointPosition, carriedA.pointBias rotation,
    carriedB.pointBias rotation, Vec3.add_sub_add, Vec3.add_sub_add,
    FrameMotion.pointBias_sub, FrameMotion.pointPosition_sub,
    Mat3.apply_sub _ (relativeA.pointVelocity _),
    Vec3.cross_sub _ (base.rotation.apply (relativeA.pointVelocity _)),
    Vec3.sub_scale, Mat3.apply_sub _ (relativeA.pointBias _)]

/-- Carried along, a gap grows as it does by itself. -/
theorem gap_dot_gapRate_of_carried
    (distance : Distance K)
    (rotation : base.rotation.IsRotation)
    (carriedA : FrameMotion.Carried base relativeA motionA)
    (carriedB : FrameMotion.Carried base relativeB motionB) :
    (distance.gap motionA motionB).dot
        (distance.gapRate motionA motionB) =
      (distance.gap relativeA relativeB).dot
        (distance.gapRate relativeA relativeB) := by
  have turning :=
    Vec3.dot_cross_self base.angularVelocity
      (base.rotation.apply (distance.gap relativeA relativeB))
  rw [distance.gap_of_carried carriedA carriedB,
    distance.gapRate_of_carried rotation carriedA carriedB,
    Vec3.dot_add, turning, zero_add, rotation.dot_apply]

variable [Elementary T]

/-- Carried along, a gap keeps its length. -/
theorem norm_gap_of_carried
    (distance : Distance K)
    (rotation : base.rotation.IsRotation)
    (carriedA : FrameMotion.Carried base relativeA motionA)
    (carriedB : FrameMotion.Carried base relativeB motionB) :
    (distance.gap motionA motionB).norm =
      (distance.gap relativeA relativeB).norm := by
  rw [distance.gap_of_carried carriedA carriedB, Vec3.norm, Vec3.norm,
    Vec3.normSquared, rotation.dot_apply, Vec3.normSquared]

variable [Div T]

/-- Carried along, a gap has the rate of length it has by itself. -/
theorem lengthRate_of_carried
    (distance : Distance K)
    (rotation : base.rotation.IsRotation)
    (carriedA : FrameMotion.Carried base relativeA motionA)
    (carriedB : FrameMotion.Carried base relativeB motionB) :
    distance.lengthRate motionA motionB =
      distance.lengthRate relativeA relativeB := by
  rw [lengthRate, lengthRate,
    distance.gap_dot_gapRate_of_carried rotation carriedA carriedB,
    distance.norm_gap_of_carried rotation carriedA carriedB]

/--
Carried along, a gap has the bias of length it has by itself: the centripetal
term cancels the square of the turning, and the Coriolis term cancels the
product of turning and rate.
-/
theorem biasOf_of_carried
    [LawfulDivision T]
    (distance : Distance K)
    (rotation : base.rotation.IsRotation)
    (carriedA : FrameMotion.Carried base relativeA motionA)
    (carriedB : FrameMotion.Carried base relativeB motionB) :
    biasOf (distance.gap motionA motionB)
        (distance.gapRate motionA motionB)
        (distance.gapBias motionA motionB) =
      biasOf (distance.gap relativeA relativeB)
        (distance.gapRate relativeA relativeB)
        (distance.gapBias relativeA relativeB) := by
  refine
    biasOf_congr
      (distance.norm_gap_of_carried rotation carriedA carriedB)
      (distance.gap_dot_gapRate_of_carried rotation carriedA carriedB) ?_
  rw [Vec3.normSquared, Vec3.normSquared,
    ← rotation.dot_apply (distance.gapRate relativeA relativeB),
    ← rotation.dot_apply (distance.gap relativeA relativeB),
    distance.gap_of_carried carriedA carriedB,
    distance.gapRate_of_carried rotation carriedA carriedB,
    distance.gapBias_of_carried rotation carriedA carriedB]
  simp only [Vec3.dot, Vec3.cross, Vec3.scale, Vec3.x_add, Vec3.y_add,
    Vec3.z_add, two]
  ring

end Carried

section Alike

variable {K T : Type} [CommRing T] [Constant K T] [Elementary T]
variable {motionA motionB otherA otherB : FrameMotion T}

/-- Where both frames move alike, gaps have one length. -/
theorem norm_gap_eq_of_moveAlike
    (distance : Distance K)
    (alike : FrameMotion.MoveAlike motionA motionB otherA otherB) :
    (distance.gap motionA motionB).norm =
      (distance.gap otherA otherB).norm := by
  obtain ⟨relativeA, relativeB,
      ⟨base, rotation, carriedA, carriedB⟩,
      ⟨otherBase, otherRotation, otherCarriedA, otherCarriedB⟩⟩ := alike
  rw [distance.norm_gap_of_carried rotation carriedA carriedB,
    distance.norm_gap_of_carried otherRotation
      otherCarriedA otherCarriedB]

variable [Div T]

/-- Where both frames move alike, gaps grow alike. -/
theorem lengthRate_eq_of_moveAlike
    (distance : Distance K)
    (alike : FrameMotion.MoveAlike motionA motionB otherA otherB) :
    distance.lengthRate motionA motionB =
      distance.lengthRate otherA otherB := by
  obtain ⟨relativeA, relativeB,
      ⟨base, rotation, carriedA, carriedB⟩,
      ⟨otherBase, otherRotation, otherCarriedA, otherCarriedB⟩⟩ := alike
  rw [distance.lengthRate_of_carried rotation carriedA carriedB,
    distance.lengthRate_of_carried otherRotation
      otherCarriedA otherCarriedB]

/-- Where both frames move alike, gaps have one bias of length. -/
theorem biasOf_eq_of_moveAlike
    [LawfulDivision T]
    (distance : Distance K)
    (alike : FrameMotion.MoveAlike motionA motionB otherA otherB) :
    biasOf (distance.gap motionA motionB)
        (distance.gapRate motionA motionB)
        (distance.gapBias motionA motionB) =
      biasOf (distance.gap otherA otherB)
        (distance.gapRate otherA otherB)
        (distance.gapBias otherA otherB) := by
  obtain ⟨relativeA, relativeB,
      ⟨base, rotation, carriedA, carriedB⟩,
      ⟨otherBase, otherRotation, otherCarriedA, otherCarriedB⟩⟩ := alike
  rw [distance.biasOf_of_carried rotation carriedA carriedB,
    distance.biasOf_of_carried otherRotation
      otherCarriedA otherCarriedB]

end Alike

section States

variable {K T : Type}
variable [CommRing K] [CommRing T] [Elementary T] [Constant K T]
variable [PreservesArithmetic (Constant.constant : K → T)]
variable [LawfulTrigonometry T]

/-- Whether the joint of a coordinate is on the way of one frame only. -/
def separates
    {K : Type}
    (distance : Distance K)
    (dof : Nat) : Bool :=
  distance.model.mechanism.separates
    distance.frameA.index distance.frameB.index dof

variable {distance : Distance K}
variable {positions velocities rates : List T}
variable {otherPositions otherVelocities otherRates : List T}
variable {snapshot otherSnapshot : Snapshot T}

/-- In states that agree between the frames, the frames move alike. -/
theorem exists_moveAlike
    (wellFormed : distance.model.mechanism.WellFormed)
    (normalized : distance.model.mechanism.Normalized)
    (insideA : distance.model.mechanism.contains distance.frameA = true)
    (insideB : distance.model.mechanism.contains distance.frameB = true)
    (taken :
      distance.model.mechanism.Taken positions velocities snapshot)
    (otherTaken :
      distance.model.mechanism.Taken
        otherPositions otherVelocities otherSnapshot)
    (agree :
      ∀ dof, distance.separates dof = true →
        positions[dof]? = otherPositions[dof]? ∧
          velocities[dof]? = otherVelocities[dof]?) :
    ∃ motionA motionB otherA otherB,
      snapshot.motion? distance.frameA = some motionA ∧
        snapshot.motion? distance.frameB = some motionB ∧
        otherSnapshot.motion? distance.frameA = some otherA ∧
        otherSnapshot.motion? distance.frameB = some otherB ∧
        FrameMotion.MoveAlike motionA motionB otherA otherB := by
  obtain ⟨motionA, foundA⟩ := taken.motion_of_contains insideA
  obtain ⟨motionB, foundB⟩ := taken.motion_of_contains insideB
  obtain ⟨otherA, otherFoundA⟩ := otherTaken.motion_of_contains insideA
  obtain ⟨otherB, otherFoundB⟩ := otherTaken.motion_of_contains insideB
  exact
    ⟨motionA, motionB, otherA, otherB, foundA, foundB, otherFoundA,
      otherFoundB,
      taken.moveAlike wellFormed normalized otherTaken agree
        foundA foundB otherFoundA otherFoundB⟩

variable [Div T] [LawfulDivision T]

/--
The rows at two states give one product with rates that agree, as the states
do, on the coordinates between the frames.
-/
theorem rows_product_eq
    (wellFormed : distance.model.mechanism.WellFormed)
    (normalized : distance.model.mechanism.Normalized)
    (insideA : distance.model.mechanism.contains distance.frameA = true)
    (insideB : distance.model.mechanism.contains distance.frameB = true)
    (taken :
      distance.model.mechanism.Taken positions velocities snapshot)
    (otherTaken :
      distance.model.mechanism.Taken
        otherPositions otherVelocities otherSnapshot)
    (positionCount :
      positions.length = distance.model.mechanism.dofCount)
    (otherPositionCount :
      otherPositions.length = distance.model.mechanism.dofCount)
    (rateCount : rates.length = distance.model.mechanism.dofCount)
    (otherRateCount :
      otherRates.length = distance.model.mechanism.dofCount)
    (agree :
      ∀ dof, distance.separates dof = true →
        positions[dof]? = otherPositions[dof]? ∧
          rates[dof]? = otherRates[dof]?)
    {row otherRow : List T}
    (rowFound : distance.jacobian snapshot = .ok [row])
    (otherRowFound : distance.jacobian otherSnapshot = .ok [otherRow]) :
    sumProducts (row.zip rates) =
      sumProducts (otherRow.zip otherRates) := by
  obtain ⟨moving, _, moved⟩ :=
    wellFormed.snapshot_ok positionCount rateCount
  obtain ⟨otherMoving, _, otherMoved⟩ :=
    wellFormed.snapshot_ok otherPositionCount otherRateCount
  obtain ⟨motionA, motionB, otherA, otherB, foundA, foundB, otherFoundA,
      otherFoundB, alike⟩ :=
    exists_moveAlike wellFormed normalized insideA insideB moved
      otherMoved agree
  obtain ⟨_, sameRow, _, product⟩ :=
    jacobian_velocity wellFormed normalized taken moved foundA foundB
  obtain ⟨_, sameOtherRow, _, otherProduct⟩ :=
    jacobian_velocity wellFormed normalized otherTaken otherMoved
      otherFoundA otherFoundB
  cases rowFound.symm.trans sameRow
  cases otherRowFound.symm.trans sameOtherRow
  rw [product, otherProduct]
  exact distance.lengthRate_eq_of_moveAlike alike

/-- Both states give one row. -/
theorem jacobian_eq_of_agree
    (wellFormed : distance.model.mechanism.WellFormed)
    (normalized : distance.model.mechanism.Normalized)
    (insideA : distance.model.mechanism.contains distance.frameA = true)
    (insideB : distance.model.mechanism.contains distance.frameB = true)
    (taken :
      distance.model.mechanism.Taken positions velocities snapshot)
    (otherTaken :
      distance.model.mechanism.Taken
        otherPositions otherVelocities otherSnapshot)
    (positionCount :
      positions.length = distance.model.mechanism.dofCount)
    (otherPositionCount :
      otherPositions.length = distance.model.mechanism.dofCount)
    (agree :
      ∀ dof, distance.separates dof = true →
        positions[dof]? = otherPositions[dof]?) :
    distance.jacobian otherSnapshot = distance.jacobian snapshot := by
  obtain ⟨motionA, foundA⟩ := taken.motion_of_contains insideA
  obtain ⟨motionB, foundB⟩ := taken.motion_of_contains insideB
  obtain ⟨otherA, otherFoundA⟩ := otherTaken.motion_of_contains insideA
  obtain ⟨otherB, otherFoundB⟩ := otherTaken.motion_of_contains insideB
  obtain ⟨row, rowFound, width, _⟩ :=
    jacobian_velocity wellFormed normalized taken taken foundA foundB
  obtain ⟨otherRow, otherRowFound, otherWidth, _⟩ :=
    jacobian_velocity wellFormed normalized otherTaken otherTaken
      otherFoundA otherFoundB
  rw [rowFound, otherRowFound]
  congr 2
  -- The rates that the rows are compared at agree with themselves.
  refine
    (eq_of_sumProducts_eq (width.trans otherWidth.symm)
      fun rates rateCount => ?_).symm
  exact
    rows_product_eq wellFormed normalized insideA insideB taken otherTaken
      positionCount otherPositionCount (rateCount.trans width)
      (rateCount.trans width)
      (fun dof separated => ⟨agree dof separated, rfl⟩)
      rowFound otherRowFound

/-- Coordinates that are not between the frames have columns of zero. -/
theorem column_eq_zero
    (wellFormed : distance.model.mechanism.WellFormed)
    (normalized : distance.model.mechanism.Normalized)
    (insideA : distance.model.mechanism.contains distance.frameA = true)
    (insideB : distance.model.mechanism.contains distance.frameB = true)
    (taken :
      distance.model.mechanism.Taken positions velocities snapshot)
    (positionCount :
      positions.length = distance.model.mechanism.dofCount)
    {row : List T}
    (rowFound : distance.jacobian snapshot = .ok [row])
    (width : row.length = distance.model.mechanism.dofCount)
    {dof : Nat}
    (inside : dof < distance.model.mechanism.dofCount)
    (common : distance.separates dof = false) :
    row[dof]? = some 0 := by
  have found : row[dof]? = some row[dof] :=
    List.getElem?_eq_getElem (width ▸ inside)
  -- Moving that coordinate alone gives the product that resting gives.
  have product :
      sumProducts
          (row.zip ((List.replicate row.length 0).set dof 1)) =
        sumProducts (row.zip (List.replicate row.length 0)) := by
    refine
      rows_product_eq wellFormed normalized insideA insideB taken taken
        positionCount positionCount (by simpa using width)
        (by simpa using width) ?_ rowFound rowFound
    intro other separated
    have different : dof ≠ other := by
      rintro rfl
      rw [common] at separated
      cases separated
    exact ⟨rfl, List.getElem?_set_ne different⟩
  rw [sumProducts_single found, sumProducts_replicate_zero] at product
  rw [found, product]

/-- Between frames that are connected rigidly all columns are zero. -/
theorem row_eq_zero_of_rigid
    (wellFormed : distance.model.mechanism.WellFormed)
    (normalized : distance.model.mechanism.Normalized)
    (insideA : distance.model.mechanism.contains distance.frameA = true)
    (insideB : distance.model.mechanism.contains distance.frameB = true)
    (taken :
      distance.model.mechanism.Taken positions velocities snapshot)
    (positionCount :
      positions.length = distance.model.mechanism.dofCount)
    {row : List T}
    (rowFound : distance.jacobian snapshot = .ok [row])
    (width : row.length = distance.model.mechanism.dofCount)
    (rigid : ∀ dof, distance.separates dof = false) :
    row = List.replicate distance.model.mechanism.dofCount 0 := by
  refine List.eq_replicate_iff.mpr ⟨width, fun entry member => ?_⟩
  obtain ⟨dof, found⟩ := List.mem_iff_getElem?.mp member
  have inside : dof < distance.model.mechanism.dofCount :=
    width ▸ (List.getElem?_eq_some_iff.mp found).1
  have isZero :=
    column_eq_zero wellFormed normalized insideA insideB taken
      positionCount rowFound width inside (rigid dof)
  exact Option.some.inj (found.symm.trans isZero)

/-- Between frames that are connected rigidly the bias is zero. -/
theorem bias_eq_zero_of_rigid
    (wellFormed : distance.model.mechanism.WellFormed)
    (normalized : distance.model.mechanism.Normalized)
    (insideA : distance.model.mechanism.contains distance.frameA = true)
    (insideB : distance.model.mechanism.contains distance.frameB = true)
    (taken :
      distance.model.mechanism.Taken positions velocities snapshot)
    (positionCount :
      positions.length = distance.model.mechanism.dofCount)
    (velocityCount :
      velocities.length = distance.model.mechanism.dofCount)
    (rigid : ∀ dof, distance.separates dof = false) :
    distance.bias snapshot = .ok [0] := by
  -- No rate is one between the frames, so the mechanism may as well rest.
  let count := distance.model.mechanism.dofCount
  have restingCount : (List.replicate count (0 : T)).length = count :=
    List.length_replicate
  obtain ⟨resting, _, rested⟩ :=
    wellFormed.snapshot_ok positionCount restingCount
  obtain ⟨motionA, motionB, restingA, restingB, foundA, foundB,
      restingFoundA, restingFoundB, alike⟩ :=
    exists_moveAlike wellFormed normalized insideA insideB taken rested
      (fun dof separated => by cases (rigid dof).symm.trans separated)
  rw [bias_eq wellFormed taken velocityCount foundA foundB,
    biasOf_eq_of_moveAlike distance alike,
    biasOf_of_atRest distance
      (rested.atRest wellFormed restingFoundA)
      (rested.atRest wellFormed restingFoundB)]

end States

end Distance

namespace Distance

/-- From the hook to the slider. -/
noncomputable def hookSpan : Distance ℝ where
  name := "hook"
  model := ⟨1, Mechanism.hookedArm⟩
  pointA := ⟨1, 0, 0⟩
  frameA := ⟨3⟩
  pointB := 0
  frameB := ⟨2⟩
  target := 1
  rows := .all 1

/-- No coordinate is between the hook and the slider. -/
theorem hookSpan_rigid (dof : Nat) : hookSpan.separates dof = false := by
  have hook :=
    Mechanism.carries_body Mechanism.hookedArm_built.wellFormed
      (rfl : Mechanism.hookedArm.bodies[2]? = some _) dof
  rw [separates, Mechanism.separates]
  exact bne_eq_false_iff_eq.mpr hook

/-- Only the slide is between the slider and the arm. -/
theorem armSpan_separates
    {dof : Nat}
    (separated : armSpan.separates dof = true) :
    dof = 1 := by
  have slider :=
    Mechanism.carries_body Mechanism.slidingArm_built.wellFormed
      (rfl : Mechanism.slidingArm.bodies[1]? = some _) dof
  by_contra other
  have notOwn : ((some 1 : Option Nat) == some dof) = false :=
    beq_eq_false_iff_ne.mpr fun same => other (Option.some.inj same).symm
  rw [separates, Mechanism.separates] at separated
  refine bne_iff_ne.mp separated (slider.trans ?_)
  rw [notOwn]
  rfl

section Theorem

variable {K T : Type}
variable [CommRing K] [CommRing T] [Elementary T] [Constant K T]
variable [PreservesArithmetic (Constant.constant : K → T)]
variable [LawfulTrigonometry T]
variable [Div T] [LawfulDivision T]
variable [Div K] [OfScientific K] [BEq K] [LT K] [DecidableLT K]
variable [Elementary K]

/--
Only relative motion enters a distance constraint.  In two states that agree on
the coordinates between its frames, and differ anyhow in all others, residual,
Jacobian and bias are the same, and the columns of the other coordinates are
zero.  Between frames that no coordinate separates, the whole Jacobian is zero,
and so is the bias, whatever the velocities are.
-/
theorem only_relative_motion_enters
    {distance : Distance K}
    (built : distance.model.mechanism.Built)
    (normalized : distance.model.mechanism.Normalized)
    (insideA : distance.model.mechanism.contains distance.frameA = true)
    (insideB : distance.model.mechanism.contains distance.frameB = true)
    {positions velocities otherPositions otherVelocities : List T}
    (positionCount :
      positions.length = distance.model.mechanism.dofCount)
    (velocityCount :
      velocities.length = distance.model.mechanism.dofCount)
    (otherPositionCount :
      otherPositions.length = distance.model.mechanism.dofCount)
    (otherVelocityCount :
      otherVelocities.length = distance.model.mechanism.dofCount)
    (agree :
      ∀ dof, distance.separates dof = true →
        positions[dof]? = otherPositions[dof]? ∧
          velocities[dof]? = otherVelocities[dof]?) :
    ∃ (snapshot otherSnapshot : Snapshot T)
      (residual : T) (row : List T) (bias : T),
      distance.model.mechanism.snapshot positions velocities =
          .ok snapshot ∧
        distance.model.mechanism.snapshot
          otherPositions otherVelocities = .ok otherSnapshot ∧
        distance.residual snapshot = .ok [residual] ∧
        distance.residual otherSnapshot = .ok [residual] ∧
        distance.jacobian snapshot = .ok [row] ∧
        distance.jacobian otherSnapshot = .ok [row] ∧
        distance.bias snapshot = .ok [bias] ∧
        distance.bias otherSnapshot = .ok [bias] ∧
        row.length = distance.model.mechanism.dofCount ∧
        (∀ dof < distance.model.mechanism.dofCount,
          distance.separates dof = false → row[dof]? = some 0) ∧
        ((∀ dof, distance.separates dof = false) →
          row = List.replicate distance.model.mechanism.dofCount 0 ∧
            bias = 0) := by
  have wellFormed := built.wellFormed
  obtain ⟨snapshot, snapshotFound, taken⟩ :=
    wellFormed.snapshot_ok positionCount velocityCount
  obtain ⟨otherSnapshot, otherSnapshotFound, otherTaken⟩ :=
    wellFormed.snapshot_ok otherPositionCount otherVelocityCount
  obtain ⟨motionA, motionB, otherA, otherB, foundA, foundB, otherFoundA,
      otherFoundB, alike⟩ :=
    exists_moveAlike wellFormed normalized insideA insideB taken
      otherTaken agree
  obtain ⟨row, rowFound, width, _⟩ :=
    jacobian_velocity wellFormed normalized taken taken foundA foundB
  refine
    ⟨snapshot, otherSnapshot, _, row, _, snapshotFound,
      otherSnapshotFound,
      residual_eq wellFormed normalized taken foundA foundB, ?_,
      rowFound, ?_,
      bias_eq wellFormed taken velocityCount foundA foundB, ?_,
      width, ?_, fun rigid => ⟨?_, ?_⟩⟩
  · rw [residual_eq wellFormed normalized otherTaken
      otherFoundA otherFoundB, norm_gap_eq_of_moveAlike distance alike]
  · rw [jacobian_eq_of_agree wellFormed normalized insideA insideB taken
      otherTaken positionCount otherPositionCount
      (fun dof separated => (agree dof separated).1), rowFound]
  · rw [bias_eq wellFormed otherTaken otherVelocityCount
      otherFoundA otherFoundB, biasOf_eq_of_moveAlike distance alike]
  · intro dof inside common
    exact
      column_eq_zero wellFormed normalized insideA insideB taken
        positionCount rowFound width inside common
  · exact
      row_eq_zero_of_rigid wellFormed normalized insideA insideB taken
        positionCount rowFound width rigid
  · have restBias :=
      bias_eq_zero_of_rigid wellFormed normalized insideA insideB taken
        positionCount velocityCount rigid
    rw [bias_eq wellFormed taken velocityCount foundA foundB] at restBias
    exact List.head_eq_of_cons_eq (Except.ok.inj restBias)

end Theorem

/--
The arm may turn anyhow while the slider keeps its place on it; and whatever the
arm and its slider do, the hook rests on the slider.
-/
theorem only_relative_motion_enters_armSpan_hookSpan :
    (Mechanism.slidingArm.Built ∧
      Mechanism.slidingArm.Normalized ∧
      Mechanism.slidingArm.contains armSpan.frameA = true ∧
      Mechanism.slidingArm.contains armSpan.frameB = true ∧
      armSpan.separates 0 = false ∧
      ∃ (snapshot otherSnapshot : Snapshot ℝ)
        (residual : ℝ) (row : List ℝ) (bias : ℝ),
        Mechanism.slidingArm.snapshot [1, 2] [3, 4] = .ok snapshot ∧
          Mechanism.slidingArm.snapshot [5, 2] [6, 4] =
            .ok otherSnapshot ∧
          armSpan.residual snapshot = .ok [residual] ∧
          armSpan.residual otherSnapshot = .ok [residual] ∧
          armSpan.jacobian snapshot = .ok [row] ∧
          armSpan.jacobian otherSnapshot = .ok [row] ∧
          armSpan.bias snapshot = .ok [bias] ∧
          armSpan.bias otherSnapshot = .ok [bias] ∧
          row.length = 2 ∧
          row[0]? = some 0) ∧
      (Mechanism.hookedArm.Built ∧
        Mechanism.hookedArm.Normalized ∧
        Mechanism.hookedArm.contains hookSpan.frameA = true ∧
        Mechanism.hookedArm.contains hookSpan.frameB = true ∧
        ∃ snapshot : Snapshot ℝ,
          Mechanism.hookedArm.snapshot [1, 2] [3, 4] = .ok snapshot ∧
            hookSpan.jacobian snapshot = .ok [[0, 0]] ∧
            hookSpan.bias snapshot = .ok [0]) := by
  have agree :
      ∀ dof, armSpan.separates dof = true →
        [(1 : ℝ), 2][dof]? = [(5 : ℝ), 2][dof]? ∧
          [(3 : ℝ), 4][dof]? = [(6 : ℝ), 4][dof]? := by
    intro dof separated
    cases armSpan_separates separated
    exact ⟨rfl, rfl⟩
  have common : armSpan.separates 0 = false :=
    Bool.eq_false_iff.mpr fun separated =>
      absurd (armSpan_separates separated) Nat.zero_ne_one
  have built : armSpan.model.mechanism.Built :=
    Mechanism.slidingArm_built
  have normalized : armSpan.model.mechanism.Normalized :=
    Mechanism.slidingArm_normalized
  have hooked : hookSpan.model.mechanism.Built :=
    Mechanism.hookedArm_built
  have hookedNormalized : hookSpan.model.mechanism.Normalized :=
    Mechanism.hookedArm_normalized
  obtain ⟨snapshot, otherSnapshot, residual, row, bias, found, otherFound,
      value, otherValue, rowFound, otherRowFound, biasFound,
      otherBiasFound, width, columns, _⟩ :=
    only_relative_motion_enters built normalized rfl rfl
      (rfl : [(1 : ℝ), 2].length = 2) (rfl : [(3 : ℝ), 4].length = 2)
      (rfl : [(5 : ℝ), 2].length = 2) (rfl : [(6 : ℝ), 4].length = 2)
      agree
  obtain ⟨hookSnapshot, _, _, hookRow, hookBias, hookFound, _, _, _,
      hookRowFound, _, hookBiasFound, _, _, _, rest⟩ :=
    only_relative_motion_enters hooked hookedNormalized rfl rfl
      (rfl : [(1 : ℝ), 2].length = 2) (rfl : [(3 : ℝ), 4].length = 2)
      (rfl : [(1 : ℝ), 2].length = 2) (rfl : [(3 : ℝ), 4].length = 2)
      (fun _ _ => ⟨rfl, rfl⟩)
  obtain ⟨rfl, rfl⟩ := rest hookSpan_rigid
  exact
    ⟨⟨built, normalized, rfl, rfl, common, snapshot, otherSnapshot,
        residual, row, bias, found, otherFound, value, otherValue,
        rowFound, otherRowFound, biasFound, otherBiasFound, width,
        columns 0 Nat.zero_lt_two common⟩,
      hooked, hookedNormalized, rfl, rfl, hookSnapshot, hookFound,
      hookRowFound, hookBiasFound⟩

end Distance

end Linkage
