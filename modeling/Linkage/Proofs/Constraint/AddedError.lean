import Linkage.Proofs.Constraint.AnchorReading
import Linkage.Proofs.Constraint.Check
import Linkage.Proofs.Constraint.CheckOutcome
import Linkage.Proofs.Constraint.Made
import Linkage.Proofs.Mechanism.Sliding

namespace Linkage

/-!
# A check measures the errors it is given

Central differences of a function that is affine along the velocity are exact,
whatever the step is.  An anchor on a mechanism that only slides is such a
function: the residual moves at the velocity of the point, which stays the same,
and there is no bias.  A check of such an anchor finds no gap.  If a constant
matrix is added to the Jacobian and a constant vector to the bias, then the gaps
are the product of that matrix with the velocity, and that vector.
-/

variable {K : Type}

section Errors

variable [Add K]

/-- Entrywise sum of two tables. -/
def addRows
    (first second : List (List K)) : List (List K) :=
  List.zipWith (List.zipWith (· + ·)) first second

theorem HasShape.addRows
    {first second : List (List K)}
    {count width : Nat}
    (firstShape : HasShape first count width)
    (secondShape : HasShape second count width) :
    HasShape (addRows first second) count width := by
  refine ⟨by simp [Linkage.addRows, firstShape.1, secondShape.1], ?_⟩
  intro row inside
  obtain ⟨index, _, rfl⟩ := List.mem_iff_getElem.mp inside
  simp [Linkage.addRows, firstShape.2, secondShape.2]

/-- The constraint with errors added to its Jacobian and to its bias. -/
def Constraint.withErrors
    (constraint : Constraint K K)
    (name : String)
    (jacobianError : List (List K))
    (biasError : List K) : Constraint K K :=
  constraint.withDerivatives name
    (addRows · jacobianError) (List.zipWith (· + ·) · biasError)

namespace Readings

/-- The readings of a constraint to which errors are added. -/
def withErrors
    (readings : Readings K)
    (jacobianError : List (List K))
    (biasError : List K) : Readings K :=
  { readings with
    jacobianHere := addRows readings.jacobianHere jacobianError
    jacobianAhead := addRows readings.jacobianAhead jacobianError
    jacobianBehind := addRows readings.jacobianBehind jacobianError
    biasHere := List.zipWith (· + ·) readings.biasHere biasError }

variable {readings : Readings K}
variable {jacobianError : List (List K)}
variable {biasError : List K}

/-- Added errors are read off together with what they are added to. -/
theorem ReadOff.withErrors
    {constraint : Constraint K K}
    {stations : Stations K}
    (readOff : readings.ReadOff constraint.outputs stations)
    (name : String)
    (jacobianError : List (List K))
    (biasError : List K) :
    (readings.withErrors jacobianError biasError).ReadOff
      (constraint.withErrors name jacobianError biasError).outputs
      stations where
  residualAhead := readOff.residualAhead
  residualBehind := readOff.residualBehind
  jacobianHere :=
    congrArg (Functor.map (addRows · jacobianError))
      readOff.jacobianHere
  jacobianAhead :=
    congrArg (Functor.map (addRows · jacobianError))
      readOff.jacobianAhead
  jacobianBehind :=
    congrArg (Functor.map (addRows · jacobianError))
      readOff.jacobianBehind
  biasHere :=
    congrArg (Functor.map (List.zipWith (· + ·) · biasError))
      readOff.biasHere

/-- Errors of the right shape leave the shape of the readings as it is. -/
theorem Shaped.withErrors
    {width : Nat}
    (shaped : readings.Shaped width)
    (jacobianShape :
      HasShape jacobianError readings.residualAhead.length width)
    (biasCount : biasError.length = readings.residualAhead.length) :
    (readings.withErrors jacobianError biasError).Shaped width where
  residualBehind := shaped.residualBehind
  jacobianHere := shaped.jacobianHere.addRows jacobianShape
  jacobianAhead := shaped.jacobianAhead.addRows jacobianShape
  jacobianBehind := shaped.jacobianBehind.addRows jacobianShape
  biasHere := by
    simp [Readings.withErrors, shaped.biasHere, biasCount]

end Readings

end Errors

section Gaps

variable [Field K]

/-- The product of a sum of tables is the sum of their products. -/
theorem products_addRows
    {first second : List (List K)}
    {count width : Nat}
    (firstShape : HasShape first count width)
    (secondShape : HasShape second count width)
    (vector : List K) :
    products (addRows first second) vector =
      List.zipWith (· + ·) (products first vector)
        (products second vector) := by
  refine List.ext_getElem (by simp [products, addRows]) ?_
  intro index _ _
  have sameWidth :
      ∀ (left : index < first.length) (right : index < second.length),
        first[index].length = second[index].length :=
    fun left right =>
      (firstShape.2 _ (List.getElem_mem left)).trans
        (secondShape.2 _ (List.getElem_mem right)).symm
  simp [products, addRows, sumProducts_add (sameWidth _ _)]

/-- A row of zeros times anything is zero. -/
theorem sumProducts_eq_zero
    {row : List K}
    (zeros : ∀ entry ∈ row, entry = 0)
    (vector : List K) :
    sumProducts (row.zip vector) = 0 := by
  induction row generalizing vector with
  | nil =>
      rfl
  | cons entry row inductionHypothesis =>
      rw [List.forall_mem_cons] at zeros
      cases vector with
      | nil =>
          rfl
      | cons weight vector =>
          rw [List.zip_cons_cons, sumProducts_cons,
            inductionHypothesis zeros.2, zeros.1, zero_mul, add_zero]

/-- An error in what is expected widens the gap by itself. -/
theorem differenceGap_add_expected
    (step : K)
    (ahead behind expected error : List K) :
    differenceGap step ahead behind
        (List.zipWith (· + ·) expected error) =
      List.zipWith (· - ·) (differenceGap step ahead behind expected)
        error := by
  refine List.ext_getElem (by simp [differenceGap, Nat.min_assoc]) ?_
  intro index _ _
  simp [differenceGap, sub_add_eq_sub_sub]

/-- An error on both sides of a difference leaves the gap as it is. -/
theorem differenceGap_add_sides
    {ahead behind error : List K}
    (aheadCount : ahead.length = error.length)
    (behindCount : behind.length = error.length)
    (step : K)
    (expected : List K) :
    differenceGap step
        (List.zipWith (· + ·) ahead error)
        (List.zipWith (· + ·) behind error) expected =
      differenceGap step ahead behind expected := by
  refine
    List.ext_getElem
      (by simp [differenceGap, divideVector, aheadCount, behindCount]) ?_
  intro index _ _
  simp [differenceGap, divideVector]

namespace Readings

/-- The readings agree with central differences, without any gap. -/
structure Exact
    (readings : Readings K)
    (step : K)
    (velocities : List K) : Prop where
  jacobian :
    differenceGap step
        readings.residualAhead readings.residualBehind
        (products readings.jacobianHere velocities) =
      List.replicate readings.residualAhead.length 0
  bias :
    differenceGap step
        (products readings.jacobianAhead velocities)
        (products readings.jacobianBehind velocities)
        readings.biasHere =
      List.replicate readings.residualAhead.length 0

end Readings

/-- What is missing from nothing is the opposite of what there is. -/
theorem zipWith_sub_replicate_zero (numbers : List K) :
    List.zipWith (· - ·) (List.replicate numbers.length 0) numbers =
      numbers.map (- ·) := by
  refine List.ext_getElem (by simp) ?_
  intro index _ _
  simp

end Gaps

section Report

variable [Field K] [LinearOrder K] [IsStrictOrderedRing K]

theorem magnitude_eq_abs (value : K) :
    magnitude value = |value| := by
  rw [magnitude]
  split
  · rename_i negative
    exact (abs_of_neg negative).symm
  · rename_i notNegative
    exact (abs_of_nonneg (not_lt.mp notNegative)).symm

/-- The largest magnitude is the largest of the absolute values. -/
theorem isLargest_magnitudes (numbers : List K) :
    IsLargest (numbers.map fun number => |number|)
      (largestMagnitude numbers) := by
  rw [largestMagnitude_eq, funext magnitude_eq_abs]
  refine isLargest_largestError ?_
  rw [List.forall_mem_map]
  intro number _
  rcases (abs_nonneg number).eq_or_lt with isZero | positive
  · rw [← isZero]
    exact larger_zero_largestError []
  · exact larger_of_below LawfulComparison.not_isNaN_zero (by simp [isNaN])
        positive

omit [IsStrictOrderedRing K] in
/-- The magnitudes of a product of rows and a vector, row by row. -/
theorem magnitudes_of_products
    (rows : List (List K))
    (vector : List K) :
    (products rows vector).map (fun number => |number|) =
      rows.map fun row => |(List.zipWith (· * ·) row vector).sum| := by
  simp only [products, List.map_map, Function.comp_def,
    sumProducts_eq_sum]

/-- Magnitudes do not depend on signs. -/
theorem largestMagnitude_map_neg (numbers : List K) :
    largestMagnitude (numbers.map (- ·)) = largestMagnitude numbers := by
  simp only [largestMagnitude, List.foldl_map, magnitude_eq_abs, abs_neg]

namespace Readings.Exact

variable {readings : Readings K}
variable {settings : CheckSettings K}
variable {velocities : List K}

/-- Where readings are exact, there is no error in the Jacobian. -/
theorem jacobianError
    (exact : readings.Exact settings.step velocities) :
    (readings.report settings velocities).jacobianError = 0 := by
  refine (isLargest_magnitudes _).eq_zero_of_zeros ?_
  rw [exact.jacobian]
  simp

/-- Where readings are exact, there is no error in the bias. -/
theorem biasError
    (exact : readings.Exact settings.step velocities) :
    (readings.report settings velocities).biasError = 0 := by
  refine (isLargest_magnitudes _).eq_zero_of_zeros ?_
  rw [exact.bias]
  simp

/-- Where readings are exact, a check reports nothing but the added errors. -/
theorem report_withErrors
    (exact : readings.Exact settings.step velocities)
    (shaped : readings.Shaped velocities.length)
    {jacobianError : List (List K)}
    (jacobianShape :
      HasShape jacobianError readings.residualAhead.length
        velocities.length)
    {biasError : List K}
    (biasCount : biasError.length = readings.residualAhead.length) :
    (readings.withErrors jacobianError biasError).report settings
        velocities =
      { jacobianError :=
          largestMagnitude (products jacobianError velocities)
        biasError := largestMagnitude biasError
        tolerance := settings.tolerance } := by
  have errorCount := jacobianShape.length_products velocities
  have jacobianGap :
      differenceGap settings.step
          readings.residualAhead readings.residualBehind
          (products (addRows readings.jacobianHere jacobianError)
            velocities) =
        (products jacobianError velocities).map (- ·) := by
    rw [products_addRows shaped.jacobianHere jacobianShape,
      differenceGap_add_expected, exact.jacobian, ← errorCount,
      zipWith_sub_replicate_zero]
  have biasGap :
      differenceGap settings.step
          (products (addRows readings.jacobianAhead jacobianError)
            velocities)
          (products (addRows readings.jacobianBehind jacobianError)
            velocities)
          (List.zipWith (· + ·) readings.biasHere biasError) =
        biasError.map (- ·) := by
    have aheadCount := shaped.jacobianAhead.length_products velocities
    have behindCount := shaped.jacobianBehind.length_products velocities
    rw [products_addRows shaped.jacobianAhead jacobianShape,
      products_addRows shaped.jacobianBehind jacobianShape,
      differenceGap_add_sides (aheadCount.trans errorCount.symm)
        (behindCount.trans errorCount.symm),
      differenceGap_add_expected, exact.bias, ← biasCount,
      zipWith_sub_replicate_zero]
  rw [Readings.report, Readings.withErrors, jacobianGap, biasGap,
    largestMagnitude_map_neg, largestMagnitude_map_neg]

end Readings.Exact

end Report

section Affine

variable [Field K] [LinearOrder K] [IsStrictOrderedRing K]

/-- Central differences of an affine function leave no gap. -/
theorem differenceGap_affine
    {step : K}
    (nonzero : step ≠ 0)
    (start rate : Vec3 K) :
    differenceGap step
        (start + rate.scale step).toList
        (start + rate.scale (-step)).toList rate.toList =
      List.replicate 3 0 := by
  have component :
      ∀ slope : K,
        (slope * step - slope * -step) / ((1 + 1) * step) - slope = 0 := by
    intro slope
    field_simp
    ring
  simp [differenceGap, divideVector, Vec3.toList, Vec3.scale, two,
    -mul_neg, component]

end Affine

namespace Anchor

variable [Field K] [Elementary K]

variable {anchor : Anchor K}
variable {positions velocities : List K}
variable {snapshot : Snapshot K}
variable {motion : FrameMotion K}

/-- While its frame translates, the point moves along with the origin. -/
theorem residual_after
    {duration : K}
    (taken :
      anchor.model.mechanism.Taken positions velocities snapshot)
    (found :
      snapshot.motion? anchor.frame = some (motion.after duration)) :
    anchor.residual snapshot =
      .ok
        (anchor.viewMatrix.apply (anchor.displacement motion) +
          (anchor.viewMatrix.apply motion.originVelocity).scale
            duration).toList := by
  have moved :
      anchor.displacement (motion.after duration) =
        anchor.displacement motion +
          motion.originVelocity.scale duration := by
    rw [displacement, displacement, FrameMotion.pointPosition_after]
    ext <;> simp <;> ring
  rw [residual_eq taken found, moved, Mat3.apply_add, Mat3.apply_scale]

/-- While its frame translates, the point has the velocity of the origin. -/
theorem jacobian_of_translates
    (wellFormed : anchor.model.mechanism.WellFormed)
    (inside : anchor.model.mechanism.contains anchor.frame = true)
    (velocityCount :
      velocities.length = anchor.model.mechanism.dofCount)
    (taken :
      anchor.model.mechanism.Taken positions velocities snapshot)
    (found : snapshot.motion? anchor.frame = some motion)
    (translates : motion.Translates) :
    ∃ rows : List (List K),
      anchor.jacobian snapshot = .ok rows ∧
        HasShape rows 3 velocities.length ∧
        products rows velocities =
          (anchor.viewMatrix.apply motion.originVelocity).toList := by
  obtain ⟨columns, columnsFound, width, product⟩ :=
    jacobian_columns wellFormed taken inside
  have sameWidth := width.trans velocityCount.symm
  have shape : HasShape columns.toRows 3 velocities.length :=
    ⟨rfl, by simp [Columns.toRows, sameWidth]⟩
  have byRows := rowsTimesVector_eq_products shape
  rw [Columns.rowsTimesVector_toRows sameWidth, product taken found,
    velocity, translates.pointVelocity] at byRows
  exact ⟨columns.toRows, columnsFound, shape, (Except.ok.inj byRows).symm⟩

/-- While its frame translates, the point has no bias. -/
theorem bias_of_translates
    (taken :
      anchor.model.mechanism.Taken positions velocities snapshot)
    (found : snapshot.motion? anchor.frame = some motion)
    (translates : motion.Translates) :
    anchor.bias snapshot = .ok (0 : Vec3 K).toList := by
  rw [bias_eq taken found, acceleration, translates.pointBias,
    Mat3.apply_zero]

variable [LinearOrder K] [IsStrictOrderedRing K]

/--
On a mechanism that only slides, whatever an anchor gives at the stations of a
check agrees with central differences.
-/
theorem exists_exact_readings
    (sliding : anchor.model.mechanism.Sliding)
    (wellFormed : anchor.model.mechanism.WellFormed)
    (inside : anchor.model.mechanism.contains anchor.frame = true)
    (velocityCount :
      velocities.length = anchor.model.mechanism.dofCount)
    {step : K}
    (nonzero : step ≠ 0)
    {stations : Stations K}
    (reached :
      stations.Reached anchor.model.mechanism step positions
        velocities) :
    ∃ readings : Readings K,
      readings.ReadOff anchor.toConstraint.outputs stations ∧
        readings.Shaped velocities.length ∧
        readings.residualAhead.length = 3 ∧
        readings.Exact step velocities := by
  obtain ⟨aheadPositions, aheadMoved, aheadFound⟩ := reached.ahead
  obtain ⟨behindPositions, behindMoved, behindFound⟩ := reached.behind
  have here := (Mechanism.grounded_of_snapshot reached.here).2
  have ahead := (Mechanism.grounded_of_snapshot aheadFound).2
  have behind := (Mechanism.grounded_of_snapshot behindFound).2
  obtain ⟨motion, found⟩ := here.motion_of_contains inside
  obtain ⟨aheadMotion, foundAhead⟩ := ahead.motion_of_contains inside
  obtain ⟨behindMotion, foundBehind⟩ := behind.motion_of_contains inside
  obtain ⟨translates, rfl⟩ :=
    sliding.motion_after wellFormed aheadMoved here ahead found foundAhead
  obtain ⟨_, rfl⟩ :=
    sliding.motion_after wellFormed behindMoved here behind found
      foundBehind
  obtain ⟨rowsHere, hereRead, hereShape, hereProduct⟩ :=
    jacobian_of_translates wellFormed inside velocityCount here found
      translates
  obtain ⟨rowsAhead, aheadRead, aheadShape, aheadProduct⟩ :=
    jacobian_of_translates wellFormed inside velocityCount ahead
      foundAhead (translates.after step)
  obtain ⟨rowsBehind, behindRead, behindShape, behindProduct⟩ :=
    jacobian_of_translates wellFormed inside velocityCount behind
      foundBehind (translates.after (-step))
  let start := anchor.viewMatrix.apply (anchor.displacement motion)
  let rate := anchor.viewMatrix.apply motion.originVelocity
  refine
    ⟨{ residualAhead := (start + rate.scale step).toList
       residualBehind := (start + rate.scale (-step)).toList
       jacobianHere := rowsHere
       jacobianAhead := rowsAhead
       jacobianBehind := rowsBehind
       biasHere := (0 : Vec3 K).toList },
      ⟨residual_after ahead foundAhead, residual_after behind foundBehind,
        hereRead, aheadRead, behindRead,
        bias_of_translates here found translates⟩,
      ⟨rfl, hereShape, aheadShape, behindShape, rfl⟩, rfl, ?_, ?_⟩
  · rw [hereProduct]
    exact differenceGap_affine nonzero start rate
  · have steady := differenceGap_affine nonzero rate 0
    rw [Vec3.zero_scale, Vec3.zero_scale, Vec3.add_zero] at steady
    rw [aheadProduct, behindProduct]
    exact steady

variable {model : Model K}
variable {settings : CheckSettings K}

/-- A check of an anchor that was made on such a mechanism finds no gap. -/
theorem Made.exists_exact_readings
    (made : anchor.Made model)
    (sliding : model.mechanism.Sliding)
    (wellFormed : model.mechanism.WellFormed)
    (usable : settings.Usable)
    (positionCount : positions.length = model.mechanism.dofCount)
    (velocityCount : velocities.length = model.mechanism.dofCount) :
    ∃ (stations : Stations K) (readings : Readings K),
      stations.Reached anchor.model.mechanism settings.step
          positions velocities ∧
        readings.ReadOff anchor.toConstraint.outputs stations ∧
        readings.Shaped velocities.length ∧
        readings.residualAhead.length = 3 ∧
        readings.Exact settings.step velocities := by
  obtain ⟨rfl, inside, _⟩ := made.sound
  have positive := positive_of_isPositiveFinite usable.step
  obtain ⟨stations, reached⟩ :=
    Stations.exists_reached wellFormed.grounded positionCount
      velocityCount settings.step
  obtain ⟨readings, found⟩ :=
    Anchor.exists_exact_readings sliding wellFormed inside velocityCount
      positive.ne' reached
  exact ⟨stations, readings, reached, found⟩

/-- The cabin of the lift, pinned to the origin. -/
noncomputable def cabinPin : Anchor ℝ where
  name := "world_point"
  model := ⟨0, Mechanism.lift⟩
  point := ⟨0, 0, 1⟩
  frame := ⟨2⟩
  target := 0
  view := .identity
  rows := .all 3

theorem cabinPin_made :
    cabinPin.Made ⟨0, Mechanism.lift⟩ :=
  .create
    (create_eq_ok_iff.mpr ⟨rfl, by simp [Vec3.allFinite], rfl⟩)

variable [OfScientific K]

/--
On a mechanism that was built of fixed and sliding joints, a check of an anchor
measures the errors that its derivatives contain.  If a constant matrix is added
to the Jacobian and a constant vector to the bias, then the check reports the
largest magnitude of the matrix times the velocity and the largest magnitude of
the vector, whatever its step is.  Without errors it reports none and passes.
-/
theorem check_measures_added_errors
    (built : model.mechanism.Built)
    (sliding : model.mechanism.Sliding)
    (made : anchor.Made model)
    (usable : settings.Usable)
    (positionCount : positions.length = model.mechanism.dofCount)
    (velocityCount : velocities.length = model.mechanism.dofCount) :
    (∀ (name : String)
        (jacobianError : List (List K))
        (biasError : List K),
      HasShape jacobianError 3 model.mechanism.dofCount →
      biasError.length = 3 →
      ∃ report : CheckReport K,
        (anchor.toConstraint.withErrors name jacobianError
            biasError).checkDerivatives settings positions velocities =
          .ok report ∧
        IsLargest
          (jacobianError.map fun row =>
            |(List.zipWith (· * ·) row velocities).sum|)
          report.jacobianError ∧
        IsLargest (biasError.map fun error => |error|)
          report.biasError ∧
        report.tolerance = settings.tolerance ∧
        ((∀ row ∈ jacobianError, ∀ error ∈ row, error = 0) →
          (∀ error ∈ biasError, error = 0) →
          report.jacobianError = 0 ∧
            report.biasError = 0 ∧ report.passed = true)) ∧
      ∃ report : CheckReport K,
        anchor.toConstraint.checkDerivatives settings
            positions velocities =
          .ok report ∧
        report.jacobianError = 0 ∧
        report.biasError = 0 ∧
        report.tolerance = settings.tolerance ∧
        report.passed = true := by
  obtain ⟨stations, readings, reached, readOff, shaped, rowCount, exact⟩ :=
    made.exists_exact_readings sliding built.wellFormed usable
      positionCount velocityCount
  have notNegative :=
    CheckSettings.tolerance_not_negative usable.validate
  constructor
  · intro name jacobianError biasError jacobianShape biasCount
    rw [← rowCount, ← velocityCount] at jacobianShape
    rw [← rowCount] at biasCount
    have reported :=
      Constraint.checkDerivatives_eq_report usable.validate reached
        (readOff.withErrors name jacobianError biasError)
        (shaped.withErrors jacobianShape biasCount)
    rw [exact.report_withErrors shaped jacobianShape biasCount]
      at reported
    have jacobianLargest :=
      isLargest_magnitudes (products jacobianError velocities)
    have biasLargest := isLargest_magnitudes biasError
    rw [magnitudes_of_products] at jacobianLargest
    refine
      ⟨_, reported, jacobianLargest, biasLargest, rfl,
        fun noJacobian noBias => ?_⟩
    have jacobianZero :
        largestMagnitude (products jacobianError velocities) = 0 := by
      refine jacobianLargest.eq_zero_of_zeros ?_
      rw [List.forall_mem_map]
      intro row inside
      rw [← sumProducts_eq_sum,
        sumProducts_eq_zero (noJacobian row inside), abs_zero]
    have biasZero : largestMagnitude biasError = 0 := by
      refine biasLargest.eq_zero_of_zeros ?_
      rw [List.forall_mem_map]
      intro error inside
      rw [noBias error inside, abs_zero]
    refine ⟨jacobianZero, biasZero, (CheckReport.passed_iff _).mpr ?_⟩
    exact
      ⟨jacobianZero.trans_le notNegative, biasZero.trans_le notNegative⟩
  · exact
      ⟨_,
        Constraint.checkDerivatives_eq_report usable.validate reached
          readOff shaped,
        exact.jacobianError, exact.biasError, rfl,
        (CheckReport.passed_iff _).mpr
          ⟨exact.jacobianError.trans_le notNegative,
            exact.biasError.trans_le notNegative⟩⟩

/--
An error of one per rate in the first row and of minus two in the last, at a
rate of three, and an error of one in the bias.
-/
theorem check_measures_added_errors_lift :
    Mechanism.lift.Built ∧
      Mechanism.lift.Sliding ∧
      cabinPin.Made ⟨0, Mechanism.lift⟩ ∧
      (∃ report : CheckReport ℝ,
        (cabinPin.toConstraint.withErrors "tilted"
            [[1], [0], [-2]] [0, 1, 0]).checkDerivatives ⟨1, 1⟩ [5] [3] =
          .ok report ∧
        report.jacobianError = 6 ∧
        report.biasError = 1 ∧ report.passed = false) ∧
      ∃ report : CheckReport ℝ,
        cabinPin.toConstraint.checkDerivatives ⟨1, 1⟩ [5] [3] =
          .ok report ∧
        report.passed = true := by
  have usable : (⟨1, 1⟩ : CheckSettings ℝ).Usable := by
    constructor <;> simp [isPositiveFinite]
  obtain ⟨measured, report, checked, _, _, _, passed⟩ :=
    check_measures_added_errors Mechanism.lift_built
      Mechanism.lift_sliding cabinPin_made usable
      (rfl : [(5 : ℝ)].length = 1) (rfl : [(3 : ℝ)].length = 1)
  obtain ⟨wrong, wrongChecked, jacobianLargest, biasLargest, same, _⟩ :=
    measured "tilted" [[1], [0], [-2]] [0, 1, 0]
      ⟨rfl, by simp [Mechanism.lift]⟩ rfl
  have rows :
      [[(1 : ℝ)], [0], [-2]].map
          (fun row => |(List.zipWith (· * ·) row [3]).sum|) =
        [3, 0, 6] := by
    norm_num
  have entries :
      [(0 : ℝ), 1, 0].map (fun error => |error|) = [0, 1, 0] := by
    norm_num
  rw [rows] at jacobianLargest
  rw [entries] at biasLargest
  have jacobianError : wrong.jacobianError = 6 := by
    have attained := jacobianLargest.mem (by simp)
    have bounded := jacobianLargest.upper (by simp [isNaN]) 6 (by simp)
    simp only [List.mem_cons, List.not_mem_nil, or_false] at attained
    rcases attained with isFirst | isSecond | isThird <;> linarith
  have biasError : wrong.biasError = 1 := by
    have attained := biasLargest.mem (by simp)
    have bounded := biasLargest.upper (by simp [isNaN]) 1 (by simp)
    simp only [List.mem_cons, List.not_mem_nil, or_false] at attained
    rcases attained with isFirst | isSecond | isThird <;> linarith
  have failed : wrong.passed = false := by
    rw [← Bool.not_eq_true, CheckReport.passed_iff, jacobianError, same]
    norm_num
  exact
    ⟨Mechanism.lift_built, Mechanism.lift_sliding, cabinPin_made,
      ⟨wrong, wrongChecked, jacobianError, biasError, failed⟩,
      report, checked, passed⟩

end Anchor

end Linkage
