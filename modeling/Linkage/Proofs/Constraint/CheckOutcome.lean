import Linkage.Proofs.Constraint.Check
import Linkage.Proofs.Constraint.Made

namespace Linkage

/-!
# How a check ends

A check looks at its settings before it takes a snapshot, and the first snapshot
refuses a state of the wrong size.  From a state of the right size the steps
along the velocity lead to states of the right size, whatever the numbers are,
and the rows that are read there fit together.  So a check either refuses its
inputs, in a fixed order, or reports; there is nothing on the way that it could
be misused by.
-/

variable {K : Type}

/-- Among doubles, positive and finite is what it says. -/
theorem isPositiveFinite_eq (number : Float) :
    isPositiveFinite number =
      (number.isFinite && decide (0 < number)) := by
  rw [isPositiveFinite, Binary64.isFinite_eq]

namespace CheckSettings

variable [Zero K] [Sub K] [BEq K] [LT K] [DecidableLT K]
variable {settings : CheckSettings K}

/-- Step and tolerance are positive and finite. -/
structure Usable
    (settings : CheckSettings K) : Prop where
  step : isPositiveFinite settings.step = true
  tolerance : isPositiveFinite settings.tolerance = true

theorem validate_of_step
    (wrong : isPositiveFinite settings.step = false) :
    settings.validate =
      .error (.invalidConfiguration (.step settings.step)) := by
  rw [validate, wrong]
  rfl

theorem validate_of_tolerance
    (step : isPositiveFinite settings.step = true)
    (wrong : isPositiveFinite settings.tolerance = false) :
    settings.validate =
      .error (.invalidConfiguration (.tolerance settings.tolerance)) := by
  rw [validate, step, wrong]
  rfl

theorem Usable.validate
    (usable : settings.Usable) :
    settings.validate = .ok () := by
  rw [CheckSettings.validate, usable.step, usable.tolerance]
  rfl

/-- Settings are usable, or it is the step that is wrong, or the tolerance. -/
theorem usable_or (settings : CheckSettings K) :
    settings.Usable ∨
      isPositiveFinite settings.step = false ∨
        isPositiveFinite settings.step = true ∧
          isPositiveFinite settings.tolerance = false := by
  cases step : isPositiveFinite settings.step with
  | false =>
      exact .inr (.inl rfl)
  | true =>
      cases tolerance : isPositiveFinite settings.tolerance with
      | false =>
          exact .inr (.inr ⟨rfl, rfl⟩)
      | true =>
          exact .inl ⟨step, tolerance⟩

end CheckSettings

section Order

variable [Zero K] [Sub K] [BEq K] [LT K] [DecidableLT K]

/--
How a check ends that looks at the step, at the tolerance, at the positions and
at the velocities, in this order.  It names the first of them that is wrong, and
reports if none is.  It ends in no other way.
-/
structure EndsInOrder
    (outcome : Except (Failure K) (CheckReport K))
    (settings : CheckSettings K)
    (dofCount : Nat)
    (positions velocities : List K) : Prop where
  step_iff :
    outcome =
        .error
          (.refused (.invalidConfiguration (.step settings.step))) ↔
      isPositiveFinite settings.step = false
  tolerance_iff :
    outcome =
        .error
          (.refused
            (.invalidConfiguration (.tolerance settings.tolerance))) ↔
      isPositiveFinite settings.step = true ∧
        isPositiveFinite settings.tolerance = false
  configuration_iff :
    (∃ fault,
      outcome = .error (.refused (.invalidConfiguration fault))) ↔
      ¬ settings.Usable
  positions_iff :
    outcome =
        .error
          (.refused
            (.dimensionMismatch .positions
              dofCount positions.length)) ↔
      settings.Usable ∧ positions.length ≠ dofCount
  velocities_iff :
    outcome =
        .error
          (.refused
            (.dimensionMismatch .velocities
              dofCount velocities.length)) ↔
      settings.Usable ∧
        positions.length = dofCount ∧ velocities.length ≠ dofCount
  report_iff :
    (∃ report,
      outcome = .ok report ∧
        report.tolerance = settings.tolerance) ↔
      settings.Usable ∧
        positions.length = dofCount ∧ velocities.length = dofCount
  not_misused : ∀ misuse, outcome ≠ .error (.misused misuse)

/-- One look after the other decides how a check ends. -/
theorem EndsInOrder.of_looks
    {outcome : Except (Failure K) (CheckReport K)}
    {settings : CheckSettings K}
    {dofCount : Nat}
    {positions velocities : List K}
    (step :
      isPositiveFinite settings.step = false →
      outcome =
        .error (.refused (.invalidConfiguration (.step settings.step))))
    (tolerance :
      isPositiveFinite settings.step = true →
      isPositiveFinite settings.tolerance = false →
      outcome =
        .error
          (.refused
            (.invalidConfiguration (.tolerance settings.tolerance))))
    (positionsLook :
      settings.Usable →
      positions.length ≠ dofCount →
      outcome =
        .error
          (.refused
            (.dimensionMismatch .positions dofCount positions.length)))
    (velocitiesLook :
      settings.Usable →
      positions.length = dofCount →
      velocities.length ≠ dofCount →
      outcome =
        .error
          (.refused
            (.dimensionMismatch .velocities
              dofCount velocities.length)))
    (report :
      settings.Usable →
      positions.length = dofCount →
      velocities.length = dofCount →
      ∃ report,
        outcome = .ok report ∧ report.tolerance = settings.tolerance) :
    EndsInOrder outcome settings dofCount positions velocities := by
  -- In each of the five cases the outcome is known, which decides all lines.
  rcases settings.usable_or with usable | wrong | ⟨fine, wrong⟩
  · have fineStep := usable.step
    have fineTolerance := usable.tolerance
    by_cases positionCount : positions.length = dofCount
    · by_cases velocityCount : velocities.length = dofCount
      · obtain ⟨report, rfl, sameTolerance⟩ :=
          report usable positionCount velocityCount
        constructor <;> simp [*]
      · obtain rfl := velocitiesLook usable positionCount velocityCount
        constructor <;> simp [*]
    · obtain rfl := positionsLook usable positionCount
      constructor <;> simp [*]
  · have unusable : ¬ settings.Usable := fun usable => by
      cases wrong.symm.trans usable.step
    obtain rfl := step wrong
    constructor <;> simp [*]
  · have unusable : ¬ settings.Usable := fun usable => by
      cases wrong.symm.trans usable.tolerance
    obtain rfl := tolerance fine wrong
    constructor <;> simp [*]

end Order

section Check

variable [Zero K] [One K] [Add K] [Sub K] [Neg K] [Mul K] [Div K]
variable [BEq K] [LT K] [DecidableLT K] [Elementary K]
variable {settings : CheckSettings K}
variable {positions velocities : List K}

/--
A check ends in order if what it reads has one shape in all snapshots with its
velocities.
-/
theorem centralDifference_endsInOrder
    {mechanism : Mechanism K}
    (grounded : mechanism.Grounded)
    (outputs : Snapshot K → Outputs K)
    {count : Nat}
    (shaped :
      ∀ {moved : List K} {snapshot : Snapshot K},
        mechanism.Taken moved velocities snapshot →
        velocities.length = mechanism.dofCount →
        (outputs snapshot).Shaped count mechanism.dofCount) :
    EndsInOrder
      (centralDifference mechanism
        (outputs · |>.residual) (outputs · |>.jacobian)
        (outputs · |>.bias) settings positions velocities)
      settings mechanism.dofCount positions velocities := by
  refine .of_looks ?_ ?_ ?_ ?_ ?_
  · intro wrong
    rw [centralDifference, CheckSettings.validate_of_step wrong]
    rfl
  · intro fine wrong
    rw [centralDifference, CheckSettings.validate_of_tolerance fine wrong]
    rfl
  · intro usable wrong
    rw [centralDifference, usable.validate,
      Mechanism.snapshot_of_positionCount_ne wrong]
    rfl
  · intro usable positionCount wrong
    rw [centralDifference, usable.validate,
      Mechanism.snapshot_of_velocityCount_ne positionCount wrong]
    rfl
  · intro usable positionCount velocityCount
    obtain ⟨stations, reached⟩ :=
      Stations.exists_reached grounded positionCount velocityCount
        settings.step
    obtain ⟨here, ahead, behind⟩ :=
      reached.all fun found =>
        shaped (Mechanism.grounded_of_snapshot found).2 velocityCount
    obtain ⟨readings, readOff, widths, _⟩ :=
      Readings.exists_readOff here ahead behind
    rw [← velocityCount] at widths
    exact
      ⟨_, centralDifference_eq_report usable.validate reached readOff
        widths, rfl⟩

variable {model : Model K}

/-- The check of a constraint that was made on a model ends in order. -/
theorem Constraint.Made.endsInOrder
    {constraint : Constraint K K}
    (made : constraint.Made model)
    (wellFormed : model.mechanism.WellFormed) :
    EndsInOrder
      (constraint.checkDerivatives settings positions velocities)
      settings model.mechanism.dofCount positions velocities := by
  obtain rfl := made.model_eq
  exact
    centralDifference_endsInOrder wellFormed.grounded constraint.outputs
      fun taken velocityCount =>
        (made.shaped wellFormed taken velocityCount).1

/-- The check of a set that was made on a model ends in order. -/
theorem ConstraintSet.Made.endsInOrder
    {set : ConstraintSet K K}
    (made : set.Made model)
    (wellFormed : model.mechanism.WellFormed) :
    EndsInOrder
      (set.checkDerivatives settings positions velocities)
      settings model.mechanism.dofCount positions velocities := by
  obtain rfl := made.model_eq
  exact
    centralDifference_endsInOrder wellFormed.grounded set.outputs
      fun taken velocityCount =>
        (made.shaped wellFormed taken velocityCount).1

variable [OfScientific K]

/--
On a mechanism that was built, the check of each constraint and of each set of
constraints ends in order, whatever its settings are and however long the
vectors of its state.
-/
theorem checks_end_in_order
    (built : model.mechanism.Built)
    (settings : CheckSettings K)
    (positions velocities : List K) :
    (∀ {constraint : Constraint K K},
      constraint.Made model →
      EndsInOrder
        (constraint.checkDerivatives settings positions velocities)
        settings model.mechanism.dofCount positions velocities) ∧
      ∀ {set : ConstraintSet K K},
        set.Made model →
        EndsInOrder
          (set.checkDerivatives settings positions velocities)
          settings model.mechanism.dofCount positions velocities :=
  ⟨fun made => made.endsInOrder built.wellFormed,
    fun made => made.endsInOrder built.wellFormed⟩

end Check

namespace ConstraintSet

theorem craneSpan_made :
    craneSpan.Made ⟨0, Mechanism.craneThenRail⟩ := by
  have finite : isFinite (4 : Float) = true := by decide +kernel
  have finitePoints :
      ((0 : Vec3 Float).allFinite && (0 : Vec3 Float).allFinite) = true := by
    decide +kernel
  have created :
      Distance.create ⟨0, Mechanism.craneThenRail⟩ 0 ⟨2⟩ 0 ⟨3⟩ 4 =
        .ok { craneSpan with name := "distance" } :=
    Distance.create_eq_ok_iff.mpr ⟨rfl, rfl, finite, finitePoints, rfl⟩
  exact .withName "span" (.create created)

theorem railPin_made :
    railPin.Made ⟨0, Mechanism.craneThenRail⟩ := by
  have finite : (0 : Vec3 Float).allFinite = true := by decide +kernel
  have finiteTarget : (⟨0, 0, 1⟩ : Vec3 Float).allFinite = true := by
    decide +kernel
  have created :
      Anchor.create ⟨0, Mechanism.craneThenRail⟩ 0 ⟨3⟩ =
        .ok
          { railPin with
            name := "world_point", target := 0, rows := .all 3 } :=
    Anchor.create_eq_ok_iff.mpr ⟨rfl, finite, rfl⟩
  have placed :
      Anchor.withTarget
          { railPin with
            name := "world_point", target := 0, rows := .all 3 }
          ⟨0, 0, 1⟩ =
        .ok { railPin with name := "world_point", rows := .all 3 } :=
    if_pos finiteTarget
  have masked :
      Anchor.withActiveRows
          { railPin with name := "world_point", rows := .all 3 } [2] =
        .ok { railPin with name := "world_point" } :=
    rfl
  exact
    .withName "pin"
      (.withActiveRows (.withTarget (.create created) placed) masked)

theorem craneConstraints_made :
    craneConstraints.Made ⟨0, Mechanism.craneThenRail⟩ := by
  refine ⟨rfl, ?_⟩
  intro member inside
  rw [craneConstraints, List.mem_cons, List.mem_cons, List.mem_singleton]
    at inside
  rcases inside with rfl | rfl | rfl
  · exact .distance craneSpan_made
  · exact .anchor railPin_made
  · exact .anchor railPin_made

/--
A step that is not a number is refused before anything else is looked at, an
infinite tolerance before the state, and the positions before the velocities;
then the check reports.
-/
theorem checks_end_in_order_crane :
    Mechanism.craneThenRail.Built ∧
      craneSpan.Made ⟨0, Mechanism.craneThenRail⟩ ∧
      craneConstraints.Made ⟨0, Mechanism.craneThenRail⟩ ∧
      craneSpan.toConstraint.checkDerivatives ⟨0 / 0, 1 / 0⟩ [1] [] =
        .error (.refused (.invalidConfiguration (.step (0 / 0)))) ∧
      craneConstraints.checkDerivatives ⟨1, 1 / 0⟩ [1] [] =
        .error (.refused (.invalidConfiguration (.tolerance (1 / 0)))) ∧
      craneConstraints.checkDerivatives .standard [1] [] =
        .error (.refused (.dimensionMismatch .positions 3 1)) ∧
      craneSpan.toConstraint.checkDerivatives .standard [1, 2, 3] [4] =
        .error (.refused (.dimensionMismatch .velocities 3 1)) ∧
      ∃ report,
        craneConstraints.checkDerivatives .standard
            [1, 2, 3] [4, 5, 6] =
          .ok report ∧
        report.tolerance = 1e-6 := by
  let crane : Model Float := ⟨0, Mechanism.craneThenRail⟩
  have built : crane.mechanism.Built :=
    Mechanism.craneThenRail_assembled.built
  have spanMade := craneSpan_made
  have setMade := craneConstraints_made
  have usable : (CheckSettings.standard : CheckSettings Float).Usable := by
    constructor <;> decide +kernel
  have notNumber : (0 / 0 : Float).isFinite = false := by decide +kernel
  have infinite : (1 / 0 : Float).isFinite = false := by decide +kernel
  have step : isPositiveFinite (1 : Float) = true := by decide +kernel
  have noStep : isPositiveFinite (0 / 0 : Float) = false := by
    rw [isPositiveFinite_eq, notNumber, Bool.false_and]
  have noTolerance : isPositiveFinite (1 / 0 : Float) = false := by
    rw [isPositiveFinite_eq, infinite, Bool.false_and]
  have wrongStep :=
    (checks_end_in_order built ⟨0 / 0, 1 / 0⟩ [1] []).1
      (.distance spanMade)
  have wrongTolerance :=
    (checks_end_in_order built ⟨1, 1 / 0⟩ [1] []).2 setMade
  have wrongPositions :=
    (checks_end_in_order built .standard [1] []).2 setMade
  have wrongVelocities :=
    (checks_end_in_order built .standard [1, 2, 3] [4]).1
      (.distance spanMade)
  have allRight :=
    (checks_end_in_order built .standard [1, 2, 3] [4, 5, 6]).2 setMade
  exact
    ⟨built, spanMade, setMade, wrongStep.step_iff.mpr noStep,
      wrongTolerance.tolerance_iff.mpr ⟨step, noTolerance⟩,
      wrongPositions.positions_iff.mpr ⟨usable, by decide⟩,
      wrongVelocities.velocities_iff.mpr ⟨usable, rfl, by decide⟩,
      allRight.report_iff.mpr ⟨usable, rfl, rfl⟩⟩

end ConstraintSet

end Linkage
