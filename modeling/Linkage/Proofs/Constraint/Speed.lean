import Linkage.Proofs.Constraint.Made
import Linkage.Proofs.Constraint.ScalarMap
import Linkage.Proofs.Mechanism.Speed

namespace Linkage

/-!
# Constraints at another speed

Values and Jacobians come from where the points are, so they do not depend on
the speed of the mechanism.  The bias comes from products of two velocities and
from bias accelerations.  It gets the factor of the speed twice, and at rest it
vanishes.
-/

variable {K T : Type}

section Outputs

variable [CommRing T]

/-- The outputs with the bias multiplied by the square of a factor. -/
def Outputs.atSpeed
    (factor : T)
    (outputs : Outputs T) : Outputs T :=
  { outputs with
    bias := List.map (· * (factor * factor)) <$> outputs.bias }

/--
How outputs depend on the rates: values and Jacobian are those at any other
rates, the bias gets the square of a factor, and at rest it is zero.
-/
structure Outputs.SpeedLaw
    (own faster other rest : Outputs T)
    (factor : T)
    (count : Nat) : Prop where
  residual :
    ∃ values,
      own.residual = .ok values ∧
        values.length = count ∧ other.residual = .ok values
  jacobian :
    ∃ rows,
      own.jacobian = .ok rows ∧
        rows.length = count ∧ other.jacobian = .ok rows
  bias :
    ∃ values,
      own.bias = .ok values ∧
        values.length = count ∧
        faster.bias = .ok (values.map (· * (factor * factor))) ∧
        rest.bias = .ok (List.replicate count 0)

/-- Outputs that are found obey the law if only the speed changes them. -/
theorem Outputs.speedLaw
    {own other : Outputs T}
    {count width : Nat}
    (shaped : own.Shaped count width)
    (stopped : own.atSpeed 0 = other.atSpeed 0)
    (factor : T) :
    own.SpeedLaw (own.atSpeed factor) other (own.atSpeed 0) factor
      count := by
  obtain ⟨values, valuesFound, valuesLength⟩ := shaped.residual
  obtain ⟨rows, rowsFound, rowsLength, _⟩ := shaped.jacobian
  obtain ⟨biases, biasesFound, biasesLength⟩ := shaped.bias
  obtain ⟨sameResidual, sameJacobian, _⟩ := Outputs.mk.inj stopped
  have resting : biases.map (· * ((0 : T) * 0)) = .replicate count 0 := by
    simp [List.map_const', biasesLength]
  refine
    { residual :=
        ⟨values, valuesFound, valuesLength,
          sameResidual.symm.trans valuesFound⟩
      jacobian :=
        ⟨rows, rowsFound, rowsLength,
          sameJacobian.symm.trans rowsFound⟩
      bias := ⟨biases, biasesFound, biasesLength, ?_, ?_⟩ }
  · rw [atSpeed, biasesFound]
    rfl
  · rw [← resting, atSpeed, biasesFound]
    rfl

/-- Only the bias of a constraint depends on the speed, by its square. -/
def Constraint.QuadraticBias
    (constraint : Constraint K T) : Prop :=
  ∀ (factor : T) (snapshot : Snapshot T),
    constraint.outputs (snapshot.atSpeed factor) =
      (constraint.outputs snapshot).atSpeed factor

end Outputs

section Anchor

variable [One K] [Add K] [Sub K] [Mul K]
variable [CommRing T] [Constant K T]

theorem Anchor.quadraticBias
    (anchor : Anchor K) :
    (anchor.toConstraint : Constraint K T).QuadraticBias := by
  intro factor snapshot
  have residual :
      anchor.residual (snapshot.atSpeed factor) =
        anchor.residual snapshot := by
    simp only [Anchor.residual, Mechanism.pointPosition_atSpeed]
  have jacobian :
      anchor.jacobian (snapshot.atSpeed factor) =
        anchor.jacobian snapshot := by
    simp only [Anchor.jacobian, Mechanism.pointJacobian_atSpeed]
  have bias :
      anchor.bias (snapshot.atSpeed factor) =
        List.map (· * (factor * factor)) <$> anchor.bias snapshot := by
    simp only [Anchor.bias, Mechanism.pointBias_atSpeed, bind_map_left,
      map_bind, Mat3.apply_scale]
    rfl
  simp only [Constraint.outputs, Outputs.atSpeed, Anchor.toConstraint,
    residual, jacobian, bias]

end Anchor

section Distance

variable [CommRing T] [Div T] [LawfulDivision T] [Elementary T]

/--
Every term of the bias of a distance has two velocities in it or one bias
acceleration.
-/
theorem Distance.biasOf_scale
    (separation velocity acceleration : Vec3 T)
    (factor : T) :
    Distance.biasOf separation (velocity.scale factor)
        (acceleration.scale (factor * factor)) =
      Distance.biasOf separation velocity acceleration *
        (factor * factor) := by
  have reciprocal :
      ∀ divisor : T, ∃ inverse, ∀ value : T,
        value / divisor = value * inverse :=
    fun divisor =>
      ⟨1 / divisor, fun value =>
        LawfulDivision.div_eq_mul_reciprocal value divisor⟩
  obtain ⟨perLength, divided⟩ := reciprocal separation.norm
  obtain ⟨perSquare, dividedTwice⟩ :=
    reciprocal (separation.norm * separation.norm)
  simp only [Distance.biasOf, divided, dividedTwice, Vec3.normSquared,
    Vec3.dot, Vec3.scale]
  ring

theorem Distance.quadraticBias
    [Constant K T]
    (distance : Distance K) :
    (distance.toConstraint : Constraint K T).QuadraticBias := by
  intro factor snapshot
  have residual :
      distance.residual (snapshot.atSpeed factor) =
        distance.residual snapshot := by
    simp only [Distance.residual, Distance.separation,
      Mechanism.pointPosition_atSpeed]
  have jacobian :
      distance.jacobian (snapshot.atSpeed factor) =
        distance.jacobian snapshot := by
    simp only [Distance.jacobian, Distance.separation,
      Mechanism.pointPosition_atSpeed, Mechanism.pointJacobian_atSpeed]
  have faster :
      (snapshot.atSpeed factor).velocities =
        snapshot.velocities.map (· * factor) := rfl
  have bias :
      distance.bias (snapshot.atSpeed factor) =
        List.map (· * (factor * factor)) <$> distance.bias snapshot := by
    simp only [Distance.bias, Mechanism.pointPosition_atSpeed,
      Mechanism.pointJacobian_atSpeed, Mechanism.pointBias_atSpeed,
      faster, Columns.timesVector_scale, bind_map_left, map_bind,
      ← Vec3.sub_scale, Distance.biasOf_scale]
    rfl
  simp only [Constraint.outputs, Outputs.atSpeed, Distance.toConstraint,
    residual, jacobian, bias]

end Distance

namespace ConstraintSet

/-- A stack depends on the rows of the enabled members only. -/
theorem stack_congr
    {α : Type}
    {set : ConstraintSet K T}
    {rows others : Constraint K T → Except Misuse (List α)}
    (same :
      ∀ constraint ∈ enabledConstraints set.members,
        others constraint = rows constraint)
    (count : Nat) :
    set.stack count others = set.stack count rows := by
  have stacked :
      set.stack count others =
        List.map (Option.map id) <$> set.stack count rows :=
    stack_map id
      (List.forall₂_same.mpr fun constraint inside => by
        simpa using same constraint inside)
      count
  simpa using stacked

variable [CommRing T]

/-- A set obeys the law of the speed if its enabled members do. -/
theorem outputs_atSpeed
    {set : ConstraintSet K T}
    (quadratic :
      ∀ constraint ∈ enabledConstraints set.members,
        constraint.QuadraticBias)
    (factor : T)
    (snapshot : Snapshot T) :
    set.outputs (snapshot.atSpeed factor) =
      (set.outputs snapshot).atSpeed factor := by
  have residual :
      set.residual (snapshot.atSpeed factor) = set.residual snapshot := by
    rw [ConstraintSet.residual, stackValues, stack_congr]
    · rfl
    · intro constraint inside
      exact
        congrArg Outputs.residual
          (quadratic constraint inside factor snapshot)
  have jacobian :
      set.jacobian (snapshot.atSpeed factor) = set.jacobian snapshot := by
    rw [ConstraintSet.jacobian, stackTable, stack_congr]
    · rfl
    · intro constraint inside
      exact
        congrArg (·.jacobian >>= checkWidth _)
          (quadratic constraint inside factor snapshot)
  have bias :
      set.bias (snapshot.atSpeed factor) =
        List.map (· * (factor * factor)) <$> set.bias snapshot := by
    have stays : (fun value : T => value * (factor * factor)) 0 = 0 :=
      zero_mul _
    exact
      stackValues_map stays
        (List.forall₂_same.mpr fun constraint inside =>
          congrArg Outputs.bias
            (quadratic constraint inside factor snapshot))
        _
  simp only [outputs, Outputs.atSpeed, residual, jacobian, bias]

end ConstraintSet

section Made

variable [CommRing K] [BEq K]
variable [CommRing T] [Div T] [LawfulDivision T]
variable [Elementary T] [Constant K T]

theorem Constraint.Made.quadraticBias
    {model : Model K}
    {constraint : Constraint K T}
    (made : constraint.Made model) :
    constraint.QuadraticBias := by
  cases made with
  | distance _ => exact Distance.quadraticBias _
  | anchor _ => exact Anchor.quadraticBias _

theorem ConstraintSet.Made.outputs_atSpeed
    {model : Model K}
    {set : ConstraintSet K T}
    (made : set.Made model)
    (factor : T)
    (snapshot : Snapshot T) :
    set.outputs (snapshot.atSpeed factor) =
      (set.outputs snapshot).atSpeed factor := by
  refine ConstraintSet.outputs_atSpeed ?_ factor snapshot
  intro constraint inside
  obtain ⟨member, found, _, rfl⟩ := mem_enabledConstraints.mp inside
  exact (made.members member found).quadraticBias

variable [Div K] [OfScientific K] [LT K] [DecidableLT K] [Elementary K]

/--
At one place, multiplying all rates by a factor keeps rotations, origins and
axes, multiplies velocities by the factor and bias accelerations by its square.
The values and the Jacobian of every constraint and every set are the same at
all rates, and their bias gets the square of the factor, so it is zero at rest.
-/
theorem bias_is_quadratic_in_velocity
    {model : Model K}
    (built : model.mechanism.Built)
    {positions velocities others : List T}
    (positionCount : positions.length = model.mechanism.dofCount)
    (velocityCount : velocities.length = model.mechanism.dofCount)
    (otherCount : others.length = model.mechanism.dofCount)
    (factor : T) :
    ∃ snapshot faster other rest : Snapshot T,
      model.mechanism.snapshot positions velocities = .ok snapshot ∧
        model.mechanism.snapshot positions
            (velocities.map (· * factor)) =
          .ok faster ∧
        model.mechanism.snapshot positions others = .ok other ∧
        model.mechanism.snapshot positions
            (List.replicate model.mechanism.dofCount 0) =
          .ok rest ∧
        (∀ frame, model.mechanism.contains frame = true →
          ∃ motion,
            snapshot.motion? frame = some motion ∧
              faster.motion? frame =
                some
                  { rotation := motion.rotation
                    origin := motion.origin
                    axis := motion.axis
                    angularVelocity := motion.angularVelocity.scale factor
                    originVelocity := motion.originVelocity.scale factor
                    angularBias :=
                      motion.angularBias.scale (factor * factor)
                    originBias :=
                      motion.originBias.scale (factor * factor) }) ∧
        (∀ constraint : Constraint K T,
          constraint.Made model →
          (constraint.outputs snapshot).SpeedLaw
            (constraint.outputs faster) (constraint.outputs other)
            (constraint.outputs rest) factor constraint.length) ∧
        ∀ set : ConstraintSet K T,
          set.Made model →
          (set.outputs snapshot).SpeedLaw
            (set.outputs faster) (set.outputs other)
            (set.outputs rest) factor set.fullCount := by
  have wellFormed := built.wellFormed
  obtain ⟨snapshot, found, taken⟩ :=
    wellFormed.snapshot_ok positionCount velocityCount
  obtain ⟨other, otherFound, _⟩ :=
    wellFormed.snapshot_ok positionCount otherCount
  have stopped : snapshot.atSpeed 0 = other.atSpeed 0 :=
    Mechanism.atSpeed_zero_eq found otherFound
      (velocityCount.trans otherCount.symm)
  have fasterFound :
      model.mechanism.snapshot positions (velocities.map (· * factor)) =
        .ok (snapshot.atSpeed factor) := by
    rw [Mechanism.snapshot_atSpeed, found]
    rfl
  have restFound :
      model.mechanism.snapshot positions
          (List.replicate model.mechanism.dofCount 0) =
        .ok (snapshot.atSpeed 0) := by
    have zeros :
        velocities.map (· * 0) =
          List.replicate model.mechanism.dofCount 0 := by
      simp [List.map_const', velocityCount]
    rw [← zeros, Mechanism.snapshot_atSpeed, found]
    rfl
  refine
    ⟨snapshot, snapshot.atSpeed factor, other, snapshot.atSpeed 0, found,
      fasterFound, otherFound, restFound, ?_, ?_, ?_⟩
  · intro frame inside
    obtain ⟨motion, motionFound⟩ := taken.motion_of_contains inside
    refine ⟨motion, motionFound, ?_⟩
    rw [Snapshot.motion?_atSpeed, motionFound]
    rfl
  · intro constraint made
    have shaped := made.shaped wellFormed taken velocityCount
    rw [made.quadraticBias, made.quadraticBias]
    refine Outputs.speedLaw shaped.1 ?_ factor
    rw [← made.quadraticBias, ← made.quadraticBias, stopped]
  · intro set made
    have shaped := made.shaped wellFormed taken velocityCount
    rw [made.outputs_atSpeed, made.outputs_atSpeed]
    refine Outputs.speedLaw shaped.1 ?_ factor
    rw [← made.outputs_atSpeed, ← made.outputs_atSpeed, stopped]

/-- The arm at its rates, three times as fast, at other rates and at rest. -/
theorem bias_is_quadratic_in_velocity_slidingArm :
    Mechanism.slidingArm.Built ∧
      ConstraintSet.armConstraints.Made ⟨0, Mechanism.slidingArm⟩ ∧
      ∃ snapshot faster other rest : Snapshot ℝ,
        Mechanism.slidingArm.snapshot [1, 2] [3, 4] = .ok snapshot ∧
          Mechanism.slidingArm.snapshot [1, 2] [9, 12] = .ok faster ∧
          Mechanism.slidingArm.snapshot [1, 2] [5, 6] = .ok other ∧
          Mechanism.slidingArm.snapshot [1, 2] [0, 0] = .ok rest ∧
          (Distance.armSpan.toConstraint.outputs snapshot).SpeedLaw
            (Distance.armSpan.toConstraint.outputs faster)
            (Distance.armSpan.toConstraint.outputs other)
            (Distance.armSpan.toConstraint.outputs rest) 3 1 ∧
          (ConstraintSet.armConstraints.outputs snapshot).SpeedLaw
            (ConstraintSet.armConstraints.outputs faster)
            (ConstraintSet.armConstraints.outputs other)
            (ConstraintSet.armConstraints.outputs rest) 3 4 := by
  have built : (⟨0, Mechanism.slidingArm⟩ : Model ℝ).mechanism.Built :=
    Mechanism.slidingArm_built
  have rates : [(3 : ℝ), 4].map (· * 3) = [9, 12] := by
    norm_num
  obtain ⟨snapshot, faster, other, rest, found, fasterFound, otherFound,
      restFound, _, constraints, sets⟩ :=
    bias_is_quadratic_in_velocity built
      (rfl : [(1 : ℝ), 2].length = 2) (rfl : [(3 : ℝ), 4].length = 2)
      (rfl : [(5 : ℝ), 6].length = 2) 3
  rw [rates] at fasterFound
  exact
    ⟨Mechanism.slidingArm_built, ConstraintSet.armConstraints_made,
      snapshot, faster, other, rest, found, fasterFound, otherFound,
      restFound, constraints _ (.distance Distance.armSpan_made),
      sets _ ConstraintSet.armConstraints_made⟩

end Made

end Linkage
