import Linkage.Proofs.Constraint.AnchorDerivative
import Linkage.Proofs.Constraint.DistanceDerivative
import Linkage.Proofs.Constraint.ScalarMap

namespace Linkage

/-!
# Derivatives do not leak into values

A computation on dual numbers carries derivatives along.  The values it finds
are those that the same computation finds on plain numbers, and no law of
arithmetic is needed for that, since every operation computes its value from
the values of its operands.  The one exception is the quotient, whose value is
a product with a reciprocal; a distance divides, and nothing else does.
-/

/-- What is read of one point of a mechanism. -/
structure PointReadings (T : Type) where
  position : Except Misuse (Vec3 T)
  jacobian : Except Misuse (Columns T)
  bias : Except Misuse (Vec3 T)

/-- Readings with every number replaced by its image. -/
def PointReadings.map
    {S T : Type}
    (f : S → T)
    (readings : PointReadings S) : PointReadings T where
  position := Vec3.map f <$> readings.position
  jacobian := List.map (Vec3.map f) <$> readings.jacobian
  bias := Vec3.map f <$> readings.bias

/-- Position, Jacobian and bias acceleration of a point of a frame. -/
def Mechanism.readings
    {K T : Type}
    [Zero T] [One T] [Add T] [Sub T] [Mul T]
    (mechanism : Mechanism K)
    (snapshot : Snapshot T)
    (frame : FrameId)
    (point : Vec3 T)
    (measuredIn expressedIn : FrameId) : PointReadings T where
  position := mechanism.pointPosition snapshot frame point expressedIn
  jacobian :=
    mechanism.pointJacobian snapshot frame point measuredIn expressedIn
  bias := mechanism.pointBias snapshot frame point expressedIn

theorem Mechanism.readings_map
    {K S T : Type}
    [Zero S] [One S] [Add S] [Sub S] [Neg S] [Mul S]
    [Zero T] [One T] [Add T] [Sub T] [Neg T] [Mul T]
    (f : S → T) [PreservesArithmetic f]
    (mechanism : Mechanism K)
    (snapshot : Snapshot S)
    (frame : FrameId)
    (point : Vec3 S)
    (measuredIn expressedIn : FrameId) :
    mechanism.readings (snapshot.map f) frame (point.map f) measuredIn
        expressedIn =
      (mechanism.readings snapshot frame point measuredIn
        expressedIn).map f := by
  simp only [readings, PointReadings.map, pointPosition_map, pointJacobian_map,
    pointBias_map]

/-- A constraint of one of the two kinds, for any type of scalars. -/
inductive Posed (K : Type) where
  | ofDistance (distance : Distance K)
  | ofAnchor (anchor : Anchor K)
  deriving Repr

section Pose

variable {K T : Type}
variable [One K] [Add K] [Sub K] [Mul K]
variable [Zero T] [One T] [Add T] [Sub T] [Mul T] [Div T]
variable [Elementary T] [Constant K T]

/-- The constraint over the scalars of a state. -/
def Posed.toConstraint : Posed K → Constraint K T
  | .ofDistance distance => distance.toConstraint
  | .ofAnchor anchor => anchor.toConstraint

/-- Constraints, each with a flag, as a set over the scalars of a state. -/
def ConstraintSet.pose
    (model : Model K)
    (members : List (Posed K × Bool)) : ConstraintSet K T where
  model := model
  members :=
    members.map fun (posed, enabled) => ⟨posed.toConstraint, enabled⟩

end Pose

section Values

variable {K : Type}
variable [Zero K] [One K] [Add K] [Sub K] [Neg K] [Mul K]
variable [FusedMulAdd K]

/--
Two snapshots from which the same values are read: of every point, and of every
constraint and every set whose values are those of a constraint or a set on
plain numbers.
-/
structure SameValues (first second : Snapshot (Dual K)) : Prop where
  readings :
    ∀ (mechanism : Mechanism K) (frame measuredIn expressedIn : FrameId)
      {point other : Vec3 (Dual K)},
      point.map Dual.re = other.map Dual.re →
      (mechanism.readings first frame point measuredIn
          expressedIn).map Dual.re =
        (mechanism.readings second frame other measuredIn
          expressedIn).map Dual.re
  constraint :
    ∀ {constraint : Constraint K (Dual K)} {plain : Constraint K K},
      constraint.MapsTo Dual.re plain →
      (constraint.outputs first).map Dual.re =
        (constraint.outputs second).map Dual.re
  set :
    ∀ {set : ConstraintSet K (Dual K)} {plain : ConstraintSet K K},
      set.MapsTo Dual.re plain →
      (set.outputs first).map Dual.re =
          (set.outputs second).map Dual.re ∧
        (set.activeOutputs first).map Dual.re =
          (set.activeOutputs second).map Dual.re

/-- Snapshots with the same values everywhere are such snapshots. -/
theorem sameValues_of_map_eq
    {first second : Snapshot (Dual K)}
    (same : first.map Dual.re = second.map Dual.re) :
    SameValues first second where
  readings mechanism frame measuredIn expressedIn point other samePoint := by
    rw [← Mechanism.readings_map, ← Mechanism.readings_map, same, samePoint]
  constraint mapsTo := by
    rw [← mapsTo.outputs_eq, ← mapsTo.outputs_eq, same]
  set mapsTo := by
    constructor
    · rw [← mapsTo.outputs_eq rfl, ← mapsTo.outputs_eq rfl, same]
    · rw [← mapsTo.activeOutputs_eq rfl, ← mapsTo.activeOutputs_eq rfl,
        same]

variable [Div K] [Elementary K]

/-- Both kinds of constraints find the values they find on plain numbers. -/
theorem Posed.mapsTo_re
    (reciprocal : ∀ a b : K, a * (1 / b) = a / b)
    (posed : Posed K) :
    (posed.toConstraint : Constraint K (Dual K)).MapsTo Dual.re
      posed.toConstraint := by
  have := preservesDivision_re reciprocal
  cases posed with
  | ofDistance distance => exact distance.mapsTo Dual.re
  | ofAnchor anchor => exact anchor.mapsTo Dual.re

theorem ConstraintSet.pose_mapsTo_re
    (reciprocal : ∀ a b : K, a * (1 / b) = a / b)
    (model : Model K)
    (members : List (Posed K × Bool)) :
    (ConstraintSet.pose model members : ConstraintSet K (Dual K)).MapsTo
      Dual.re (ConstraintSet.pose model members) where
  model_eq := rfl
  members :=
    List.forall₂_map_left_iff.mpr
      (List.forall₂_map_right_iff.mpr
        (List.forall₂_same.mpr fun member _ =>
          ⟨rfl, member.1.mapsTo_re reciprocal⟩))

/--
The values that are found on dual numbers are those found on the values alone.
By the operations themselves, this holds of snapshots, of what is read of points
and of anchors; where a quotient is the product with a reciprocal, it holds of
distances, too, and of every set.  States, points and snapshots that differ in
their derivatives only, give the same values.
-/
theorem values_ignore_derivatives :
    (∀ (mechanism : Mechanism K) (positions velocities : List (Dual K)),
        mechanism.snapshot (positions.map Dual.re)
            (velocities.map Dual.re) =
          Snapshot.map Dual.re <$>
            mechanism.snapshot positions velocities) ∧
      (∀ (mechanism : Mechanism K) (snapshot : Snapshot (Dual K))
          (frame : FrameId) (point : Vec3 (Dual K))
          (measuredIn expressedIn : FrameId),
        mechanism.readings (snapshot.map Dual.re) frame
            (point.map Dual.re) measuredIn expressedIn =
          (mechanism.readings snapshot frame point measuredIn
            expressedIn).map Dual.re) ∧
      (∀ (anchor : Anchor K) (snapshot : Snapshot (Dual K)),
        anchor.toConstraint.outputs (snapshot.map Dual.re) =
          (anchor.toConstraint.outputs snapshot).map Dual.re) ∧
      ((∀ a b : K, a * (1 / b) = a / b) →
        (∀ (distance : Distance K) (snapshot : Snapshot (Dual K)),
          distance.toConstraint.outputs (snapshot.map Dual.re) =
            (distance.toConstraint.outputs snapshot).map Dual.re) ∧
          ∀ (model : Model K) (members : List (Posed K × Bool))
            (snapshot : Snapshot (Dual K)),
            (ConstraintSet.pose model members).outputs
                (snapshot.map Dual.re) =
              ((ConstraintSet.pose model members).outputs snapshot).map
                Dual.re ∧
              (ConstraintSet.pose model members).activeOutputs
                  (snapshot.map Dual.re) =
                ((ConstraintSet.pose model members).activeOutputs
                  snapshot).map Dual.re) ∧
      (∀ (mechanism : Mechanism K)
          {positions velocities others rates : List (Dual K)},
        positions.map Dual.re = others.map Dual.re →
        velocities.map Dual.re = rates.map Dual.re →
        Snapshot.map Dual.re <$>
            mechanism.snapshot positions velocities =
          Snapshot.map Dual.re <$> mechanism.snapshot others rates) ∧
      ∀ {first second : Snapshot (Dual K)},
        first.map Dual.re = second.map Dual.re →
        SameValues first second := by
  refine ⟨?_, ?_, ?_, ?_, ?_, sameValues_of_map_eq⟩
  · intro mechanism positions velocities
    exact mechanism.snapshot_map Dual.re positions velocities
  · intro mechanism snapshot frame point measuredIn expressedIn
    exact
      mechanism.readings_map Dual.re snapshot frame point measuredIn
        expressedIn
  · intro anchor snapshot
    exact (anchor.mapsTo Dual.re).outputs_eq snapshot
  · intro reciprocal
    constructor
    · intro distance snapshot
      exact
        ((Posed.ofDistance distance).mapsTo_re reciprocal).outputs_eq
          snapshot
    · intro model members snapshot
      have mapsTo :=
        ConstraintSet.pose_mapsTo_re reciprocal model members
      exact
        ⟨mapsTo.outputs_eq rfl snapshot,
          mapsTo.activeOutputs_eq rfl snapshot⟩
  · intro mechanism positions velocities others rates same sameRates
    rw [← Mechanism.snapshot_map, ← Mechanism.snapshot_map, same,
      sameRates]

end Values

/-- Two states of the sliding arm with other derivatives of the same values. -/
theorem values_ignore_derivatives_slidingArm :
    (∀ a b : ℝ, a * (1 / b) = a / b) ∧
      [(⟨1, 5⟩ : Dual ℝ), ⟨2, 6⟩].map Dual.re =
        [(⟨1, 0⟩ : Dual ℝ), ⟨2, 0⟩].map Dual.re ∧
      [(⟨3, 7⟩ : Dual ℝ), ⟨4, 8⟩].map Dual.re =
        [(⟨3, 1⟩ : Dual ℝ), ⟨4, 1⟩].map Dual.re ∧
      ∃ first second : Snapshot (Dual ℝ),
        Mechanism.slidingArm.snapshot [⟨1, 5⟩, ⟨2, 6⟩]
            [⟨3, 7⟩, ⟨4, 8⟩] =
          .ok first ∧
          Mechanism.slidingArm.snapshot [⟨1, 0⟩, ⟨2, 0⟩]
              [⟨3, 1⟩, ⟨4, 1⟩] =
            .ok second ∧
          first.map Dual.re = second.map Dual.re ∧
          (ConstraintSet.pose ⟨0, Mechanism.slidingArm⟩
                [(.ofDistance .armSpan, true),
                  (.ofAnchor .sliderPin, true)]).outputs
              (first.map Dual.re) =
            ((ConstraintSet.pose ⟨0, Mechanism.slidingArm⟩
                [(.ofDistance .armSpan, true),
                  (.ofAnchor .sliderPin, true)]).outputs first).map
              Dual.re ∧
          SameValues first second := by
  have reciprocal : ∀ a b : ℝ, a * (1 / b) = a / b := mul_one_div
  obtain ⟨first, firstFound, _⟩ :=
    Mechanism.slidingArm_built.wellFormed.snapshot_ok
      (rfl : [(⟨1, 5⟩ : Dual ℝ), ⟨2, 6⟩].length = 2)
      (rfl : [(⟨3, 7⟩ : Dual ℝ), ⟨4, 8⟩].length = 2)
  obtain ⟨second, secondFound, _⟩ :=
    Mechanism.slidingArm_built.wellFormed.snapshot_ok
      (rfl : [(⟨1, 0⟩ : Dual ℝ), ⟨2, 0⟩].length = 2)
      (rfl : [(⟨3, 1⟩ : Dual ℝ), ⟨4, 1⟩].length = 2)
  obtain ⟨_, _, _, exactValues, states, snapshots⟩ :=
    values_ignore_derivatives (K := ℝ)
  obtain ⟨_, sets⟩ := exactValues reciprocal
  have same : first.map Dual.re = second.map Dual.re := by
    have equal :=
      @states Mechanism.slidingArm [⟨1, 5⟩, ⟨2, 6⟩] [⟨3, 7⟩, ⟨4, 8⟩]
        [⟨1, 0⟩, ⟨2, 0⟩] [⟨3, 1⟩, ⟨4, 1⟩] rfl rfl
    rw [firstFound, secondFound] at equal
    exact Except.ok.inj equal
  exact
    ⟨reciprocal, rfl, rfl, first, second, firstFound, secondFound, same,
      (sets _ _ first).1, snapshots same⟩

end Linkage
