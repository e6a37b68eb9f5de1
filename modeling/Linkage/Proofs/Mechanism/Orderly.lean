import Mathlib.Data.List.Nodup
import Mathlib.Data.Rat.Cast.Defs
import Mathlib.Tactic.NormNum
import Linkage.Proofs.Mechanism.Rigidity
import Linkage.Proofs.Mechanism.Structure
import Linkage.Proofs.Number.Binary64
import Linkage.Proofs.Number.Exact

namespace Linkage

/-!
# Everything an attachment guarantees

A mechanism is only ever enlarged by an attachment that was accepted, so what
an attachment checks and computes holds of all bodies: names differ, moving
joints alone have coordinates, offsets are finite, and axes were divided by
their length.

What the division by the length gives depends on the arithmetic.  Where nothing
is rounded the axis has unit length.  Among doubles it is at least finite: a
finite length bounds the components, and one that is not tiny keeps their
quotients in range.
-/

namespace Joint

/-- Whether a joint has a coordinate is read off its kind. -/
theorem freedom_pos_iff
    {K : Type}
    (joint : Joint K) :
    0 < joint.freedom ↔
      ∃ axis, joint = .revolute axis ∨ joint = .prismatic axis := by
  cases joint <;> simp [freedom]

/-- A joint has at most one coordinate. -/
theorem freedom_le_one
    {K : Type}
    (joint : Joint K) :
    joint.freedom ≤ 1 := by
  cases joint <;> simp [freedom]

/-- What holds of every axis that was scaled holds of a normalized joint. -/
theorem axis_of_normalize?
    {K : Type}
    [Zero K] [Add K] [Sub K] [Mul K] [Div K] [OfScientific K]
    [BEq K] [LT K] [DecidableLT K] [Elementary K]
    {joint unitJoint : Joint K}
    (normalized : joint.normalize? = some unitJoint)
    {axis : Vec3 K}
    (hasAxis : unitJoint.axis? = some axis) :
    ∃ given, unitAxis? given = some axis := by
  cases joint with
  | fixed =>
      cases normalized
      cases hasAxis
  | revolute given =>
      obtain ⟨unit, scaled, rfl⟩ := Option.map_eq_some_iff.mp normalized
      cases hasAxis
      exact ⟨given, scaled⟩
  | prismatic given =>
      obtain ⟨unit, scaled, rfl⟩ := Option.map_eq_some_iff.mp normalized
      cases hasAxis
      exact ⟨given, scaled⟩

/-- An axis is scaled if its length is finite and not tiny. -/
theorem unitAxis?_eq_some
    {K : Type}
    [Zero K] [Add K] [Sub K] [Mul K] [Div K] [OfScientific K]
    [BEq K] [LT K] [DecidableLT K] [Elementary K]
    {given axis : Vec3 K}
    (scaled : unitAxis? given = some axis) :
    isFinite given.norm = true ∧
      axisThreshold < given.norm ∧
      axis = given.divide given.norm := by
  simp only [unitAxis?] at scaled
  split at scaled
  · rename_i accepted
    rw [Bool.and_eq_true, decide_eq_true_eq] at accepted
    cases scaled
    exact ⟨accepted.1, accepted.2, rfl⟩
  · cases scaled

section Exact

variable {K : Type} [Field K] [LinearOrder K] [IsStrictOrderedRing K]
variable [Elementary K] [LawfulSqrt K] [LawfulRootOfZero K]

/-- An axis that was scaled has unit length. -/
theorem normSquared_of_unitAxis?
    {given axis : Vec3 K}
    (scaled : unitAxis? given = some axis) :
    axis.normSquared = 1 := by
  obtain ⟨_, long, rfl⟩ := unitAxis?_eq_some scaled
  have positive : 0 < given.normSquared := by
    have nonnegative : 0 ≤ given.normSquared :=
      add_nonneg
        (add_nonneg (mul_self_nonneg given.x) (mul_self_nonneg given.y))
        (mul_self_nonneg given.z)
    refine lt_of_le_of_ne nonnegative ?_
    intro isZero
    rw [Vec3.norm, ← isZero, LawfulRootOfZero.sqrt_zero] at long
    have threshold : (0 : K) < axisThreshold := by
      norm_num [axisThreshold]
    exact lt_asymm long threshold
  have square : given.norm * given.norm = given.normSquared :=
    LawfulSqrt.sqrt_mul_sqrt positive
  have nonzero : given.norm ≠ 0 := sqrt_ne_zero positive
  have sum :
      given.x * given.x + given.y * given.y + given.z * given.z =
        given.norm * given.norm := square.symm
  simp only [Vec3.normSquared, Vec3.dot, Vec3.divide]
  field_simp
  linear_combination sum

/-- A normalized joint has an axis of unit length, if any. -/
theorem hasUnitAxis_of_normalize?
    {joint unitJoint : Joint K}
    (normalized : joint.normalize? = some unitJoint) :
    unitJoint.HasUnitAxis := by
  intro axis hasAxis
  obtain ⟨given, scaled⟩ := axis_of_normalize? normalized hasAxis
  exact normSquared_of_unitAxis? scaled

end Exact

/-- A joint whose axis, if it has one, is finite. -/
def HasFiniteAxis
    {K : Type} [Zero K] [Sub K] [BEq K]
    (joint : Joint K) : Prop :=
  ∀ {axis : Vec3 K}, joint.axis? = some axis → axis.allFinite = true

/-- An axis of doubles that was scaled is finite. -/
theorem allFinite_of_unitAxis?
    {given axis : Vec3 Float}
    (scaled : unitAxis? given = some axis) :
    axis.allFinite = true := by
  obtain ⟨finite, long, rfl⟩ := unitAxis?_eq_some scaled
  rw [Binary64.isFinite_eq] at finite
  obtain ⟨finiteXY, finiteZ⟩ :=
    Binary64.isFinite_of_add (Binary64.isFinite_of_sqrt finite)
  obtain ⟨finiteX, finiteY⟩ := Binary64.isFinite_of_add finiteXY
  have quotient :
      ∀ {component : Float},
        (component * component).isFinite = true →
        isFinite (component / given.norm) = true := by
    intro component square
    rw [Binary64.isFinite_eq]
    exact
      Binary64.isFinite_div (Binary64.hasSquare_of_isFinite square)
        finite long
  simp [Vec3.allFinite, Vec3.divide, quotient finiteX, quotient finiteY,
    quotient finiteZ]

/-- A normalized joint has a finite axis, if any. -/
theorem hasFiniteAxis_of_normalize?
    {joint unitJoint : Joint Float}
    (normalized : joint.normalize? = some unitJoint) :
    unitJoint.HasFiniteAxis := by
  intro axis hasAxis
  obtain ⟨given, scaled⟩ := axis_of_normalize? normalized hasAxis
  exact allFinite_of_unitAxis? scaled

end Joint

namespace Mechanism

variable {K : Type}
variable [Zero K] [Add K] [Sub K] [Mul K] [Div K] [OfScientific K]
variable [BEq K] [LT K] [DecidableLT K] [Elementary K]

/--
What holds of every body that an attachment can make holds of all bodies of a
mechanism that was built.
-/
theorem Built.forall_body
    {Holds : Body K → Prop}
    (new :
      ∀ (mechanism : Mechanism K) (name : String) (parent : FrameId)
        (joint : Joint K) {unitJoint : Joint K} {offset : Pose K},
        joint.normalize? = some unitJoint →
        offset.allFinite = true →
        Holds (mechanism.newBody name parent unitJoint offset))
    {mechanism : Mechanism K}
    (built : mechanism.Built) :
    ∀ body ∈ mechanism.bodies, Holds body := by
  induction built with
  | empty revision =>
      simp [Mechanism.empty]
  | attach _ accepted inductionHypothesis =>
      obtain ⟨_, _, finite, unitJoint, normalized, rfl, _⟩ :=
        attach_eq_ok_iff.mp accepted
      intro body member
      rcases List.mem_append.mp member with earlier | last
      · exact inductionHypothesis body earlier
      · rw [List.mem_singleton.mp last]
        exact new _ _ _ _ normalized finite

/-- The names of the frames, the world first. -/
def frameNames
    {K : Type}
    (mechanism : Mechanism K) : List String :=
  worldName :: mechanism.bodies.map (·.name)

/-- A name is taken when it is one of the names. -/
theorem nameTaken_eq_false_iff
    {K : Type}
    {mechanism : Mechanism K}
    {name : String} :
    mechanism.nameTaken name = false ↔ name ∉ mechanism.frameNames := by
  simp [nameTaken, frameNames]

/-- The frames of a mechanism that was built have different names. -/
theorem Built.frameNames_nodup
    {mechanism : Mechanism K}
    (built : mechanism.Built) :
    mechanism.frameNames.Nodup := by
  induction built with
  | empty revision =>
      simp [frameNames, Mechanism.empty]
  | attach _ accepted inductionHypothesis =>
      obtain ⟨_, free, _, unitJoint, _, rfl, _⟩ :=
        attach_eq_ok_iff.mp accepted
      rw [nameTaken_eq_false_iff] at free
      simp only [frameNames, newBody, List.map_append, List.map_cons,
        List.map_nil, ← List.cons_append]
      refine
        List.nodup_append.mpr
          ⟨inductionHypothesis, List.nodup_singleton _, ?_⟩
      rintro earlier member last isLast rfl
      rw [List.mem_singleton.mp isLast] at member
      exact free member

/--
The structure of a mechanism that was built, apart from the length of its axes.
-/
structure Orderly
    (mechanism : Mechanism K) : Prop
    extends mechanism.WellFormed where
  names_nodup : mechanism.frameNames.Nodup
  dof_isSome_iff :
    ∀ body ∈ mechanism.bodies,
      body.dof.isSome = true ↔
        ∃ axis, body.joint = .revolute axis ∨ body.joint = .prismatic axis
  offset_finite :
    ∀ body ∈ mechanism.bodies, body.offset.allFinite = true

/-- Mechanisms that were built are orderly. -/
theorem Built.orderly
    {mechanism : Mechanism K}
    (built : mechanism.Built) :
    mechanism.Orderly where
  toWellFormed := built.wellFormed
  names_nodup := built.frameNames_nodup
  dof_isSome_iff := by
    refine built.forall_body ?_
    intro mechanism name parent joint unitJoint offset _ _
    rw [← Joint.freedom_pos_iff]
    by_cases moves : 0 < unitJoint.freedom <;> simp [newBody, moves]
  offset_finite :=
    built.forall_body fun _ _ _ _ _ _ _ finite => finite

/-- Among doubles the axes of a mechanism that was built are finite. -/
theorem Built.hasFiniteAxis
    {mechanism : Mechanism Float}
    (built : mechanism.Built) :
    ∀ body ∈ mechanism.bodies, body.joint.HasFiniteAxis := by
  refine built.forall_body ?_
  intro mechanism name parent joint unitJoint offset normalized _ axis
    hasAxis
  exact Joint.hasFiniteAxis_of_normalize? normalized hasAxis

/-- Without rounding the axes of a mechanism that was built are units. -/
theorem Built.hasUnitAxis
    {K : Type} [Field K] [LinearOrder K] [IsStrictOrderedRing K]
    [Elementary K] [LawfulSqrt K] [LawfulRootOfZero K]
    {mechanism : Mechanism K}
    (built : mechanism.Built) :
    ∀ body ∈ mechanism.bodies, body.joint.HasUnitAxis := by
  refine built.forall_body ?_
  intro mechanism name parent joint unitJoint offset normalized _ axis
    hasAxis
  exact Joint.hasUnitAxis_of_normalize? normalized hasAxis

end Mechanism

end Linkage
