import Linkage.Proofs.Geometry.Linear
import Linkage.Proofs.Geometry.Rotation

namespace Linkage

/-!
# Derivatives of vectors and matrices

Vectors and matrices of dual numbers carry the derivative of each entry.  The
derivatives of products follow the product rule, and turning about a fixed axis
follows the equation of a turning frame.
-/

variable {K : Type}

namespace Vec3

@[simp] theorem map_eps_zero [Zero K] :
    (0 : Vec3 (Dual K)).map Dual.eps = 0 := rfl

@[simp] theorem map_eps_add [Add K] (v w : Vec3 (Dual K)) :
    (v + w).map Dual.eps = v.map Dual.eps + w.map Dual.eps := rfl

@[simp] theorem map_eps_sub [Sub K] (v w : Vec3 (Dual K)) :
    (v - w).map Dual.eps = v.map Dual.eps - w.map Dual.eps := rfl

@[simp] theorem map_eps_constant [Zero K] (v : Vec3 K) :
    (v.map Constant.constant : Vec3 (Dual K)).map Dual.eps = 0 := rfl

end Vec3

section Ring

variable [CommRing K] [FusedMulAdd K] [LawfulFusedMulAdd K]

namespace Vec3

theorem map_eps_scale
    (v : Vec3 (Dual K))
    (factor : Dual K) :
    (v.scale factor).map Dual.eps =
      (v.map Dual.eps).scale factor.re +
        (v.map Dual.re).scale factor.eps := by
  ext <;> simp [Vec3.map, scale] <;> ring

theorem map_eps_cross (v w : Vec3 (Dual K)) :
    (v.cross w).map Dual.eps =
      (v.map Dual.eps).cross (w.map Dual.re) +
        (v.map Dual.re).cross (w.map Dual.eps) := by
  ext <;> simp [Vec3.map, cross] <;> ring

theorem eps_dot (v w : Vec3 (Dual K)) :
    (v.dot w).eps =
      (v.map Dual.eps).dot (w.map Dual.re) +
        (v.map Dual.re).dot (w.map Dual.eps) := by
  simp [Vec3.map, dot]
  ring

end Vec3

namespace Mat3

theorem map_eps_apply
    (m : Mat3 (Dual K))
    (v : Vec3 (Dual K)) :
    (m.apply v).map Dual.eps =
      (m.map Dual.eps).apply (v.map Dual.re) +
        (m.map Dual.re).apply (v.map Dual.eps) := by
  ext <;> simp [Mat3.map, Vec3.map, apply, Vec3.rowTimes_eq] <;> ring

theorem map_eps_times (m n : Mat3 (Dual K)) :
    (m.times n).map Dual.eps =
      (m.map Dual.eps).times (n.map Dual.re) +
        (m.map Dual.re).times (n.map Dual.eps) := by
  ext <;>
    simp [Mat3.map, Vec3.map, times, transpose, Vec3.rowTimes_eq] <;>
    ring

/-- A constant matrix turns the derivative of a vector. -/
theorem map_eps_constant_apply
    (m : Mat3 K)
    (v : Vec3 (Dual K)) :
    ((m.map Constant.constant : Mat3 (Dual K)).apply v).map Dual.eps =
      m.apply (v.map Dual.eps) := by
  ext <;> simp [Mat3.map, Vec3.map, apply, Vec3.rowTimes_eq]

/-- A constant factor passes through the derivative. -/
theorem map_eps_times_constant
    (m : Mat3 (Dual K))
    (n : Mat3 K) :
    (m.times (n.map Constant.constant)).map Dual.eps =
      (m.map Dual.eps).times n := by
  ext <;>
    simp [Mat3.map, Vec3.map, times, transpose, Vec3.rowTimes_eq]

/-- About a fixed axis only the coefficients change. -/
theorem map_eps_aboutAxis
    (axis : Vec3 K)
    (straight across along : Dual K) :
    (aboutAxis (axis.map Constant.constant) straight across along).map
        Dual.eps =
      aboutAxis axis straight.eps across.eps along.eps := by
  ext <;>
    simp [aboutAxis, Mat3.map, Vec3.map, identity, skew, outer, scale,
      Vec3.scale]

end Mat3

/--
The derivative of a row times a vector has two parts: the row changes, and the
vector does.
-/
theorem eps_sumProducts_seed
    (row : List (Dual K))
    {values directions : List K}
    (sameLength : values.length = directions.length) :
    (sumProducts (row.zip (Dual.seed values directions))).eps =
      (sumProducts (row.zip (values.map Constant.constant))).eps +
        (sumProducts (row.zip (directions.map Constant.constant))).re := by
  induction row generalizing values directions with
  | nil =>
      simp
  | cons entry row inductionHypothesis =>
      cases values with
      | nil =>
          cases directions with
          | nil =>
              simp [Dual.seed]
          | cons direction directions =>
              cases sameLength
      | cons value values =>
          cases directions with
          | nil =>
              cases sameLength
          | cons direction directions =>
              have tail := inductionHypothesis (Nat.succ.inj sameLength)
              simp only [Dual.seed] at tail
              simp only [Dual.seed, List.zipWith_cons_cons, List.map_cons,
                List.zip_cons_cons, sumProducts_cons, Dual.eps_add,
                Dual.re_add, tail]
              simp
              ring

/--
The derivative of a combination of columns has two parts: the columns change,
and their weights do.
-/
theorem Columns.map_eps_combine_seed
    (columns : Columns (Dual K))
    {values directions : List K}
    (sameLength : values.length = directions.length) :
    (combine (columns.zip (Dual.seed values directions))).map Dual.eps =
      (combine (columns.zip (values.map Constant.constant))).map Dual.eps +
        (combine (columns.zip (directions.map Constant.constant))).map
          Dual.re := by
  -- A component of a combination is a row times the weights.
  have component (axis : Vec3 (Dual K)) :=
    eps_sumProducts_seed (columns.project axis) sameLength
  simp only [sumProducts_project] at component
  ext
  · simpa [Vec3.map, Vec3.dot] using component ⟨1, 0, 0⟩
  · simpa [Vec3.map, Vec3.dot] using component ⟨0, 1, 0⟩
  · simpa [Vec3.map, Vec3.dot] using component ⟨0, 0, 1⟩

namespace Mat3

/--
A matrix whose derivative is that of the orientation of a frame that turns with
the given angular velocity.
-/
def Turns
    (m : Mat3 (Dual K))
    (velocity : Vec3 K) : Prop :=
  m.map Dual.eps = (skew velocity).times (m.map Dual.re)

namespace Turns

variable {m : Mat3 (Dual K)} {velocity : Vec3 K}

/-- A frame that does not move relative to a turning frame turns with it. -/
theorem times_constant
    (turns : m.Turns velocity)
    (n : Mat3 K) :
    (m.times (n.map Constant.constant)).Turns velocity := by
  rw [Turns, map_eps_times_constant, turns, map_times, map_constant,
    constant_self, times_assoc]

/-- A vector fixed in a turning frame changes across the axis of turning. -/
theorem apply_constant
    (turns : m.Turns velocity)
    (v : Vec3 K) :
    (m.apply (v.map Constant.constant)).map Dual.eps =
      velocity.cross ((m.map Dual.re).apply v) := by
  rw [map_eps_apply, turns, Vec3.map_constant, Vec3.constant_self,
    Vec3.map_eps_constant, apply_zero, Vec3.add_zero, times_apply,
    skew_apply]

/-- Seen from a turning frame, a vector changes relative to the frame. -/
theorem transpose_apply
    (turns : m.Turns velocity)
    (v : Vec3 (Dual K)) :
    (m.transpose.apply v).map Dual.eps =
      (m.map Dual.re).transpose.apply
        (v.map Dual.eps - velocity.cross (v.map Dual.re)) := by
  have turned :
      ((skew velocity).times (m.map Dual.re)).transpose.apply
          (v.map Dual.re) =
        0 - (m.map Dual.re).transpose.apply
          (velocity.cross (v.map Dual.re)) := by
    ext <;>
      simp [apply, times, transpose, skew, Vec3.cross, Vec3.rowTimes_eq] <;>
      ring
  rw [map_eps_apply, map_transpose, map_transpose, turns, turned,
    apply_sub]
  ext <;> simp <;> ring

end Turns

end Mat3

end Ring

section Field

variable [Field K] [FusedMulAdd K] [LawfulFusedMulAdd K]
variable [Elementary K]

namespace Mat3

/--
A rotation about a fixed unit axis turns about this axis, at the rate of the
angle.
-/
theorem turns_axisAngle
    {axis : Vec3 K}
    (unit : axis.normSquared = 1)
    (angle : Dual K) :
    (axisAngle (axis.map Constant.constant) angle).Turns
      (axis.scale angle.eps) := by
  have values :
      (axisAngle (axis.map Constant.constant) angle).map Dual.re =
        axisAngle axis angle.re := by
    rw [map_axisAngle, Vec3.map_constant, Vec3.constant_self]
  rw [Turns, values, axisAngle_eq_aboutAxis, map_eps_aboutAxis,
    skew_scale_eq_aboutAxis, axisAngle_eq_aboutAxis, aboutAxis_times unit]
  congr 1 <;> simp

/-- Angular velocities add up when one frame turns relative to another. -/
theorem Turns.times_axisAngle
    {m : Mat3 (Dual K)}
    {velocity axis : Vec3 K}
    (turns : m.Turns velocity)
    (rotation : (m.map Dual.re).IsRotation)
    (unit : axis.normSquared = 1)
    (angle : Dual K) :
    (m.times (axisAngle (axis.map Constant.constant) angle)).Turns
      (velocity +
        ((m.map Dual.re).apply axis).scale angle.eps) := by
  have relative := turns_axisAngle unit angle
  rw [Turns, map_eps_times, turns, relative, map_times, skew_add,
    add_times, ← apply_scale, times_assoc, ← times_assoc (m.map Dual.re),
    rotation.times_skew, times_assoc]

end Mat3

end Field

section Ordered

variable [Field K] [LinearOrder K] [IsStrictOrderedRing K]
variable [Elementary K]

namespace Vec3

/-- A vector that is not zero has a length that is not zero. -/
theorem norm_ne_zero
    [LawfulSqrt K]
    {v : Vec3 K}
    (notZero : v ≠ 0) :
    v.norm ≠ 0 := by
  refine sqrt_ne_zero (lt_of_le_of_ne ?_ ?_)
  · exact
      add_nonneg (add_nonneg (mul_self_nonneg _) (mul_self_nonneg _))
        (mul_self_nonneg _)
  · intro isZero
    apply notZero
    have squares :
        v.x * v.x + v.y * v.y + v.z * v.z = 0 := isZero.symm
    obtain ⟨firstTwo, zIsZero⟩ :=
      (add_eq_zero_iff_of_nonneg
        (add_nonneg (mul_self_nonneg _) (mul_self_nonneg _))
        (mul_self_nonneg _)).mp squares
    obtain ⟨xIsZero, yIsZero⟩ :=
      (add_eq_zero_iff_of_nonneg
        (mul_self_nonneg _) (mul_self_nonneg _)).mp firstTwo
    exact
      Vec3.ext (mul_self_eq_zero.mp xIsZero) (mul_self_eq_zero.mp yIsZero)
        (mul_self_eq_zero.mp zIsZero)

/-- Only the zero vector has length zero. -/
theorem norm_eq_zero_iff
    [LawfulSqrt K] [LawfulRootOfZero K]
    {v : Vec3 K} :
    v.norm = 0 ↔ v = 0 := by
  constructor
  · exact not_imp_not.mp norm_ne_zero
  · rintro rfl
    simp [norm, normSquared, dot, LawfulRootOfZero.sqrt_zero]

variable [FusedMulAdd K] [LawfulFusedMulAdd K]

/-- A length changes by the part of the velocity along the vector. -/
theorem eps_norm (v : Vec3 (Dual K)) :
    v.norm.eps =
      (v.map Dual.re).dot (v.map Dual.eps) / (v.map Dual.re).norm := by
  have twice :
      v.normSquared.eps =
        two * (v.map Dual.re).dot (v.map Dual.eps) := by
    rw [normSquared, eps_dot, dot, dot, two]
    ring
  rw [norm, Dual.eps_sqrt, twice,
    mul_div_mul_left _ _ two_ne_zero_of_charZero]
  rfl

end Vec3

end Ordered

end Linkage
