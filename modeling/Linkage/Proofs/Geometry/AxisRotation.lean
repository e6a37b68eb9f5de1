import Linkage.Proofs.Geometry.Rotation
import Linkage.Proofs.Number.LawfulScalar

namespace Linkage

/-!
# Rotations about one axis

The rotations about an axis of unit length add up as their angles do, and each
of them is the orientation of a quaternion made of half the angle.

All of these matrices belong to the axis, so what has to be shown are equations
between three coefficients, and these are the equations of sums of angles.
-/

variable {T : Type} [CommRing T]

namespace LawfulAngleSums

variable [Elementary T] [LawfulAngleSums T]

/-- An angle and its opposite add up to nothing. -/
theorem opposite_angles (angle : T) :
    Elementary.sin angle * Elementary.cos (-angle) +
          Elementary.cos angle * Elementary.sin (-angle) = 0 ∧
      Elementary.cos angle * Elementary.cos (-angle) -
          Elementary.sin angle * Elementary.sin (-angle) = 1 := by
  rw [← sin_add, ← cos_add, add_neg_cancel]
  exact ⟨sin_zero, cos_zero⟩

theorem cos_neg
    [LawfulTrigonometry T]
    (angle : T) :
    Elementary.cos (-angle) = Elementary.cos angle := by
  obtain ⟨sine, cosine⟩ := opposite_angles angle
  linear_combination
    Elementary.sin angle * sine + Elementary.cos angle * cosine -
      Elementary.cos (-angle) *
        LawfulTrigonometry.cos_mul_cos_add_sin_mul_sin angle

theorem sin_neg
    [LawfulTrigonometry T]
    (angle : T) :
    Elementary.sin (-angle) = -Elementary.sin angle := by
  obtain ⟨sine, cosine⟩ := opposite_angles angle
  linear_combination
    Elementary.cos angle * sine - Elementary.sin angle * cosine -
      Elementary.sin (-angle) *
        LawfulTrigonometry.cos_mul_cos_add_sin_mul_sin angle

theorem cos_of_half
    [Div T] [LawfulHalving T]
    (angle : T) :
    Elementary.cos angle =
      Elementary.cos (angle / two) * Elementary.cos (angle / two) -
        Elementary.sin (angle / two) * Elementary.sin (angle / two) := by
  rw [← cos_add, LawfulHalving.half_add_half]

theorem sin_of_half
    [Div T] [LawfulHalving T]
    (angle : T) :
    Elementary.sin angle =
      two * (Elementary.cos (angle / two) *
        Elementary.sin (angle / two)) := by
  calc
    Elementary.sin angle =
        Elementary.sin (angle / two + angle / two) := by
      rw [LawfulHalving.half_add_half]
    _ = two * (Elementary.cos (angle / two) *
          Elementary.sin (angle / two)) := by
      rw [sin_add, two]
      ring

end LawfulAngleSums

section Rotations

variable [Elementary T]

namespace Mat3

variable [LawfulAngleSums T]

/-- Rotations about one axis are carried out by adding their angles. -/
theorem axisAngle_times
    {axis : Vec3 T}
    (unit : axis.normSquared = 1)
    (first second : T) :
    (axisAngle axis first).times (axisAngle axis second) =
      axisAngle axis (first + second) := by
  simp only [axisAngle_eq_aboutAxis, aboutAxis_times unit]
  congr 1
  · exact (LawfulAngleSums.cos_add first second).symm
  · rw [LawfulAngleSums.sin_add]
    ring
  · rw [LawfulAngleSums.cos_add]
    ring

/-- A rotation by no angle turns nothing. -/
theorem axisAngle_zero
    (axis : Vec3 T) :
    axisAngle axis 0 = identity := by
  rw [axisAngle_eq_aboutAxis, LawfulAngleSums.cos_zero,
    LawfulAngleSums.sin_zero, sub_self, aboutAxis_one_zero_zero]

variable [LawfulTrigonometry T]

/-- To turn back is to turn by the opposite angle. -/
theorem transpose_axisAngle
    (axis : Vec3 T)
    (angle : T) :
    (axisAngle axis angle).transpose = axisAngle axis (-angle) := by
  rw [axisAngle_eq_aboutAxis, transpose_aboutAxis, axisAngle_eq_aboutAxis,
    LawfulAngleSums.cos_neg, LawfulAngleSums.sin_neg]

end Mat3

namespace Quaternion

variable [LawfulTrigonometry T] [Div T]

/-- The quaternion of a rotation about a unit axis has unit length. -/
theorem normSquared_ofUnitAxis
    {axis : Vec3 T}
    (unit : axis.normSquared = 1)
    (angle : T) :
    (ofUnitAxis axis angle).normSquared = 1 := by
  have circle :=
    LawfulTrigonometry.cos_mul_cos_add_sin_mul_sin (angle / two)
  simp only [Vec3.normSquared, Vec3.dot] at unit
  simp only [ofUnitAxis, normSquared]
  linear_combination
    circle +
      Elementary.sin (angle / two) * Elementary.sin (angle / two) * unit

/-- Half the angle in the quaternion gives the whole angle in the matrix. -/
theorem toMatrix_ofUnitAxis
    [LawfulAngleSums T] [LawfulHalving T]
    {axis : Vec3 T}
    (unit : axis.normSquared = 1)
    (angle : T) :
    (ofUnitAxis axis angle).toMatrix = Mat3.axisAngle axis angle := by
  have circle :=
    LawfulTrigonometry.cos_mul_cos_add_sin_mul_sin (angle / two)
  rw [ofUnitAxis, Mat3.toMatrix_eq_aboutAxis unit,
    Mat3.axisAngle_eq_aboutAxis, ← LawfulAngleSums.cos_of_half,
    ← LawfulAngleSums.sin_of_half]
  congr 1
  rw [LawfulAngleSums.cos_of_half angle]
  generalize angle / two = half at circle ⊢
  rw [two]
  linear_combination circle

end Quaternion

namespace Mat3

variable [LawfulAngleSums T] [LawfulTrigonometry T]

/--
Rotations about a unit axis add up as their angles do: no angle turns nothing,
the opposite angle turns back, and none of them moves the axis.  Each is also
the orientation of a quaternion of unit length, made of the cosine of half the
angle and of the axis times its sine; so a joint turns a frame the way an
offset does.
-/
theorem rotations_about_an_axis_add_up
    [Div T] [LawfulHalving T]
    {axis : Vec3 T}
    (unit : axis.normSquared = 1) :
    (∀ first second : T,
        (axisAngle axis first).times (axisAngle axis second) =
          axisAngle axis (first + second)) ∧
      axisAngle axis 0 = identity ∧
      (∀ angle : T,
        (axisAngle axis angle).transpose = axisAngle axis (-angle)) ∧
      (∀ angle : T, (axisAngle axis angle).apply axis = axis) ∧
      ∀ angle : T,
        (Quaternion.ofUnitAxis axis angle).normSquared = 1 ∧
          (Quaternion.ofUnitAxis axis angle).toMatrix =
            axisAngle axis angle := by
  refine
    ⟨axisAngle_times unit, axisAngle_zero axis, transpose_axisAngle axis,
      axisAngle_apply_axis unit, ?_⟩
  intro angle
  exact
    ⟨Quaternion.normSquared_ofUnitAxis unit angle,
      Quaternion.toMatrix_ofUnitAxis unit angle⟩

/-- Two turns about an axis that tilts, at rates of different sign. -/
theorem rotations_about_an_axis_add_up_tilting :
    ∃ axis : Vec3 (Dual ℝ),
      axis.map Dual.re = ⟨2 / 7, 3 / 7, 6 / 7⟩ ∧
        axis.map Dual.eps = ⟨3, -2, 0⟩ ∧
        axis.normSquared = 1 ∧
        (axisAngle axis ⟨1, 5⟩).times (axisAngle axis ⟨2, -3⟩) =
          axisAngle axis (⟨1, 5⟩ + ⟨2, -3⟩) ∧
        axisAngle axis 0 = identity ∧
        (axisAngle axis ⟨1, 5⟩).transpose = axisAngle axis (-⟨1, 5⟩) ∧
        (axisAngle axis ⟨1, 5⟩).apply axis = axis ∧
        (Quaternion.ofUnitAxis axis ⟨1, 5⟩).normSquared = 1 ∧
        (Quaternion.ofUnitAxis axis ⟨1, 5⟩).toMatrix =
          axisAngle axis ⟨1, 5⟩ := by
  have unit :
      (⟨⟨2 / 7, 3⟩, ⟨3 / 7, -2⟩, ⟨6 / 7, 0⟩⟩ :
        Vec3 (Dual ℝ)).normSquared = 1 := by
    ext <;> simp [Vec3.normSquared, Vec3.dot] <;> norm_num
  obtain ⟨sums, still, back, kept, quaternion⟩ :=
    rotations_about_an_axis_add_up unit
  exact
    ⟨_, rfl, rfl, unit, sums ⟨1, 5⟩ ⟨2, -3⟩, still, back ⟨1, 5⟩,
      kept ⟨1, 5⟩, quaternion ⟨1, 5⟩⟩

end Mat3

end Rotations

end Linkage
