import Linkage.Proofs.Geometry.Algebra

namespace Linkage

/-!
# Matrices that belong to an axis

The identity, the skew matrix of an axis and the projection on the axis span
the matrices that treat all directions across the axis alike.  For an axis of
unit length a product of two of them is one again, so equations between
rotations about the axis are equations between three coefficients.
-/

variable {T : Type} [CommRing T]

namespace Vec3

/-- A vector product is orthogonal to its first factor. -/
theorem dot_self_cross (v w : Vec3 T) :
    v.dot (v.cross w) = 0 := by
  simp only [dot, cross]
  ring

variable {axis : Vec3 T}

/-- Two vector products with a unit axis turn the part across it around. -/
theorem cross_cross_of_unit
    (unit : axis.normSquared = 1)
    (v : Vec3 T) :
    axis.cross (axis.cross v) = axis.scale (axis.dot v) - v := by
  simp only [normSquared, dot] at unit
  ext <;> simp only [cross, scale, dot, x_sub, y_sub, z_sub]
  · linear_combination -v.x * unit
  · linear_combination -v.y * unit
  · linear_combination -v.z * unit

end Vec3

namespace Mat3

/--
A multiple of the identity, of the skew matrix of an axis, and of the
projection on the axis.
-/
def aboutAxis
    (axis : Vec3 T)
    (straight across along : T) : Mat3 T :=
  identity.scale straight + (skew axis).scale across +
    (outer axis axis).scale along

theorem aboutAxis_apply
    (axis v : Vec3 T)
    (straight across along : T) :
    (aboutAxis axis straight across along).apply v =
      v.scale straight + (axis.cross v).scale across +
        axis.scale (axis.dot v * along) := by
  ext <;>
    simp [aboutAxis, apply, identity, skew, outer, scale, Vec3.scale,
      Vec3.cross, Vec3.dot, Vec3.rowTimes_eq] <;>
    ring

theorem transpose_aboutAxis
    (axis : Vec3 T)
    (straight across along : T) :
    (aboutAxis axis straight across along).transpose =
      aboutAxis axis straight (-across) along := by
  ext <;>
    simp [aboutAxis, transpose, identity, skew, outer, scale,
      Vec3.scale] <;>
    ring

theorem aboutAxis_one_zero_zero
    (axis : Vec3 T) :
    aboutAxis axis 1 0 0 = identity := by
  ext <;> simp [aboutAxis, identity, scale, Vec3.scale]

theorem skew_scale_eq_aboutAxis
    (axis : Vec3 T)
    (factor : T) :
    skew (axis.scale factor) = aboutAxis axis 0 factor 0 := by
  ext <;> simp [aboutAxis, identity, skew, scale, Vec3.scale]

/--
Along the axis the matrix multiplies by one number, and across it by a complex
number, whose square of the length counts.
-/
theorem det_aboutAxis
    (axis : Vec3 T)
    (straight across along : T) :
    (aboutAxis axis straight across along).det =
      (straight + along * axis.normSquared) *
        (straight * straight + across * across * axis.normSquared) := by
  simp [det, aboutAxis, identity, skew, outer, scale, Vec3.scale,
    Vec3.normSquared, Vec3.dot, Vec3.cross]
  ring

variable {axis : Vec3 T}

/--
Products of two such matrices.  The first two coefficients multiply like
complex numbers, because the square of the skew matrix of a unit axis is the
projection less the identity.
-/
theorem aboutAxis_times
    (unit : axis.normSquared = 1)
    (p q r s t u : T) :
    (aboutAxis axis p q r).times (aboutAxis axis s t u) =
      aboutAxis axis (p * s - q * t) (p * t + q * s)
        (p * u + q * t + r * (s + u)) := by
  apply ext_apply
  intro v
  have along :
      axis.dot
          (v.scale s + (axis.cross v).scale t +
            axis.scale (axis.dot v * u)) =
        axis.dot v * (s + u) := by
    have orthogonal := Vec3.dot_self_cross axis v
    simp only [Vec3.normSquared, Vec3.dot] at unit
    simp only [Vec3.dot, Vec3.scale, Vec3.x_add, Vec3.y_add,
      Vec3.z_add] at orthogonal ⊢
    linear_combination
      t * orthogonal +
        u * (axis.x * v.x + axis.y * v.y + axis.z * v.z) * unit
  have across :
      axis.cross
          (v.scale s + (axis.cross v).scale t +
            axis.scale (axis.dot v * u)) =
        (axis.cross v).scale s +
          (axis.scale (axis.dot v) - v).scale t := by
    rw [← Vec3.cross_cross_of_unit unit]
    ext <;> simp [Vec3.cross, Vec3.scale] <;> ring
  rw [times_apply, aboutAxis_apply axis v, aboutAxis_apply,
    aboutAxis_apply, along, across]
  ext <;> simp [Vec3.scale] <;> ring

/-- A turn across a unit axis that leaves the axis alone can be turned back. -/
theorem aboutAxis_times_back
    (unit : axis.normSquared = 1)
    {p q r : T}
    (circle : p * p + q * q = 1)
    (whole : p + r = 1) :
    (aboutAxis axis p q r).times (aboutAxis axis p (-q) r) =
      identity := by
  rw [aboutAxis_times unit, ← aboutAxis_one_zero_zero axis]
  congr 1
  · linear_combination circle
  · ring
  · linear_combination (p + r + 1) * whole - circle

/-- The matrix of a quaternion whose vector part lies on a unit axis. -/
theorem toMatrix_eq_aboutAxis
    (unit : axis.normSquared = 1)
    (w v : T) :
    (⟨w, axis.x * v, axis.y * v, axis.z * v⟩ : Quaternion T).toMatrix =
      aboutAxis axis (w * w - v * v) (two * (w * v))
        (two * (v * v)) := by
  simp only [Vec3.normSquared, Vec3.dot] at unit
  ext <;>
    simp [Quaternion.toMatrix, aboutAxis, two, identity, skew, outer,
      scale, Vec3.scale]
  -- Only the entries on the diagonal use that the axis has unit length.
  · linear_combination -(v * v) * unit
  · ring
  · ring
  · ring
  · linear_combination -(v * v) * unit
  · ring
  · ring
  · ring
  · linear_combination -(v * v) * unit

section AxisAngle

variable [Elementary T]

theorem axisAngle_eq_aboutAxis
    (axis : Vec3 T)
    (angle : T) :
    axisAngle axis angle =
      aboutAxis axis (Elementary.cos angle) (Elementary.sin angle)
        (1 - Elementary.cos angle) :=
  rfl

end AxisAngle

end Mat3

end Linkage
