import Linkage.Proofs.Geometry.AboutAxis
import Linkage.Proofs.Geometry.ScalarMap
import Linkage.Proofs.Number.Exact

namespace Linkage

/-!
# Rotations

The orientations of frames are products of the matrices of unit quaternions and
of rotations about unit axes.  All of these are orthogonal and keep the
handedness of space.
-/

variable {T : Type} [CommRing T]

namespace Mat3

/-- An orthogonal matrix that keeps the handedness of space. -/
structure IsRotation (m : Mat3 T) : Prop where
  transpose_times_self : m.transpose.times m = identity
  times_transpose_self : m.times m.transpose = identity
  det_eq_one : m.det = 1

namespace IsRotation

variable {m n : Mat3 T}

theorem identity : (Mat3.identity : Mat3 T).IsRotation where
  transpose_times_self := by simp
  times_transpose_self := by simp
  det_eq_one := by
    simp [det, Mat3.identity, Vec3.dot, Vec3.cross]

theorem times
    (first : m.IsRotation)
    (second : n.IsRotation) :
    (m.times n).IsRotation where
  transpose_times_self := by
    rw [transpose_times, times_assoc, ← times_assoc m.transpose,
      first.transpose_times_self, identity_times,
      second.transpose_times_self]
  times_transpose_self := by
    rw [transpose_times, times_assoc, ← times_assoc n,
      second.times_transpose_self, identity_times,
      first.times_transpose_self]
  det_eq_one := by
    rw [det_times, first.det_eq_one, second.det_eq_one, mul_one]

/-- Turning back is a rotation, too. -/
theorem transpose
    (rotation : m.IsRotation) :
    m.transpose.IsRotation where
  transpose_times_self := rotation.times_transpose_self
  times_transpose_self := rotation.transpose_times_self
  det_eq_one := by
    rw [← rotation.det_eq_one]
    simp only [det, Mat3.transpose, Vec3.dot, Vec3.cross]
    ring

/-- Turning a vector back and forth leaves it as it is. -/
theorem apply_transpose_apply
    (rotation : m.IsRotation)
    (v : Vec3 T) :
    m.transpose.apply (m.apply v) = v := by
  rw [← times_apply, rotation.transpose_times_self, identity_apply]

/-- A vector that is turned back can be turned forth again. -/
theorem apply_apply_transpose
    (rotation : m.IsRotation)
    (v : Vec3 T) :
    m.apply (m.transpose.apply v) = v :=
  rotation.transpose.apply_transpose_apply v

/-- Scalar products do not change when both vectors are turned back. -/
theorem dot_transpose_apply
    (rotation : m.IsRotation)
    (v w : Vec3 T) :
    (m.transpose.apply v).dot (m.transpose.apply w) = v.dot w := by
  have adjoint :
      (m.transpose.apply v).dot (m.transpose.apply w) =
        v.dot ((m.times m.transpose).apply w) := by
    simp [apply, Mat3.times, Mat3.transpose, Vec3.dot, Vec3.rowTimes_eq]
    ring
  rw [adjoint, rotation.times_transpose_self, identity_apply]

/-- A vector that is turned back keeps its length. -/
theorem norm_transpose_apply
    [Elementary T]
    (rotation : m.IsRotation)
    (v : Vec3 T) :
    (m.transpose.apply v).norm = v.norm := by
  rw [Vec3.norm, Vec3.norm, Vec3.normSquared, Vec3.normSquared,
    rotation.dot_transpose_apply]

/-- Scalar products do not change when both vectors are turned. -/
theorem dot_apply
    (rotation : m.IsRotation)
    (v w : Vec3 T) :
    (m.apply v).dot (m.apply w) = v.dot w :=
  rotation.transpose.dot_transpose_apply v w

/-- A vector that is turned keeps the square of its length. -/
theorem normSquared_apply
    (rotation : m.IsRotation)
    (v : Vec3 T) :
    (m.apply v).normSquared = v.normSquared :=
  rotation.dot_apply v v

/-- A vector that is turned keeps its length. -/
theorem norm_apply
    [Elementary T]
    (rotation : m.IsRotation)
    (v : Vec3 T) :
    (m.apply v).norm = v.norm :=
  rotation.transpose.norm_transpose_apply v

/-- Turning two vectors turns their vector product. -/
theorem cross_apply
    (rotation : m.IsRotation)
    (v w : Vec3 T) :
    (m.apply v).cross (m.apply w) = m.apply (v.cross w) := by
  -- The transpose undoes the left side up to the determinant.
  have undone :
      m.transpose.apply ((m.apply v).cross (m.apply w)) =
        (v.cross w).scale m.det := by
    ext <;>
      simp [apply, Mat3.transpose, det, Vec3.dot, Vec3.cross,
        Vec3.scale, Vec3.rowTimes_eq] <;>
      ring
  have unscaled : (v.cross w).scale m.det = v.cross w := by
    ext <;> simp [rotation.det_eq_one, Vec3.scale]
  calc
    (m.apply v).cross (m.apply w) =
        (m.times m.transpose).apply ((m.apply v).cross (m.apply w)) := by
      rw [rotation.times_transpose_self, identity_apply]
    _ = m.apply (v.cross w) := by
      rw [times_apply, undone, unscaled]

/-- A turned skew matrix is the skew matrix of the turned vector. -/
theorem times_skew
    (rotation : m.IsRotation)
    (v : Vec3 T) :
    m.times (skew v) = (skew (m.apply v)).times m := by
  apply ext_apply
  intro w
  rw [times_apply, times_apply, skew_apply, skew_apply,
    rotation.cross_apply]

/-- The image of a rotation under a change of scalars is a rotation. -/
theorem map
    {S : Type} [CommRing S]
    (f : T → S) [PreservesArithmetic f]
    (rotation : m.IsRotation) :
    (m.map f).IsRotation where
  transpose_times_self := by
    rw [← map_transpose, ← map_times, rotation.transpose_times_self,
      map_identity]
  times_transpose_self := by
    rw [← map_transpose, ← map_times, rotation.times_transpose_self,
      map_identity]
  det_eq_one := by
    have mapped : f m.det = (m.map f).det := by
      rw [det, Vec3.apply_dot f, Vec3.map_cross]
      rfl
    rw [← mapped, rotation.det_eq_one,
      PreservesArithmetic.map_one (f := f)]

end IsRotation

section AxisAngle

variable [Elementary T]

/--
A rotation about an axis of unit length is a rotation.  Its coefficients across
the axis lie on the circle, and along the axis it changes nothing.
-/
theorem isRotation_axisAngle
    [LawfulTrigonometry T]
    {axis : Vec3 T}
    (unit : axis.normSquared = 1)
    (angle : T) :
    (axisAngle axis angle).IsRotation := by
  have circle :=
    LawfulTrigonometry.cos_mul_cos_add_sin_mul_sin angle
  have whole :
      Elementary.cos angle + (1 - Elementary.cos angle) = 1 := by
    ring
  rw [axisAngle_eq_aboutAxis]
  constructor
  · rw [← neg_mul_neg (Elementary.sin angle)] at circle
    have back := aboutAxis_times_back unit circle whole
    rwa [neg_neg, ← transpose_aboutAxis] at back
  · rw [transpose_aboutAxis]
    exact aboutAxis_times_back unit circle whole
  · rw [det_aboutAxis, unit, mul_one, mul_one, whole, circle, one_mul]

/-- A rotation about an axis of unit length leaves that axis as it is. -/
theorem axisAngle_apply_axis
    {axis : Vec3 T}
    (unit : axis.normSquared = 1)
    (angle : T) :
    (axisAngle axis angle).apply axis = axis := by
  simp only [Vec3.normSquared, Vec3.dot] at unit
  ext <;>
    simp [axisAngle, apply, identity, skew, outer, scale, Vec3.scale,
      Vec3.rowTimes_eq]
  · linear_combination
      (1 - Elementary.cos angle) * axis.x * unit
  · linear_combination
      (1 - Elementary.cos angle) * axis.y * unit
  · linear_combination
      (1 - Elementary.cos angle) * axis.z * unit

end AxisAngle

end Mat3

namespace Quaternion

/-- The matrix of a quaternion of unit length is a rotation. -/
theorem isRotation_toMatrix
    {q : Quaternion T}
    (unit : q.normSquared = 1) :
    q.toMatrix.IsRotation := by
  simp only [normSquared] at unit
  constructor
  · ext <;>
      simp [toMatrix, two, Mat3.times, Mat3.transpose, Mat3.identity,
        Vec3.rowTimes_eq] <;>
      grind
  · ext <;>
      simp [toMatrix, two, Mat3.times, Mat3.transpose, Mat3.identity,
        Vec3.rowTimes_eq] <;>
      grind
  · simp [toMatrix, two, Mat3.det, Vec3.dot, Vec3.cross]
    grind

end Quaternion

end Linkage
