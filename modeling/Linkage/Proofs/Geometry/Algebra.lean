import Mathlib.Tactic.LinearCombination
import Mathlib.Tactic.Ring
import Linkage.Geometry.Pose

namespace Linkage

/-!
# Vector algebra

Over a commutative ring the products of vectors and matrices obey their usual
laws, because the factors of one that they carry change nothing there.
-/

variable {T : Type} [CommRing T]

namespace Vec3

/-- A product of a row and a column is a scalar product. -/
theorem rowTimes_eq (v w : Vec3 T) :
    v.rowTimes w = v.x * w.x + v.y * w.y + v.z * w.z := by
  simp only [rowTimes]
  ring

@[simp] theorem zero_add (v : Vec3 T) : 0 + v = v := by
  ext <;> simp

@[simp] theorem add_zero (v : Vec3 T) : v + 0 = v := by
  ext <;> simp

@[simp] theorem sub_zero (v : Vec3 T) : v - 0 = v := by
  ext <;> simp

@[simp] theorem sub_self (v : Vec3 T) : v - v = 0 := by
  ext <;> simp

theorem add_comm (v w : Vec3 T) : v + w = w + v := by
  ext <;> simp <;> ring

theorem add_assoc (u v w : Vec3 T) : u + v + w = u + (v + w) := by
  ext <;> simp <;> ring

@[simp] theorem zero_cross (v : Vec3 T) : (0 : Vec3 T).cross v = 0 := by
  ext <;> simp [cross]

@[simp] theorem cross_zero (v : Vec3 T) : v.cross 0 = 0 := by
  ext <;> simp [cross]

@[simp] theorem scale_zero (v : Vec3 T) : v.scale 0 = 0 := by
  ext <;> simp [scale]

@[simp] theorem zero_scale (factor : T) :
    (0 : Vec3 T).scale factor = 0 := by
  ext <;> simp [scale]

theorem add_sub_add (u v w r : Vec3 T) :
    u + v - (w + r) = (u - w) + (v - r) := by
  ext <;> simp <;> ring

theorem cross_sub (u v w : Vec3 T) :
    u.cross (v - w) = u.cross v - u.cross w := by
  ext <;> simp [cross] <;> ring

theorem sub_scale
    (v w : Vec3 T)
    (factor : T) :
    (v - w).scale factor = v.scale factor - w.scale factor := by
  ext <;> simp [scale] <;> ring

theorem eq_of_sub_eq_zero
    {v w : Vec3 T}
    (isZero : v - w = 0) :
    v = w := by
  have components := Vec3.ext_iff.mp isZero
  exact
    Vec3.ext (sub_eq_zero.mp components.1)
      (sub_eq_zero.mp components.2.1) (sub_eq_zero.mp components.2.2)

theorem dot_add (u v w : Vec3 T) :
    u.dot (v + w) = u.dot v + u.dot w := by
  simp only [dot, x_add, y_add, z_add]
  ring

theorem dot_sub (u v w : Vec3 T) :
    u.dot (v - w) = u.dot v - u.dot w := by
  simp only [dot, x_sub, y_sub, z_sub]
  ring

/-- A vector product is orthogonal to its second factor. -/
theorem dot_cross_self (v w : Vec3 T) :
    w.dot (v.cross w) = 0 := by
  simp only [dot, cross]
  ring

end Vec3

namespace Mat3

@[simp] theorem x_add (m n : Mat3 T) : (m + n).x = m.x + n.x := rfl

@[simp] theorem y_add (m n : Mat3 T) : (m + n).y = m.y + n.y := rfl

@[simp] theorem z_add (m n : Mat3 T) : (m + n).z = m.z + n.z := rfl

@[simp] theorem identity_apply (v : Vec3 T) :
    (identity : Mat3 T).apply v = v := by
  ext <;> simp [apply, identity, Vec3.rowTimes_eq]

@[simp] theorem transpose_identity :
    (identity : Mat3 T).transpose = identity := rfl

@[simp] theorem apply_zero (m : Mat3 T) : m.apply 0 = 0 := by
  ext <;> simp [apply, Vec3.rowTimes_eq]

theorem apply_scale
    (m : Mat3 T)
    (v : Vec3 T)
    (factor : T) :
    m.apply (v.scale factor) = (m.apply v).scale factor := by
  ext <;> simp [apply, Vec3.scale, Vec3.rowTimes_eq] <;> ring

theorem apply_add
    (m : Mat3 T)
    (v w : Vec3 T) :
    m.apply (v + w) = m.apply v + m.apply w := by
  ext <;> simp [apply, Vec3.rowTimes_eq] <;> ring

theorem apply_sub
    (m : Mat3 T)
    (v w : Vec3 T) :
    m.apply (v - w) = m.apply v - m.apply w := by
  ext <;> simp [apply, Vec3.rowTimes_eq] <;> ring

theorem times_apply
    (m n : Mat3 T)
    (v : Vec3 T) :
    (m.times n).apply v = m.apply (n.apply v) := by
  ext <;> simp [apply, times, transpose, Vec3.rowTimes_eq] <;> ring

theorem add_times (m n k : Mat3 T) :
    (m + n).times k = m.times k + n.times k := by
  ext <;> simp [times, transpose, Vec3.rowTimes_eq] <;> ring

theorem times_assoc (m n k : Mat3 T) :
    (m.times n).times k = m.times (n.times k) := by
  ext <;> simp [times, transpose, Vec3.rowTimes_eq] <;> ring

@[simp] theorem identity_times (m : Mat3 T) :
    identity.times m = m := by
  ext <;> simp [times, identity, transpose, Vec3.rowTimes_eq]

@[simp] theorem times_identity (m : Mat3 T) :
    m.times identity = m := by
  ext <;> simp [times, identity, transpose, Vec3.rowTimes_eq]

theorem transpose_times (m n : Mat3 T) :
    (m.times n).transpose = n.transpose.times m.transpose := by
  ext <;> simp [times, transpose, Vec3.rowTimes_eq] <;> ring

/-- Determinant, as the product of the first row and the others' product. -/
def det (m : Mat3 T) : T :=
  m.x.dot (m.y.cross m.z)

theorem det_times (m n : Mat3 T) :
    (m.times n).det = m.det * n.det := by
  simp [det, times, transpose, Vec3.dot, Vec3.cross, Vec3.rowTimes_eq]
  ring

/-- The skew matrix of a vector turns products into vector products. -/
theorem skew_apply (v w : Vec3 T) :
    (skew v).apply w = v.cross w := by
  ext <;> simp [apply, skew, Vec3.cross, Vec3.rowTimes_eq] <;> ring

theorem skew_add (v w : Vec3 T) :
    skew (v + w) = skew v + skew w := by
  ext <;> simp [skew] <;> ring

/-- Matrices that turn every vector alike are equal. -/
theorem ext_apply
    {m n : Mat3 T}
    (same : ∀ v, m.apply v = n.apply v) :
    m = n := by
  have first := same ⟨1, 0, 0⟩
  have second := same ⟨0, 1, 0⟩
  have third := same ⟨0, 0, 1⟩
  simp only [apply, Vec3.rowTimes_eq, mul_one, mul_zero, add_zero,
    zero_add, Vec3.mk.injEq] at first second third
  obtain ⟨xx, yx, zx⟩ := first
  obtain ⟨xy, yy, zy⟩ := second
  obtain ⟨xz, yz, zz⟩ := third
  ext <;> assumption

end Mat3

end Linkage
