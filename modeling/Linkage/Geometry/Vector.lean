import Linkage.Number.Basic

namespace Linkage

/-!
# Vectors and matrices of space

Points, directions and velocities are triples; orientations are three by three
matrices.  A product of a row and a column multiplies each term and each
partial sum by one.  On a ring that changes nothing; on a floating-point type
it settles which results are not numbers.
-/

/-- A vector with three components. -/
@[ext] structure Vec3 (T : Type) where
  x : T
  y : T
  z : T
  deriving Repr, BEq, DecidableEq

/-- A three by three matrix, given by its rows. -/
@[ext] structure Mat3 (T : Type) where
  x : Vec3 T
  y : Vec3 T
  z : Vec3 T
  deriving Repr, BEq, DecidableEq

namespace Vec3

variable {S T : Type}

/-- Apply a function to each component. -/
def map
    (f : S → T)
    (v : Vec3 S) : Vec3 T :=
  ⟨f v.x, f v.y, f v.z⟩

/-- Components in order. -/
def toList
    (v : Vec3 T) : List T :=
  [v.x, v.y, v.z]

instance [Zero T] : Zero (Vec3 T) where
  zero := ⟨0, 0, 0⟩

instance [Add T] : Add (Vec3 T) where
  add v w := ⟨v.x + w.x, v.y + w.y, v.z + w.z⟩

instance [Sub T] : Sub (Vec3 T) where
  sub v w := ⟨v.x - w.x, v.y - w.y, v.z - w.z⟩

/-- Multiply each component by a number. -/
def scale
    [Mul T]
    (v : Vec3 T)
    (factor : T) : Vec3 T :=
  ⟨v.x * factor, v.y * factor, v.z * factor⟩

/-- Divide each component by a number. -/
def divide
    [Div T]
    (v : Vec3 T)
    (divisor : T) : Vec3 T :=
  ⟨v.x / divisor, v.y / divisor, v.z / divisor⟩

/-- Scalar product. -/
def dot
    [Add T] [Mul T]
    (v w : Vec3 T) : T :=
  v.x * w.x + v.y * w.y + v.z * w.z

/-- Vector product. -/
def cross
    [Sub T] [Mul T]
    (v w : Vec3 T) : Vec3 T :=
  ⟨v.y * w.z - v.z * w.y,
    v.z * w.x - v.x * w.z,
    v.x * w.y - v.y * w.x⟩

/-- Square of the length. -/
def normSquared
    [Add T] [Mul T]
    (v : Vec3 T) : T :=
  v.dot v

/-- Length. -/
def norm
    [Add T] [Mul T] [Elementary T]
    (v : Vec3 T) : T :=
  Elementary.sqrt v.normSquared

/-- Whether every component is finite. -/
def allFinite
    [Zero T] [Sub T] [BEq T]
    (v : Vec3 T) : Bool :=
  isFinite v.x && isFinite v.y && isFinite v.z

/-- Product of a row and a column, summed from the first component on. -/
def rowTimes
    [One T] [Add T] [Mul T]
    (row column : Vec3 T) : T :=
  1 * row.z * column.z +
    1 * (1 * row.y * column.y + 1 * (1 * row.x * column.x))

@[simp] theorem x_zero [Zero T] : (0 : Vec3 T).x = 0 := rfl

@[simp] theorem y_zero [Zero T] : (0 : Vec3 T).y = 0 := rfl

@[simp] theorem z_zero [Zero T] : (0 : Vec3 T).z = 0 := rfl

@[simp] theorem x_add [Add T] (v w : Vec3 T) : (v + w).x = v.x + w.x := rfl

@[simp] theorem y_add [Add T] (v w : Vec3 T) : (v + w).y = v.y + w.y := rfl

@[simp] theorem z_add [Add T] (v w : Vec3 T) : (v + w).z = v.z + w.z := rfl

@[simp] theorem x_sub [Sub T] (v w : Vec3 T) : (v - w).x = v.x - w.x := rfl

@[simp] theorem y_sub [Sub T] (v w : Vec3 T) : (v - w).y = v.y - w.y := rfl

@[simp] theorem z_sub [Sub T] (v w : Vec3 T) : (v - w).z = v.z - w.z := rfl

end Vec3

namespace Mat3

variable {S T : Type}

/-- Apply a function to each entry. -/
def map
    (f : S → T)
    (m : Mat3 S) : Mat3 T :=
  ⟨m.x.map f, m.y.map f, m.z.map f⟩

/-- Rows in order. -/
def toRows
    (m : Mat3 T) : List (List T) :=
  [m.x.toList, m.y.toList, m.z.toList]

/-- The identity matrix. -/
def identity
    [Zero T] [One T] : Mat3 T :=
  ⟨⟨1, 0, 0⟩, ⟨0, 1, 0⟩, ⟨0, 0, 1⟩⟩

/-- Exchange rows and columns. -/
def transpose
    (m : Mat3 T) : Mat3 T :=
  ⟨⟨m.x.x, m.y.x, m.z.x⟩,
    ⟨m.x.y, m.y.y, m.z.y⟩,
    ⟨m.x.z, m.y.z, m.z.z⟩⟩

instance [Add T] : Add (Mat3 T) where
  add m n := ⟨m.x + n.x, m.y + n.y, m.z + n.z⟩

/-- Multiply each entry by a number. -/
def scale
    [Mul T]
    (m : Mat3 T)
    (factor : T) : Mat3 T :=
  ⟨m.x.scale factor, m.y.scale factor, m.z.scale factor⟩

/-- Product of a matrix and a column. -/
def apply
    [One T] [Add T] [Mul T]
    (m : Mat3 T)
    (v : Vec3 T) : Vec3 T :=
  ⟨m.x.rowTimes v, m.y.rowTimes v, m.z.rowTimes v⟩

/-- Product of two matrices. -/
def times
    [One T] [Add T] [Mul T]
    (m n : Mat3 T) : Mat3 T :=
  let columns := n.transpose
  let row (v : Vec3 T) : Vec3 T :=
    ⟨v.rowTimes columns.x, v.rowTimes columns.y, v.rowTimes columns.z⟩
  ⟨row m.x, row m.y, row m.z⟩

/-- The matrix whose product with `w` is the vector product of `v` and `w`. -/
def skew
    [Zero T] [Neg T]
    (v : Vec3 T) : Mat3 T :=
  ⟨⟨0, -v.z, v.y⟩, ⟨v.z, 0, -v.x⟩, ⟨-v.y, v.x, 0⟩⟩

/-- The matrix of all products of a component of `v` and one of `w`. -/
def outer
    [One T] [Mul T]
    (v w : Vec3 T) : Mat3 T :=
  ⟨⟨1 * v.x * w.x, 1 * v.x * w.y, 1 * v.x * w.z⟩,
    ⟨1 * v.y * w.x, 1 * v.y * w.y, 1 * v.y * w.z⟩,
    ⟨1 * v.z * w.x, 1 * v.z * w.y, 1 * v.z * w.z⟩⟩

/--
Rotation by an angle about a unit axis: a multiple of the identity, of the
skew matrix of the axis, and of the projection on the axis.
-/
def axisAngle
    [Zero T] [One T] [Add T] [Sub T] [Neg T] [Mul T] [Elementary T]
    (axis : Vec3 T)
    (angle : T) : Mat3 T :=
  let sine := Elementary.sin angle
  let cosine := Elementary.cos angle
  identity.scale cosine + (skew axis).scale sine +
    (outer axis axis).scale (1 - cosine)

end Mat3

end Linkage
