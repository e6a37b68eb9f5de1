import Linkage.Geometry.Vector

namespace Linkage

/-!
# Orientations and placements

A frame stands in another one with its origin at a point and with an
orientation.  A fixed orientation is stored as a quaternion.  Its matrix is
computed from the four numbers as they stand, so a quaternion that is not of
unit length gives a matrix that also scales.  Two quaternions that differ by
their sign describe the same orientation.
-/

/-- A quaternion `w + x i + y j + z k`. -/
@[ext] structure Quaternion (K : Type) where
  w : K
  x : K
  y : K
  z : K
  deriving Repr, DecidableEq

namespace Quaternion

variable {K : Type}

/-- The orientation that changes nothing. -/
def identity
    [Zero K] [One K] : Quaternion K :=
  ⟨1, 0, 0, 0⟩

instance [Neg K] : Neg (Quaternion K) where
  neg q := ⟨-q.w, -q.x, -q.y, -q.z⟩

/-- Whether four components agree. -/
def sameComponents
    [BEq K]
    (first second : Quaternion K) : Bool :=
  first.w == second.w && first.x == second.x &&
    first.y == second.y && first.z == second.z

/-- Quaternions are equal when they agree up to their common sign. -/
instance [Neg K] [BEq K] : BEq (Quaternion K) where
  beq first second :=
    first.sameComponents second || first.sameComponents (-second)

/--
Square of the length.  The squares are added in two pairs, which settles how
the sum is rounded.
-/
def normSquared
    [Add K] [Mul K]
    (q : Quaternion K) : K :=
  (q.x * q.x + q.z * q.z) + (q.y * q.y + q.w * q.w)

/-- The quaternion divided by its length. -/
def normalize
    [Add K] [Mul K] [Div K] [Elementary K]
    (q : Quaternion K) : Quaternion K :=
  let length := Elementary.sqrt q.normSquared
  ⟨q.w / length, q.x / length, q.y / length, q.z / length⟩

/-- Roll about x, then pitch about y, then yaw about z. -/
def ofEuler
    [One K] [Add K] [Sub K] [Mul K] [Div K] [Elementary K]
    (roll pitch yaw : K) : Quaternion K :=
  let sr := Elementary.sin (roll / two)
  let cr := Elementary.cos (roll / two)
  let sp := Elementary.sin (pitch / two)
  let cp := Elementary.cos (pitch / two)
  let sy := Elementary.sin (yaw / two)
  let cy := Elementary.cos (yaw / two)
  ⟨cr * cp * cy + sr * sp * sy,
    sr * cp * cy - cr * sp * sy,
    cr * sp * cy + sr * cp * sy,
    cr * cp * sy - sr * sp * cy⟩

/-- Rotation by an angle about an axis of unit length. -/
def ofUnitAxis
    [One K] [Add K] [Mul K] [Div K] [Elementary K]
    (axis : Vec3 K)
    (angle : K) : Quaternion K :=
  let sine := Elementary.sin (angle / two)
  ⟨Elementary.cos (angle / two),
    axis.x * sine, axis.y * sine, axis.z * sine⟩

/-- Rotation by an angle about an axis of any length. -/
def ofAxisAngle
    [One K] [Add K] [Mul K] [Div K] [Elementary K]
    (axis : Vec3 K)
    (angle : K) : Quaternion K :=
  ofUnitAxis (axis.divide axis.norm) angle

/-- The matrix of the orientation. -/
def toMatrix
    [One K] [Add K] [Sub K] [Mul K]
    (q : Quaternion K) : Mat3 K :=
  let ww := q.w * q.w
  let ii := q.x * q.x
  let jj := q.y * q.y
  let kk := q.z * q.z
  let ij := q.x * q.y * two
  let wk := q.w * q.z * two
  let wj := q.w * q.y * two
  let ik := q.x * q.z * two
  let jk := q.y * q.z * two
  let wi := q.w * q.x * two
  ⟨⟨ww + ii - jj - kk, ij - wk, wj + ik⟩,
    ⟨wk + ij, ww - ii + jj - kk, jk - wi⟩,
    ⟨ik - wj, wi + jk, ww - ii - jj + kk⟩⟩

/-- Whether every component is finite. -/
def allFinite
    [Zero K] [Sub K] [BEq K]
    (q : Quaternion K) : Bool :=
  isFinite q.w && isFinite q.x && isFinite q.y && isFinite q.z

end Quaternion

/-- Where one frame stands in another: its origin and its orientation. -/
structure Pose (K : Type) where
  position : Vec3 K
  rotation : Quaternion K
  deriving Repr, DecidableEq

namespace Pose

variable {K : Type}

/-- The placement of a frame in itself. -/
def identity
    [Zero K] [One K] : Pose K :=
  ⟨0, Quaternion.identity⟩

/-- Poses are equal when position and orientation are. -/
instance [Neg K] [BEq K] : BEq (Pose K) where
  beq first second :=
    first.position == second.position &&
      first.rotation == second.rotation

/-- Whether all seven numbers are finite. -/
def allFinite
    [Zero K] [Sub K] [BEq K]
    (pose : Pose K) : Bool :=
  pose.position.allFinite && pose.rotation.allFinite

end Pose

end Linkage
