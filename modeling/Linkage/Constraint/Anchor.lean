import Linkage.Constraint.Basic

namespace Linkage

/-!
# Anchors

An anchor pins a point, fixed in a frame, to a place in the world.  Its three
rows are the components of the point's displacement from that place, taken
along the columns of a view rotation.
-/

/-- A point pinned to a place in the world. -/
structure Anchor (K : Type) where
  name : String
  model : Model K
  point : Vec3 K
  frame : FrameId
  target : Vec3 K
  view : Quaternion K
  rows : RowMask
  deriving Repr

namespace Anchor

variable {K T : Type}

/--
An anchor at the world origin, seen along the world axes.  The frame has to
exist and the point has to be finite.
-/
def create
    [Zero K] [One K] [Sub K] [BEq K]
    (model : Model K)
    (point : Vec3 K)
    (frame : FrameId) : Except (Refusal K) (Anchor K) :=
  if !model.mechanism.contains frame then
    .error (.frameNotFound frame)
  else if !point.allFinite then
    .error (.invalidConfiguration .contactPoint)
  else
    .ok
      { name := "world_point"
        model, point, frame
        target := 0
        view := .identity
        rows := .all 3 }

/-- The same anchor under another name. -/
def withName
    (anchor : Anchor K)
    (name : String) : Anchor K :=
  { anchor with name }

/-- The same point pinned to another place, which has to be finite. -/
def withTarget
    [Zero K] [Sub K] [BEq K]
    (anchor : Anchor K)
    (target : Vec3 K) : Except (Refusal K) (Anchor K) :=
  if target.allFinite then
    .ok { anchor with target }
  else
    .error (.invalidConfiguration .contactTarget)

/-- The same anchor with its rows along the columns of a rotation. -/
def withView
    (anchor : Anchor K)
    (view : Quaternion K) : Anchor K :=
  { anchor with view }

/-- The same anchor with the given rows taking part. -/
def withActiveRows
    (anchor : Anchor K)
    (indices : List Nat) : Except (Refusal K) (Anchor K) := do
  let rows ← RowMask.ofIndices 3 indices
  return { anchor with rows }

/-- The matrix that turns a world vector into rows. -/
def viewMatrix
    [One K] [Add K] [Sub K] [Mul K] [Constant K T]
    (anchor : Anchor K) : Mat3 T :=
  anchor.view.toMatrix.transpose.map Constant.constant

/-- Displacement of the point from its target, along the view. -/
def residual
    [One K] [Add K] [Sub K] [Mul K]
    [One T] [Add T] [Sub T] [Mul T] [Constant K T]
    (anchor : Anchor K)
    (snapshot : Snapshot T) : Except Misuse (List T) := do
  let position ←
    anchor.model.mechanism.pointPosition snapshot
      anchor.frame (anchor.point.map Constant.constant) .world
  let displacement :=
    position - anchor.target.map Constant.constant
  return (anchor.viewMatrix.apply displacement).toList

/-- World Jacobian of the point, along the view. -/
def jacobian
    [One K] [Add K] [Sub K] [Mul K]
    [Zero T] [One T] [Add T] [Sub T] [Mul T] [Constant K T]
    (anchor : Anchor K)
    (snapshot : Snapshot T) : Except Misuse (List (List T)) := do
  let columns ←
    anchor.model.mechanism.pointJacobian snapshot
      anchor.frame (anchor.point.map Constant.constant) .world .world
  return (columns.rotate anchor.viewMatrix).toRows

/-- Bias acceleration of the point, along the view. -/
def bias
    [One K] [Add K] [Sub K] [Mul K]
    [One T] [Add T] [Sub T] [Mul T] [Constant K T]
    (anchor : Anchor K)
    (snapshot : Snapshot T) : Except Misuse (List T) := do
  let acceleration ←
    anchor.model.mechanism.pointBias snapshot
      anchor.frame (anchor.point.map Constant.constant) .world
  return (anchor.viewMatrix.apply acceleration).toList

/-- The anchor as a constraint. -/
def toConstraint
    [One K] [Add K] [Sub K] [Mul K]
    [Zero T] [One T] [Add T] [Sub T] [Mul T] [Constant K T]
    (anchor : Anchor K) : Constraint K T where
  name := anchor.name
  model := anchor.model
  rows := anchor.rows
  residual := anchor.residual
  jacobian := anchor.jacobian
  bias := anchor.bias

end Anchor

end Linkage
