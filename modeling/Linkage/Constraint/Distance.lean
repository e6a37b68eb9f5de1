import Linkage.Constraint.Basic

namespace Linkage

/-!
# Distance constraints

Two points, each fixed in a frame, are to keep a target distance.  The one row
of the constraint is the actual distance less the target.

Value and Jacobian are computed from the position and the velocity of the first
point relative to the second frame; the bias is computed from both points in
world coordinates.
-/

/-- A distance to be kept between two points. -/
structure Distance (K : Type) where
  name : String
  model : Model K
  pointA : Vec3 K
  frameA : FrameId
  pointB : Vec3 K
  frameB : FrameId
  target : K
  rows : RowMask
  deriving Repr

namespace Distance

variable {K T : Type}

/--
A distance constraint on a model.  Both frames have to exist, and all numbers
have to be finite; a negative target is accepted.
-/
def create
    [Zero K] [Sub K] [BEq K]
    (model : Model K)
    (pointA : Vec3 K)
    (frameA : FrameId)
    (pointB : Vec3 K)
    (frameB : FrameId)
    (target : K) : Except (Refusal K) (Distance K) :=
  if !model.mechanism.contains frameA then
    .error (.frameNotFound frameA)
  else if !model.mechanism.contains frameB then
    .error (.frameNotFound frameB)
  else if !isFinite target then
    .error (.invalidConfiguration (.distance target))
  else if !(pointA.allFinite && pointB.allFinite) then
    .error (.invalidConfiguration .distancePoints)
  else
    .ok
      { name := "distance"
        model, pointA, frameA, pointB, frameB, target
        rows := .all 1 }

/-- Whether no state can ever satisfy the constraint. -/
def isUnsatisfiable
    [Zero K] [LT K] [DecidableLT K]
    (distance : Distance K) : Bool :=
  decide (distance.target < 0)

/-- The same constraint under another name. -/
def withName
    (distance : Distance K)
    (name : String) : Distance K :=
  { distance with name }

/-- The same constraint with the given rows taking part. -/
def withActiveRows
    (distance : Distance K)
    (indices : List Nat) : Except (Refusal K) (Distance K) := do
  let rows ← RowMask.ofIndices 1 indices
  return { distance with rows }

/-- Position of the first point relative to the second, in the second frame. -/
def separation
    [One T] [Add T] [Sub T] [Mul T] [Constant K T]
    (distance : Distance K)
    (snapshot : Snapshot T) : Except Misuse (Vec3 T) := do
  let position ←
    distance.model.mechanism.pointPosition snapshot
      distance.frameA (distance.pointA.map Constant.constant)
      distance.frameB
  return position - distance.pointB.map Constant.constant

/-- Actual distance less the target. -/
def residual
    [One T] [Add T] [Sub T] [Mul T] [Elementary T] [Constant K T]
    (distance : Distance K)
    (snapshot : Snapshot T) : Except Misuse (List T) := do
  let separation ← distance.separation snapshot
  return [separation.norm - Constant.constant distance.target]

/--
The separation times the Jacobian of the first point, measured and expressed in
the second frame, divided by the distance.
-/
def jacobian
    [Zero T] [One T] [Add T] [Sub T] [Mul T] [Div T]
    [Elementary T] [Constant K T]
    (distance : Distance K)
    (snapshot : Snapshot T) : Except Misuse (List (List T)) := do
  let separation ← distance.separation snapshot
  let columns ←
    distance.model.mechanism.pointJacobian snapshot
      distance.frameA (distance.pointA.map Constant.constant)
      distance.frameB distance.frameB
  return [divideVector (columns.project separation) separation.norm]

/--
The part of the second derivative of a distance that does not depend on
accelerations.  `separation`, `velocity` and `acceleration` are the relative
position, velocity and bias acceleration of the two points.
-/
def biasOf
    [Add T] [Sub T] [Mul T] [Div T] [Elementary T]
    (separation velocity acceleration : Vec3 T) : T :=
  let length := separation.norm
  let along := separation.dot velocity
  let rate := along / length
  velocity.normSquared / length +
    separation.dot acceleration / length -
      rate * along / (length * length)

/-- Bias of the one row, from both points in world coordinates. -/
def bias
    [Zero T] [One T] [Add T] [Sub T] [Mul T] [Div T]
    [Elementary T] [Constant K T]
    (distance : Distance K)
    (snapshot : Snapshot T) : Except Misuse (List T) := do
  let mechanism := distance.model.mechanism
  let pointA : Vec3 T := distance.pointA.map Constant.constant
  let pointB : Vec3 T := distance.pointB.map Constant.constant
  let positionA ←
    mechanism.pointPosition snapshot distance.frameA pointA .world
  let positionB ←
    mechanism.pointPosition snapshot distance.frameB pointB .world
  let columnsA ←
    mechanism.pointJacobian snapshot distance.frameA pointA .world .world
  let columnsB ←
    mechanism.pointJacobian snapshot distance.frameB pointB .world .world
  let biasA ←
    mechanism.pointBias snapshot distance.frameA pointA .world
  let biasB ←
    mechanism.pointBias snapshot distance.frameB pointB .world
  let velocity ←
    (columnsA.subtract columnsB).timesVector snapshot.velocities
  return [biasOf (positionA - positionB) velocity (biasA - biasB)]

/-- The distance as a constraint. -/
def toConstraint
    [Zero T] [One T] [Add T] [Sub T] [Mul T] [Div T]
    [Elementary T] [Constant K T]
    (distance : Distance K) : Constraint K T where
  name := distance.name
  model := distance.model
  rows := distance.rows
  residual := distance.residual
  jacobian := distance.jacobian
  bias := distance.bias

end Distance

end Linkage
