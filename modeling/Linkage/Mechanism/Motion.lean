import Linkage.Mechanism.Basic

namespace Linkage

/-!
# Motion of a frame

The motion of a frame is everything that is known about it at one state: where
it is, how it moves, and how it would accelerate if no coordinate did.  All of
it is expressed in world coordinates.  The motion of a body follows from that
of its parent and from the coordinate and rate of its joint.
-/

/-- World-frame motion of one frame. -/
structure FrameMotion (T : Type) where
  /-- Orientation: the columns are the axes of the frame. -/
  rotation : Mat3 T
  /-- Position of the origin. -/
  origin : Vec3 T
  /-- Angular velocity. -/
  angularVelocity : Vec3 T
  /-- Velocity of the origin. -/
  originVelocity : Vec3 T
  /-- Angular acceleration while no coordinate accelerates. -/
  angularBias : Vec3 T
  /-- Acceleration of the origin while no coordinate accelerates. -/
  originBias : Vec3 T
  /-- Axis of the joint; zero for a fixed joint and for the world. -/
  axis : Vec3 T
  deriving Repr, BEq, DecidableEq

namespace FrameMotion

variable {T : Type}

/-- The world is at rest. -/
def world
    [Zero T] [One T] : FrameMotion T :=
  ⟨Mat3.identity, 0, 0, 0, 0, 0, 0⟩

/-- World position of a point given in the frame. -/
def pointPosition
    [One T] [Add T] [Mul T]
    (motion : FrameMotion T)
    (point : Vec3 T) : Vec3 T :=
  motion.origin + motion.rotation.apply point

/-- Velocity of the point of the frame that is at a world position. -/
def pointVelocity
    [Add T] [Sub T] [Mul T]
    (motion : FrameMotion T)
    (position : Vec3 T) : Vec3 T :=
  motion.originVelocity +
    motion.angularVelocity.cross (position - motion.origin)

/--
Acceleration of the point of the frame that is at a world position, while no
coordinate accelerates.
-/
def pointBias
    [Add T] [Sub T] [Mul T]
    (motion : FrameMotion T)
    (position : Vec3 T) : Vec3 T :=
  let lever := position - motion.origin
  motion.originBias + motion.angularBias.cross lever +
    motion.angularVelocity.cross (motion.angularVelocity.cross lever)

end FrameMotion

/-- What a joint makes of the frame it is attached to. -/
structure JointMotion (T : Type) where
  rotation : Mat3 T
  origin : Vec3 T
  angularVelocity : Vec3 T
  angularBias : Vec3 T
  axis : Vec3 T
  /-- Velocity of the origin relative to the parent frame. -/
  slide : Vec3 T
  deriving Repr, BEq, DecidableEq

namespace JointMotion

variable {K T : Type}

/--
Motion of a joint whose attachment has the given orientation and origin, on a
parent that turns with the given velocity and bias.
-/
def of
    [Zero T] [One T] [Add T] [Sub T] [Neg T] [Mul T]
    [Elementary T] [Constant K T]
    (joint : Joint K)
    (rotation : Mat3 T)
    (origin angularVelocity angularBias : Vec3 T)
    (coordinate rate : T) : JointMotion T :=
  match joint with
  | .fixed =>
      { rotation, origin, angularVelocity, angularBias
        axis := 0
        slide := 0 }
  | .revolute axis =>
      let localAxis : Vec3 T := axis.map Constant.constant
      let worldAxis := rotation.apply localAxis
      { rotation := rotation.times (Mat3.axisAngle localAxis coordinate)
        origin
        angularVelocity := angularVelocity + worldAxis.scale rate
        angularBias :=
          angularBias + (angularVelocity.cross worldAxis).scale rate
        axis := worldAxis
        slide := 0 }
  | .prismatic axis =>
      let worldAxis := rotation.apply (axis.map Constant.constant)
      { rotation
        origin := origin + worldAxis.scale coordinate
        angularVelocity, angularBias
        axis := worldAxis
        slide := worldAxis.scale rate }

end JointMotion

namespace FrameMotion

variable {K T : Type}

/-- Motion of a body, from that of its parent. -/
def follow
    [One K] [Add K] [Sub K] [Mul K]
    [Zero T] [One T] [Add T] [Sub T] [Neg T] [Mul T]
    [Elementary T] [Constant K T]
    (parent : FrameMotion T)
    (body : Body K)
    (coordinate rate : T) : FrameMotion T :=
  let offsetRotation : Mat3 T :=
    body.offset.rotation.toMatrix.map Constant.constant
  let offsetPosition : Vec3 T :=
    body.offset.position.map Constant.constant
  let joint :=
    JointMotion.of body.joint
      (parent.rotation.times offsetRotation)
      (parent.origin + parent.rotation.apply offsetPosition)
      parent.angularVelocity parent.angularBias
      coordinate rate
  let lever := joint.origin - parent.origin
  let turning := parent.angularVelocity
  let twice : T := Constant.constant (two : K)
  { rotation := joint.rotation
    origin := joint.origin
    angularVelocity := joint.angularVelocity
    originVelocity := parent.pointVelocity joint.origin + joint.slide
    angularBias := joint.angularBias
    originBias :=
      parent.originBias + parent.angularBias.cross lever +
        turning.cross (turning.cross lever) +
        (turning.cross joint.slide).scale twice
    axis := joint.axis }

end FrameMotion

end Linkage
