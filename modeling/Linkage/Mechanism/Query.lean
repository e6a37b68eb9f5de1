import Linkage.Geometry.Linear
import Linkage.Mechanism.Snapshot

namespace Linkage

/-!
# Reading a mechanism at a state

Positions, Jacobians and bias accelerations of points.  A Jacobian maps rates
of coordinates to the velocity of a point; the bias acceleration is what
remains of its acceleration while no coordinate accelerates.

A query accepts only a snapshot of the mechanism as it is now, and only frames
of it.
-/

namespace Mechanism

variable {K T : Type}

/-- The snapshot has to be one of this mechanism as it is now. -/
def checkSnapshot
    (mechanism : Mechanism K)
    (snapshot : Snapshot T) : Except Misuse Unit :=
  if snapshot.revision = mechanism.revision then
    .ok ()
  else
    .error .foreignSnapshot

/-- The frame has to be one of this mechanism. -/
def checkFrame
    (mechanism : Mechanism K)
    (frame : FrameId) : Except Misuse Unit :=
  if mechanism.contains frame then
    .ok ()
  else
    .error (.unknownFrame frame mechanism.frameCount)

/-- Coordinates after moving at constant rates for some time. -/
def advance
    [Add T] [Mul T]
    (positions velocities : List T)
    (duration : T) : Except Misuse (List T) :=
  addScaled positions velocities duration

/-- A world vector in the coordinates of a frame. -/
def express
    [One T] [Add T] [Mul T]
    (snapshot : Snapshot T)
    (frame : FrameId)
    (vector : Vec3 T) : Except Misuse (Vec3 T) :=
  if frame.isWorld then
    .ok vector
  else do
    let motion ← entry snapshot.frames frame.index
    return motion.rotation.transpose.apply vector

/-- Position of a point of one frame, seen from another. -/
def pointPosition
    [One T] [Add T] [Sub T] [Mul T]
    (mechanism : Mechanism K)
    (snapshot : Snapshot T)
    (frame : FrameId)
    (point : Vec3 T)
    (expressedIn : FrameId) : Except Misuse (Vec3 T) := do
  mechanism.checkSnapshot snapshot
  mechanism.checkFrame frame
  mechanism.checkFrame expressedIn
  let motion ← entry snapshot.frames frame.index
  let target ← entry snapshot.frames expressedIn.index
  express snapshot expressedIn
    (motion.pointPosition point - target.origin)

/--
Velocity that a unit rate of one joint gives to the point at a world position,
when the joint carries that point.
-/
def jointColumn
    [Zero T] [Sub T] [Mul T]
    (joint : Joint K)
    (motion : FrameMotion T)
    (position : Vec3 T) : Vec3 T :=
  match joint with
  | .fixed => 0
  | .revolute _ => motion.axis.cross (position - motion.origin)
  | .prismatic _ => motion.axis

/-- Write the column of each joint of a chain at its coordinate. -/
def writeColumns
    [Zero T] [Sub T] [Mul T]
    (snapshot : Snapshot T)
    (position : Vec3 T) :
    List (Nat × Body K) → Columns T → Except Misuse (Columns T)
  | [], columns => .ok columns
  | (index, body) :: rest, columns =>
      match body.dof with
      | none => writeColumns snapshot position rest columns
      | some dof => do
          let motion ← entry snapshot.frames index
          if dof < columns.length then
            writeColumns snapshot position rest
              (columns.set dof (jointColumn body.joint motion position))
          else
            .error .indexOutOfRange

/-- World Jacobian of the point of a frame that is at a world position. -/
def worldJacobian
    [Zero T] [Sub T] [Mul T]
    (mechanism : Mechanism K)
    (snapshot : Snapshot T)
    (frame : FrameId)
    (position : Vec3 T) : Except Misuse (Columns T) :=
  match mechanism.chain? frame.index with
  | none => .error .brokenChain
  | some chain =>
      writeColumns snapshot position chain
        (Columns.zeros mechanism.dofCount)

/--
Jacobian of a point of one frame: its velocity relative to the frame it is
measured in, expressed in a third.
-/
def pointJacobian
    [Zero T] [One T] [Add T] [Sub T] [Mul T]
    (mechanism : Mechanism K)
    (snapshot : Snapshot T)
    (frame : FrameId)
    (point : Vec3 T)
    (measuredIn expressedIn : FrameId) :
    Except Misuse (Columns T) := do
  mechanism.checkSnapshot snapshot
  mechanism.checkFrame frame
  mechanism.checkFrame measuredIn
  mechanism.checkFrame expressedIn
  let motion ← entry snapshot.frames frame.index
  let position := motion.pointPosition point
  let own ← mechanism.worldJacobian snapshot frame position
  let relative ←
    if measuredIn.isWorld then
      pure own
    else
      own.subtract <$>
        mechanism.worldJacobian snapshot measuredIn position
  if expressedIn.isWorld then
    return relative
  else
    let target ← entry snapshot.frames expressedIn.index
    return relative.rotate target.rotation.transpose

/-- Bias acceleration of a point of one frame, expressed in another. -/
def pointBias
    [One T] [Add T] [Sub T] [Mul T]
    (mechanism : Mechanism K)
    (snapshot : Snapshot T)
    (frame : FrameId)
    (point : Vec3 T)
    (expressedIn : FrameId) : Except Misuse (Vec3 T) := do
  mechanism.checkSnapshot snapshot
  mechanism.checkFrame frame
  mechanism.checkFrame expressedIn
  let motion ← entry snapshot.frames frame.index
  express snapshot expressedIn
    (motion.pointBias (motion.pointPosition point))

end Mechanism

end Linkage
