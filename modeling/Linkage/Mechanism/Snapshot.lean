import Linkage.Mechanism.Motion

namespace Linkage

/-!
# Snapshots

A snapshot holds the motion of every frame at one state, computed in a single
pass over the bodies.  It remembers the revision of the mechanism it was taken
of, so that no other mechanism is ever read with it.
-/

/-- The motion of all frames of a mechanism at one state. -/
structure Snapshot (T : Type) where
  /-- Revision of the mechanism. -/
  revision : Nat
  /-- Coordinates. -/
  positions : List T
  /-- Rates of the coordinates. -/
  velocities : List T
  /-- Motion of each frame, the world first. -/
  frames : List (FrameMotion T)
  deriving Repr, BEq, DecidableEq

/-- Motion of a frame, if it exists. -/
def Snapshot.motion?
    {T : Type}
    (snapshot : Snapshot T)
    (frame : FrameId) : Option (FrameMotion T) :=
  snapshot.frames[frame.index]?

namespace Mechanism

variable {K T : Type}

/-- Coordinate and rate of a body; both are zero for one without. -/
def coordinateOf
    [Zero T]
    (positions velocities : List T)
    (dof : Option Nat) : Except Misuse (T × T) :=
  match dof with
  | none => .ok (0, 0)
  | some index => do
      let position ← entry positions index
      let velocity ← entry velocities index
      return (position, velocity)

/-- Append the motion of each body to those of the frames before it. -/
def sweep
    [One K] [Add K] [Sub K] [Mul K]
    [Zero T] [One T] [Add T] [Sub T] [Neg T] [Mul T]
    [Elementary T] [Constant K T]
    (positions velocities : List T) :
    List (Body K) → List (FrameMotion T) →
      Except Misuse (List (FrameMotion T))
  | [], frames => .ok frames
  | body :: rest, frames => do
      let parent ← entry frames body.parent.index
      let (coordinate, rate) ←
        coordinateOf positions velocities body.dof
      sweep positions velocities rest
        (frames ++ [parent.follow body coordinate rate])

/--
Take a snapshot.  Positions of the wrong length are refused first, then
velocities.
-/
def snapshot
    [One K] [Add K] [Sub K] [Mul K]
    [Zero T] [One T] [Add T] [Sub T] [Neg T] [Mul T]
    [Elementary T] [Constant K T]
    (mechanism : Mechanism K)
    (positions velocities : List T) :
    Except (Failure K) (Snapshot T) :=
  if positions.length ≠ mechanism.dofCount then
    .error (.refused
      (.dimensionMismatch .positions
        mechanism.dofCount positions.length))
  else if velocities.length ≠ mechanism.dofCount then
    .error (.refused
      (.dimensionMismatch .velocities
        mechanism.dofCount velocities.length))
  else do
    let frames ←
      sweep positions velocities mechanism.bodies [FrameMotion.world]
    return ⟨mechanism.revision, positions, velocities, frames⟩

end Mechanism

end Linkage
