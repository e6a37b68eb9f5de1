import Linkage.Geometry.Vector

namespace Linkage

/-!
# Frames and joints

Every frame of a mechanism has a number, and the world has number zero.  The
numbers follow the order in which the frames were attached.  A joint says how a
frame moves relative to the place where it is attached.
-/

/-- A frame, by its number.  Frame zero is the world. -/
structure FrameId where
  index : Nat
  deriving Repr, DecidableEq

namespace FrameId

/-- The world frame. -/
def world : FrameId :=
  ⟨0⟩

/-- Whether a frame is the world. -/
def isWorld
    (frame : FrameId) : Bool :=
  frame.index == 0

/-- Text of a frame in messages. -/
def text
    (frame : FrameId) : String :=
  "Frame(" ++ toString frame.index ++ ")"

/-- Frames in the order of their numbers. -/
def sort
    (frames : List FrameId) : List FrameId :=
  frames.mergeSort (fun first second => first.index ≤ second.index)

end FrameId

/-- A joint; a moving one has an axis in the frame it is attached to. -/
inductive Joint (K : Type) where
  /-- Rigid attachment. -/
  | fixed
  /-- Rotation about an axis through the origin. -/
  | revolute (axis : Vec3 K)
  /-- A slide along an axis. -/
  | prismatic (axis : Vec3 K)
  deriving Repr, BEq, DecidableEq

namespace Joint

variable {K : Type}

/-- Number of coordinates of a joint. -/
def freedom : Joint K → Nat
  | .fixed => 0
  | .revolute _ => 1
  | .prismatic _ => 1

/-- The axis of a moving joint. -/
def axis? : Joint K → Option (Vec3 K)
  | .fixed => none
  | .revolute axis => some axis
  | .prismatic axis => some axis

/-- Least length from which an axis counts as having a direction. -/
def axisThreshold
    [OfScientific K] : K :=
  1e-12

/-- An axis scaled to unit length, if its length is finite and not tiny. -/
def unitAxis?
    [Zero K] [Add K] [Sub K] [Mul K] [Div K] [OfScientific K]
    [BEq K] [LT K] [DecidableLT K] [Elementary K]
    (axis : Vec3 K) : Option (Vec3 K) :=
  let length := axis.norm
  if isFinite length && decide (axisThreshold < length) then
    some (axis.divide length)
  else
    none

/-- The same joint with an axis of unit length. -/
def normalize?
    [Zero K] [Add K] [Sub K] [Mul K] [Div K] [OfScientific K]
    [BEq K] [LT K] [DecidableLT K] [Elementary K] :
    Joint K → Option (Joint K)
  | .fixed => some .fixed
  | .revolute axis => (unitAxis? axis).map .revolute
  | .prismatic axis => (unitAxis? axis).map .prismatic

end Joint

end Linkage
