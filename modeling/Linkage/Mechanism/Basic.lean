import Linkage.Error
import Linkage.Geometry.Pose
import Linkage.Mechanism.Joint

namespace Linkage

/-!
# Mechanisms

A mechanism is a tree of frames.  Frame zero is the world; body `i` of the list
is frame `i + 1` and hangs from an earlier frame by a joint.  The joints that
move share the coordinates of the mechanism out among themselves in the order
in which their bodies were attached.

A mechanism carries a revision, which is renewed whenever a body is attached.
Two mechanisms with one revision have one shape.
-/

/-- A frame together with the joint that moves it. -/
structure Body (K : Type) where
  /-- Name of the frame. -/
  name : String
  /-- The frame it hangs from. -/
  parent : FrameId
  /-- How it moves. -/
  joint : Joint K
  /-- Where the joint sits in the parent frame. -/
  offset : Pose K
  /-- Its coordinate among those of the mechanism. -/
  dof : Option Nat
  deriving Repr, DecidableEq

/-- Bodies are equal when all their parts are. -/
instance {K : Type} [Neg K] [BEq K] : BEq (Body K) where
  beq first second :=
    first.name == second.name && first.parent == second.parent &&
      first.joint == second.joint && first.offset == second.offset &&
      first.dof == second.dof

/-- A tree of frames. -/
structure Mechanism (K : Type) where
  /-- Bodies in the order in which they were attached. -/
  bodies : List (Body K)
  /-- Number of coordinates. -/
  dofCount : Nat
  /-- Identity of the shape. -/
  revision : Nat
  deriving Repr, DecidableEq

namespace Mechanism

variable {K : Type}

/-- Name of frame zero. -/
def worldName : String :=
  "world"

/-- The mechanism that consists of the world alone. -/
def empty
    (revision : Nat) : Mechanism K :=
  ⟨[], 0, revision⟩

/-- Whether two mechanisms have equal bodies and equally many coordinates. -/
def sameShape
    [Neg K] [BEq K]
    (first second : Mechanism K) : Bool :=
  first.dofCount == second.dofCount && first.bodies == second.bodies

/-- Number of frames, the world included. -/
def frameCount
    (mechanism : Mechanism K) : Nat :=
  mechanism.bodies.length + 1

/-- Whether a frame exists. -/
def contains
    (mechanism : Mechanism K)
    (frame : FrameId) : Bool :=
  frame.index < mechanism.frameCount

/-- The body of a frame; the world and unknown frames have none. -/
def body?
    (mechanism : Mechanism K)
    (frame : FrameId) : Option (Body K) :=
  match frame.index with
  | 0 => none
  | index + 1 => mechanism.bodies[index]?

@[simp] theorem frameCount_empty (revision : Nat) :
    (empty revision : Mechanism K).frameCount = 1 := rfl

/-- Every mechanism has the world. -/
@[simp] theorem contains_world (mechanism : Mechanism K) :
    mechanism.contains .world = true := by
  simp [contains, frameCount, FrameId.world]

/-- The world is not a body. -/
@[simp] theorem body?_world (mechanism : Mechanism K) :
    mechanism.body? .world = none := rfl

/-- Name of a frame. -/
def frameName?
    (mechanism : Mechanism K)
    (frame : FrameId) : Option String :=
  if frame.isWorld then
    some worldName
  else
    (mechanism.body? frame).map (·.name)

/-- The frame with a given name. -/
def frameNamed
    (mechanism : Mechanism K)
    (name : String) : Except (Refusal K) FrameId :=
  if name == worldName then
    .ok .world
  else
    match mechanism.bodies.findIdx? (·.name == name) with
    | some index => .ok ⟨index + 1⟩
    | none => .error (.frameNameNotFound name)

/-- Whether a name belongs to the world or to a body. -/
def nameTaken
    (mechanism : Mechanism K)
    (name : String) : Bool :=
  name == worldName || mechanism.bodies.any (·.name == name)

/-- The body that an accepted attachment appends. -/
def newBody
    (mechanism : Mechanism K)
    (name : String)
    (parent : FrameId)
    (joint : Joint K)
    (offset : Pose K) : Body K :=
  { name, parent, joint, offset
    dof := if 0 < joint.freedom then some mechanism.dofCount else none }

/--
Attach a body to a frame.  The result is the larger mechanism, stamped with the
fresh revision, and the new frame.

The first fault found is the one reported: an unknown parent, a name already
taken, an axis without direction, an offset that is not finite.
-/
def attach
    [Zero K] [Add K] [Sub K] [Mul K] [Div K] [OfScientific K]
    [BEq K] [LT K] [DecidableLT K] [Elementary K]
    (mechanism : Mechanism K)
    (freshRevision : Nat)
    (name : String)
    (parent : FrameId)
    (joint : Joint K)
    (offset : Pose K) :
    Except (Refusal K) (Mechanism K × FrameId) :=
  if !mechanism.contains parent then
    .error (.frameNotFound parent)
  else if mechanism.nameTaken name then
    .error (.duplicateFrameName name)
  else
    match joint.normalize? with
    | none => .error (.invalidAxis name)
    | some unitJoint =>
        if !offset.allFinite then
          .error (.invalidConfiguration (.offset name))
        else
          .ok
            ({ bodies :=
                mechanism.bodies ++
                  [mechanism.newBody name parent unitJoint offset]
               dofCount := mechanism.dofCount + unitJoint.freedom
               revision := freshRevision },
              ⟨mechanism.frameCount⟩)

@[simp] theorem frameName?_world (mechanism : Mechanism K) :
    mechanism.frameName? .world = some worldName := rfl

@[simp] theorem frameNamed_worldName (mechanism : Mechanism K) :
    mechanism.frameNamed worldName = .ok .world := by
  simp [frameNamed]

/--
The bodies met on the way from a frame down to the world, each with its frame
number.  The way exists when every body on it comes after its parent.
-/
def chain?
    (mechanism : Mechanism K) :
    Nat → Option (List (Nat × Body K))
  | 0 => some []
  | index + 1 =>
      match mechanism.bodies[index]? with
      | none => some []
      | some body =>
          if body.parent.index < index + 1 then
            (mechanism.chain? body.parent.index).map
              ((index + 1, body) :: ·)
          else
            none

end Mechanism

end Linkage
