import Linkage.Document.Basic
import Linkage.Mechanism.Basic

namespace Linkage

/-!
# Stored mechanisms

The stored form of a mechanism holds its bodies and its number of coordinates,
but not its revision: a mechanism read from a document is new.  Reading checks
the form of a document and nothing else.
-/

variable {K : Type}

namespace Vec3

/-- A vector is stored as its three components. -/
def toDocument
    [Zero K] [Sub K] [BEq K]
    (v : Vec3 K) : Document K :=
  .ofReals v.toList

/-- Read a vector. -/
def ofDocument?
    [NatCast K]
    (document : Document K) : Option (Vec3 K) :=
  match document.list? Document.real? with
  | some [x, y, z] => some ⟨x, y, z⟩
  | _ => none

end Vec3

namespace Quaternion

/-- A quaternion is stored with its scalar part last. -/
def toDocument
    [Zero K] [Sub K] [BEq K]
    (q : Quaternion K) : Document K :=
  .ofReals [q.x, q.y, q.z, q.w]

/-- Read a quaternion, as it stands. -/
def ofDocument?
    [NatCast K]
    (document : Document K) : Option (Quaternion K) :=
  match document.list? Document.real? with
  | some [x, y, z, w] => some ⟨w, x, y, z⟩
  | _ => none

end Quaternion

namespace Pose

/-- Stored form of a pose. -/
def toDocument
    [Zero K] [Sub K] [BEq K]
    (pose : Pose K) : Document K :=
  .record
    [("position", pose.position.toDocument),
      ("rotation", pose.rotation.toDocument)]

/-- Read a pose. -/
def ofDocument?
    [NatCast K]
    (document : Document K) : Option (Pose K) :=
  match document.fields? ["position", "rotation"] with
  | some [position, rotation] => do
      let position ← Document.required? Vec3.ofDocument? position
      let rotation ← Document.required? Quaternion.ofDocument? rotation
      return ⟨position, rotation⟩
  | _ => none

end Pose

namespace FrameId

/-- A frame is stored as its number. -/
def toDocument
    (frame : FrameId) : Document K :=
  .natural frame.index

/-- Read a frame. -/
def ofDocument?
    (document : Document K) : Option FrameId :=
  document.natural?.map FrameId.mk

end FrameId

namespace Joint

/-- A moving joint is stored under its kind, with its axis. -/
def toDocument
    [Zero K] [Sub K] [BEq K] :
    Joint K → Document K
  | .fixed => .text "Fixed"
  | .revolute axis =>
      .record [("Revolute", .record [("axis", axis.toDocument)])]
  | .prismatic axis =>
      .record [("Prismatic", .record [("axis", axis.toDocument)])]

/-- Read the axis of a moving joint, a field of a record. -/
def axisOfDocument?
    [NatCast K]
    (document : Document K) : Option (Vec3 K) :=
  Document.required? Vec3.ofDocument? (document.field? "axis")

/-- Read a joint: the name of its kind alone, or one record field named so. -/
def ofDocument?
    [NatCast K] :
    Document K → Option (Joint K)
  | .text "Fixed" => some .fixed
  | .record [("Fixed", .null)] => some .fixed
  | .record [("Revolute", content)] =>
      (axisOfDocument? content).map .revolute
  | .record [("Prismatic", content)] =>
      (axisOfDocument? content).map .prismatic
  | _ => none

end Joint

namespace Body

/-- Stored form of a body. -/
def toDocument
    [Zero K] [Sub K] [BEq K]
    (body : Body K) : Document K :=
  .record
    [("name", .text body.name),
      ("parent", body.parent.toDocument),
      ("joint", body.joint.toDocument),
      ("offset", body.offset.toDocument),
      ("dof", .ofNatural? body.dof)]

/-- Read a body; its coordinate may be missing. -/
def ofDocument?
    [NatCast K]
    (document : Document K) : Option (Body K) :=
  match document.fields? ["name", "parent", "joint", "offset", "dof"] with
  | some [name, parent, joint, offset, dof] => do
      let name ← Document.required? Document.text? name
      let parent ← Document.required? FrameId.ofDocument? parent
      let joint ← Document.required? Joint.ofDocument? joint
      let offset ← Document.required? Pose.ofDocument? offset
      let dof ← Document.optional? dof
      return { name, parent, joint, offset, dof }
  | _ => none

end Body

namespace Mechanism

/-- Stored form of a mechanism. -/
def toDocument
    [Zero K] [Sub K] [BEq K]
    (mechanism : Mechanism K) : Document K :=
  .record
    [("bodies", .list (mechanism.bodies.map Body.toDocument)),
      ("num_dofs", .natural mechanism.dofCount)]

/-- Read a mechanism and stamp it with the fresh revision. -/
def ofDocument?
    [NatCast K]
    (freshRevision : Nat)
    (document : Document K) : Option (Mechanism K) :=
  match document.fields? ["bodies", "num_dofs"] with
  | some [bodies, dofCount] => do
      let bodies ←
        Document.required? (Document.list? Body.ofDocument?) bodies
      let dofCount ← Document.required? Document.natural? dofCount
      return ⟨bodies, dofCount, freshRevision⟩
  | _ => none

end Mechanism

end Linkage
