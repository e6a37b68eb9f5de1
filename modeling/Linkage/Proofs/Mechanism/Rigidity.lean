import Linkage.Proofs.Geometry.Rotation
import Linkage.Proofs.Mechanism.Sweep

namespace Linkage

/-!
# Orientations of frames

Where axes and offset quaternions have unit length, the orientation of every
frame is a rotation: it is the product of the rotations of the attachments and
joints on the way from the world.
-/

variable {K T : Type}

/-- A joint whose axis, if it has one, has unit length. -/
def Joint.HasUnitAxis
    [One K] [Add K] [Mul K]
    (joint : Joint K) : Prop :=
  ∀ {axis : Vec3 K}, joint.axis? = some axis → axis.normSquared = 1

/-- A body whose axis and whose offset quaternion have unit length. -/
structure Body.Normalized
    [One K] [Add K] [Mul K]
    (body : Body K) : Prop where
  axis_unit : body.joint.HasUnitAxis
  offset_unit : body.offset.rotation.normSquared = 1

/-- A mechanism all of whose axes and offset quaternions have unit length. -/
def Mechanism.Normalized
    [One K] [Add K] [Mul K]
    (mechanism : Mechanism K) : Prop :=
  ∀ body ∈ mechanism.bodies, body.Normalized

variable [CommRing K] [CommRing T] [Constant K T]
variable [PreservesArithmetic (Constant.constant : K → T)]

/-- The offset of a normalized body turns as a rotation. -/
theorem Body.Normalized.isRotation_offset
    {body : Body K}
    (normalized : body.Normalized) :
    (body.offset.rotation.toMatrix.map Constant.constant :
      Mat3 T).IsRotation :=
  (Quaternion.isRotation_toMatrix normalized.offset_unit).map _

/-- A unit axis is a unit axis among the scalars. -/
theorem Vec3.normSquared_constant
    {axis : Vec3 K}
    (unit : axis.normSquared = 1) :
    (axis.map Constant.constant : Vec3 T).normSquared = 1 := by
  rw [Vec3.normSquared, ← Vec3.apply_dot]
  change Constant.constant axis.normSquared = (1 : T)
  rw [unit, PreservesArithmetic.map_one (f := Constant.constant)]

variable [Elementary T] [LawfulTrigonometry T]

/-- The orientation of a body is a rotation if that of its parent is. -/
theorem FrameMotion.isRotation_follow
    {parent : FrameMotion T}
    (parentRotation : parent.rotation.IsRotation)
    {body : Body K}
    (normalized : body.Normalized)
    (coordinate rate : T) :
    (parent.follow body coordinate rate).rotation.IsRotation := by
  have attached := parentRotation.times normalized.isRotation_offset
  obtain ⟨name, parentFrame, joint, offset, dof⟩ := body
  cases joint with
  | fixed =>
      exact attached
  | revolute axis =>
      exact attached.times
        (Mat3.isRotation_axisAngle
          (Vec3.normSquared_constant (normalized.axis_unit rfl))
          coordinate)
  | prismatic axis =>
      exact attached

/-- The orientation of every frame is a rotation. -/
theorem Mechanism.Taken.isRotation
    {mechanism : Mechanism K}
    (wellFormed : mechanism.WellFormed)
    (normalized : mechanism.Normalized)
    {positions velocities : List T}
    {snapshot : Snapshot T}
    (taken : mechanism.Taken positions velocities snapshot)
    {frame : FrameId}
    {motion : FrameMotion T}
    (found : snapshot.motion? frame = some motion) :
    motion.rotation.IsRotation :=
  taken.invariant wellFormed
    (fun motion => motion.rotation.IsRotation) .identity
    (fun body member _ _ _ parentRotation =>
      FrameMotion.isRotation_follow parentRotation
        (normalized body member) _ _)
    found

end Linkage
