import Linkage.Proofs.Geometry.Algebra
import Linkage.Proofs.Mechanism.ScalarMap

namespace Linkage

/-!
# A mechanism at another speed

Multiplying all rates by one factor moves a mechanism along the same path at
another speed.  Velocities get the factor once and bias accelerations get it
twice; places, axes and Jacobians stay.  One body preserves this, hence so does
the sweep over all bodies, and so does whatever is read off the snapshot.
-/

variable {K T : Type} [CommRing T]

/-- The motion with its speed multiplied by a factor. -/
def FrameMotion.atSpeed
    (factor : T)
    (motion : FrameMotion T) : FrameMotion T :=
  { motion with
    angularVelocity := motion.angularVelocity.scale factor
    originVelocity := motion.originVelocity.scale factor
    angularBias := motion.angularBias.scale (factor * factor)
    originBias := motion.originBias.scale (factor * factor) }

/-- The snapshot with its speed multiplied by a factor. -/
def Snapshot.atSpeed
    (factor : T)
    (snapshot : Snapshot T) : Snapshot T :=
  { snapshot with
    velocities := snapshot.velocities.map (· * factor)
    frames := snapshot.frames.map (FrameMotion.atSpeed factor) }

@[simp] theorem Snapshot.frames_atSpeed
    (factor : T)
    (snapshot : Snapshot T) :
    (snapshot.atSpeed factor).frames =
      snapshot.frames.map (FrameMotion.atSpeed factor) := rfl

theorem Snapshot.motion?_atSpeed
    (factor : T)
    (snapshot : Snapshot T)
    (frame : FrameId) :
    (snapshot.atSpeed factor).motion? frame =
      (snapshot.motion? frame).map (FrameMotion.atSpeed factor) :=
  List.getElem?_map

variable (factor : T)

namespace FrameMotion

@[simp] theorem atSpeed_world :
    (world : FrameMotion T).atSpeed factor = world := by
  simp [atSpeed, world]

@[simp] theorem pointPosition_atSpeed
    (motion : FrameMotion T)
    (point : Vec3 T) :
    (motion.atSpeed factor).pointPosition point =
      motion.pointPosition point := rfl

/-- The bias acceleration of a point gets the factor twice. -/
theorem pointBias_atSpeed
    (motion : FrameMotion T)
    (position : Vec3 T) :
    (motion.atSpeed factor).pointBias position =
      (motion.pointBias position).scale (factor * factor) := by
  ext <;>
    simp [atSpeed, pointBias, Vec3.cross, Vec3.scale] <;>
    ring

variable [One K] [Add K] [Sub K] [Mul K]
variable [Elementary T] [Constant K T]

/-- A body follows a faster parent, at a faster rate, at the same speed. -/
theorem follow_atSpeed
    (parent : FrameMotion T)
    (body : Body K)
    (coordinate rate : T) :
    (parent.atSpeed factor).follow body coordinate (rate * factor) =
      (parent.follow body coordinate rate).atSpeed factor := by
  obtain ⟨name, parentFrame, joint, offset, dof⟩ := body
  cases joint <;>
    simp only [follow, JointMotion.of, pointVelocity, atSpeed] <;>
    congr 1 <;>
    ext <;>
    simp [Vec3.cross, Vec3.scale] <;>
    ring

end FrameMotion

namespace Mechanism

section Snapshot

variable [One K] [Add K] [Sub K] [Mul K]
variable [Elementary T] [Constant K T]

/-- The snapshot at faster rates is the snapshot at that speed. -/
theorem snapshot_atSpeed
    (mechanism : Mechanism K)
    (positions velocities : List T) :
    mechanism.snapshot positions (velocities.map (· * factor)) =
      Snapshot.atSpeed factor <$>
        mechanism.snapshot positions velocities := by
  have passed :
      PassedOn K id (· * factor) (FrameMotion.atSpeed factor) :=
    { coordinate_zero := rfl
      rate_zero := zero_mul factor
      world := FrameMotion.atSpeed_world factor
      follow := FrameMotion.follow_atSpeed factor }
  have snapshot := passed.snapshot_map mechanism positions velocities
  simp only [List.map_id] at snapshot
  exact snapshot

/-- At no speed at all, snapshots at different rates are the same. -/
theorem atSpeed_zero_eq
    {mechanism : Mechanism K}
    {positions velocities rates : List T}
    {snapshot moving : Snapshot T}
    (taken : mechanism.snapshot positions velocities = .ok snapshot)
    (moved : mechanism.snapshot positions rates = .ok moving)
    (sameLength : velocities.length = rates.length) :
    snapshot.atSpeed 0 = moving.atSpeed 0 := by
  have zeros : velocities.map (· * 0) = rates.map (· * 0) := by
    simp [List.map_const', sameLength]
  have stopped := mechanism.snapshot_atSpeed 0 positions velocities
  rw [zeros, mechanism.snapshot_atSpeed, taken, moved] at stopped
  exact (Except.ok.inj stopped).symm

end Snapshot

variable (mechanism : Mechanism K)
variable (snapshot : Snapshot T)

@[simp] theorem express_atSpeed
    (frame : FrameId)
    (vector : Vec3 T) :
    express (snapshot.atSpeed factor) frame vector =
      express snapshot frame vector := by
  simp only [express, Snapshot.frames_atSpeed, entry_map, bind_map_left]
  rfl

/-- A scaled vector is expressed as the scaled expression. -/
theorem express_scale
    (frame : FrameId)
    (vector : Vec3 T) :
    express snapshot frame (vector.scale factor) =
      (Vec3.scale · factor) <$> express snapshot frame vector := by
  simp only [express, Mat3.apply_scale]
  split
  · rfl
  · cases entry snapshot.frames frame.index <;> rfl

/-- Where a point is does not depend on the speed. -/
@[simp] theorem pointPosition_atSpeed
    (frame : FrameId)
    (point : Vec3 T)
    (expressedIn : FrameId) :
    mechanism.pointPosition (snapshot.atSpeed factor) frame point
        expressedIn =
      mechanism.pointPosition snapshot frame point expressedIn := by
  simp only [pointPosition, Snapshot.frames_atSpeed, entry_map,
    bind_map_left, express_atSpeed]
  rfl

@[simp] theorem jointColumn_atSpeed
    (joint : Joint K)
    (motion : FrameMotion T)
    (position : Vec3 T) :
    jointColumn joint (motion.atSpeed factor) position =
      jointColumn joint motion position := by
  cases joint <;> rfl

theorem writeColumns_atSpeed
    (position : Vec3 T)
    (chain : List (Nat × Body K))
    (columns : Columns T) :
    writeColumns (snapshot.atSpeed factor) position chain columns =
      writeColumns snapshot position chain columns := by
  induction chain generalizing columns with
  | nil =>
      rfl
  | cons link rest inductionHypothesis =>
      obtain ⟨index, body⟩ := link
      cases dofShape : body.dof with
      | none =>
          rw [writeColumns_cons_of_none dofShape,
            writeColumns_cons_of_none dofShape]
          exact inductionHypothesis columns
      | some dof =>
          simp only [writeColumns, dofShape, Snapshot.frames_atSpeed,
            entry_map, bind_map_left, jointColumn_atSpeed,
            inductionHypothesis]

theorem worldJacobian_atSpeed
    (frame : FrameId)
    (position : Vec3 T) :
    mechanism.worldJacobian (snapshot.atSpeed factor) frame position =
      mechanism.worldJacobian snapshot frame position := by
  simp only [worldJacobian, writeColumns_atSpeed]

/-- The Jacobian of a point does not depend on the speed. -/
@[simp] theorem pointJacobian_atSpeed
    (frame : FrameId)
    (point : Vec3 T)
    (measuredIn expressedIn : FrameId) :
    mechanism.pointJacobian (snapshot.atSpeed factor) frame point
        measuredIn expressedIn =
      mechanism.pointJacobian snapshot frame point
        measuredIn expressedIn := by
  simp only [pointJacobian, Snapshot.frames_atSpeed, entry_map,
    bind_map_left, worldJacobian_atSpeed]
  rfl

/-- The bias acceleration of a point gets the factor twice. -/
theorem pointBias_atSpeed
    (frame : FrameId)
    (point : Vec3 T)
    (expressedIn : FrameId) :
    mechanism.pointBias (snapshot.atSpeed factor) frame point
        expressedIn =
      (Vec3.scale · (factor * factor)) <$>
        mechanism.pointBias snapshot frame point expressedIn := by
  simp only [pointBias, Snapshot.frames_atSpeed, entry_map,
    bind_map_left, map_bind, express_atSpeed,
    FrameMotion.pointPosition_atSpeed, FrameMotion.pointBias_atSpeed,
    express_scale]
  rfl

end Mechanism

end Linkage
