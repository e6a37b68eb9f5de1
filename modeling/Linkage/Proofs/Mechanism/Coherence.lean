import Linkage.Proofs.Geometry.Derivative
import Linkage.Proofs.Mechanism.Reading
import Linkage.Proofs.Mechanism.Rigidity
import Linkage.Proofs.Mechanism.ScalarMap

namespace Linkage

/-!
# Motions that carry their own rates

A motion over dual numbers states every rate twice: as a field of its own, and
as the derivative carried by another field.  It is *coherent* when the two
agree.  If the positions of a mechanism carry constant rates, the motion of
every frame is coherent; the proof follows the sweep from parents to bodies.
-/

variable {K : Type} [Field K]

/-- The derivatives carried by a motion are the rates that it states. -/
structure FrameMotion.Coherent
    (motion : FrameMotion (Dual K)) : Prop where
  rotation : motion.rotation.Turns (motion.angularVelocity.map Dual.re)
  origin :
    motion.origin.map Dual.eps = motion.originVelocity.map Dual.re
  angularVelocity :
    motion.angularVelocity.map Dual.eps = motion.angularBias.map Dual.re
  originVelocity :
    motion.originVelocity.map Dual.eps = motion.originBias.map Dual.re

/-- The world is at rest, and its derivatives are zero. -/
theorem FrameMotion.coherent_world :
    (FrameMotion.world : FrameMotion (Dual K)).Coherent where
  rotation := by
    ext <;>
      simp [FrameMotion.world, Mat3.map, Vec3.map, Mat3.identity,
        Mat3.skew, Mat3.times, Mat3.transpose, Vec3.rowTimes_eq]
  origin := rfl
  angularVelocity := rfl
  originVelocity := rfl

variable [FusedMulAdd K]

/--
The derivatives carried by a joint are the rates that it states.  The slide is
fixed in the parent frame and turns with it.
-/
structure JointMotion.Coherent
    (parent : FrameMotion (Dual K))
    (joint : JointMotion (Dual K)) : Prop where
  rotation : joint.rotation.Turns (joint.angularVelocity.map Dual.re)
  origin :
    joint.origin.map Dual.eps =
      (parent.pointVelocity joint.origin).map Dual.re +
        joint.slide.map Dual.re
  angularVelocity :
    joint.angularVelocity.map Dual.eps = joint.angularBias.map Dual.re
  slide :
    joint.slide.map Dual.eps =
      (parent.angularVelocity.map Dual.re).cross (joint.slide.map Dual.re)

namespace FrameMotion

/-- Motion of a frame behind a joint, whichever kind of joint it is. -/
def behind
    (parent : FrameMotion (Dual K))
    (joint : JointMotion (Dual K)) : FrameMotion (Dual K) :=
  let lever := joint.origin - parent.origin
  let turning := parent.angularVelocity
  { rotation := joint.rotation
    origin := joint.origin
    angularVelocity := joint.angularVelocity
    originVelocity := parent.pointVelocity joint.origin + joint.slide
    angularBias := joint.angularBias
    originBias :=
      parent.originBias + parent.angularBias.cross lever +
        turning.cross (turning.cross lever) +
        (turning.cross joint.slide).scale (Constant.constant (two : K))
    axis := joint.axis }

/-- The motion of a body is that behind its joint. -/
theorem follow_eq_behind
    [Elementary K]
    (parent : FrameMotion (Dual K))
    (body : Body K)
    (coordinate rate : Dual K) :
    parent.follow body coordinate rate =
      parent.behind
        (JointMotion.of body.joint
          (parent.rotation.times
            (body.offset.rotation.toMatrix.map Constant.constant))
          (parent.pointPosition
            (body.offset.position.map Constant.constant))
          parent.angularVelocity parent.angularBias
          coordinate rate) := rfl

end FrameMotion

variable [LawfulFusedMulAdd K]

namespace FrameMotion.Coherent

variable {motion : FrameMotion (Dual K)}

/-- The derivative of the place of a point is its velocity. -/
theorem pointPosition
    (coherent : motion.Coherent)
    (point : Vec3 K) :
    (motion.pointPosition (point.map Constant.constant)).map Dual.eps =
      (motion.pointVelocity
        (motion.pointPosition (point.map Constant.constant))).map
          Dual.re := by
  simp only [FrameMotion.pointPosition, FrameMotion.pointVelocity,
    Vec3.map_eps_add, coherent.origin, coherent.rotation.apply_constant,
    Vec3.map_add, Vec3.map_cross, Vec3.map_sub, Mat3.map_apply,
    Vec3.map_constant, Vec3.constant_self]
  ext <;> simp [Vec3.cross]

/-- The derivative of the velocity of a point is its bias acceleration. -/
theorem pointVelocity
    (coherent : motion.Coherent)
    {position : Vec3 (Dual K)}
    (carried :
      position.map Dual.eps = (motion.pointVelocity position).map Dual.re) :
    (motion.pointVelocity position).map Dual.eps =
      (motion.pointBias position).map Dual.re := by
  simp only [FrameMotion.pointVelocity, Vec3.map_add, Vec3.map_cross,
    Vec3.map_sub] at carried
  simp only [FrameMotion.pointVelocity, FrameMotion.pointBias,
    Vec3.map_eps_add, Vec3.map_eps_sub, Vec3.map_eps_cross, carried,
    coherent.origin, coherent.originVelocity, coherent.angularVelocity,
    Vec3.map_add, Vec3.map_cross, Vec3.map_sub]
  ext <;> simp [Vec3.cross] <;> ring

end FrameMotion.Coherent

namespace JointMotion

variable [Elementary K]

/-- A joint on a coherent attachment is coherent. -/
theorem coherent_of
    {parent : FrameMotion (Dual K)}
    (coherent : parent.Coherent)
    {rotation : Mat3 (Dual K)}
    (turns : rotation.Turns (parent.angularVelocity.map Dual.re))
    (isRotation : (rotation.map Dual.re).IsRotation)
    {origin : Vec3 (Dual K)}
    (moves :
      origin.map Dual.eps = (parent.pointVelocity origin).map Dual.re)
    (joint : Joint K)
    (axisUnit : joint.HasUnitAxis)
    {coordinate rate : Dual K}
    (carried : coordinate.eps = rate.re)
    (steady : rate.eps = 0) :
    (JointMotion.of joint rotation origin
      parent.angularVelocity parent.angularBias
      coordinate rate).Coherent parent := by
  cases joint with
  | fixed =>
      exact
        { rotation := turns
          origin := by simpa [JointMotion.of] using moves
          angularVelocity := coherent.angularVelocity
          slide := by simp [JointMotion.of] }
  | revolute axis =>
      have axisRate := turns.apply_constant axis
      have turnsOn :=
        turns.times_axisAngle isRotation (axisUnit rfl) coordinate
      refine
        { rotation := ?_
          origin := by simpa [JointMotion.of] using moves
          angularVelocity := ?_
          slide := by simp [JointMotion.of] }
      · simpa [JointMotion.of, carried] using turnsOn
      · simp only [JointMotion.of, Vec3.map_eps_add, Vec3.map_eps_scale,
          axisRate, coherent.angularVelocity, steady, Vec3.scale_zero,
          Vec3.add_zero, Vec3.map_add, Vec3.map_scale, Vec3.map_cross,
          Mat3.map_apply, Vec3.map_constant, Vec3.constant_self]
  | prismatic axis =>
      have axisRate := turns.apply_constant axis
      refine
        { rotation := turns
          origin := ?_
          angularVelocity := coherent.angularVelocity
          slide := ?_ }
      · simp only [JointMotion.of, FrameMotion.pointVelocity,
          Vec3.map_eps_add, Vec3.map_eps_scale, moves, axisRate, carried,
          Vec3.map_add, Vec3.map_sub, Vec3.map_scale, Vec3.map_cross,
          Mat3.map_apply, Vec3.map_constant, Vec3.constant_self]
        ext <;> simp [Vec3.cross, Vec3.scale] <;> ring
      · simp only [JointMotion.of, Vec3.map_eps_scale, axisRate, steady,
          Vec3.map_scale, Mat3.map_apply, Vec3.map_constant,
          Vec3.constant_self]
        ext <;> simp [Vec3.cross, Vec3.scale] <;> ring

end JointMotion

namespace FrameMotion

/-- A frame behind a coherent joint moves coherently. -/
theorem Coherent.behind
    {parent : FrameMotion (Dual K)}
    (coherent : parent.Coherent)
    {joint : JointMotion (Dual K)}
    (jointCoherent : joint.Coherent parent) :
    (parent.behind joint).Coherent where
  rotation := jointCoherent.rotation
  origin := by
    rw [FrameMotion.behind, Vec3.map_add]
    exact jointCoherent.origin
  angularVelocity := jointCoherent.angularVelocity
  originVelocity := by
    have originRate := jointCoherent.origin
    simp only [FrameMotion.pointVelocity, Vec3.map_add, Vec3.map_cross,
      Vec3.map_sub] at originRate
    simp only [FrameMotion.behind, FrameMotion.pointVelocity,
      Vec3.map_eps_add, Vec3.map_eps_sub, Vec3.map_eps_cross,
      originRate, jointCoherent.slide, coherent.origin,
      coherent.originVelocity, coherent.angularVelocity,
      Vec3.map_add, Vec3.map_cross, Vec3.map_sub, Vec3.map_scale]
    ext <;> simp [Vec3.cross, Vec3.scale, two] <;> ring

variable [Elementary K]

/-- Coherence passes from a parent to its bodies. -/
theorem Coherent.follow
    {parent : FrameMotion (Dual K)}
    (coherent : parent.Coherent)
    (isRotation : parent.rotation.IsRotation)
    {body : Body K}
    (normalized : body.Normalized)
    {coordinate rate : Dual K}
    (carried : coordinate.eps = rate.re)
    (steady : rate.eps = 0) :
    (parent.follow body coordinate rate).Coherent := by
  have attached :=
    (isRotation.times normalized.isRotation_offset).map Dual.re
  rw [follow_eq_behind]
  exact coherent.behind
    (JointMotion.coherent_of coherent
      (coherent.rotation.times_constant body.offset.rotation.toMatrix)
      attached (coherent.pointPosition body.offset.position)
      body.joint normalized.axis_unit carried steady)

end FrameMotion

namespace Mechanism

variable [Elementary K] [LawfulTrigonometry K]
variable {mechanism : Mechanism K}

/--
Every motion is coherent in a snapshot whose positions carry the rates of the
coordinates, while the rates carry nothing.
-/
theorem Taken.coherent
    (wellFormed : mechanism.WellFormed)
    (normalized : mechanism.Normalized)
    {positions rates : List K}
    {snapshot : Snapshot (Dual K)}
    (taken :
      mechanism.Taken (Dual.seed positions rates)
        (rates.map Constant.constant) snapshot)
    {frame : FrameId}
    {motion : FrameMotion (Dual K)}
    (found : snapshot.motion? frame = some motion) :
    motion.Coherent := by
  have both : motion.rotation.IsRotation ∧ motion.Coherent := by
    refine taken.invariant wellFormed
      (fun motion => motion.rotation.IsRotation ∧ motion.Coherent)
      ⟨.identity, FrameMotion.coherent_world⟩ ?_ found
    rintro body member parent state stateFound ⟨isRotation, coherent⟩
    have seeded :
        state.1.eps = state.2.re ∧ state.2.eps = 0 := by
      cases dofShape : body.dof with
      | none =>
          rw [dofShape] at stateFound
          cases stateFound
          exact ⟨rfl, rfl⟩
      | some index =>
          rw [dofShape] at stateFound
          obtain ⟨positionFound, rateFound⟩ :=
            coordinateOf_some_iff.mp stateFound
          have direction := Dual.direction_of_seed positionFound
          rw [List.getElem?_map, direction] at rateFound
          have rateShape := Option.some.inj rateFound
          rw [← rateShape]
          exact ⟨rfl, rfl⟩
    exact
      ⟨FrameMotion.isRotation_follow isRotation (normalized body member)
          _ _,
        coherent.follow isRotation (normalized body member)
          seeded.1 seeded.2⟩
  exact both.2

end Mechanism

end Linkage
