import Linkage.Proofs.Mechanism.Sweep
import Linkage.Proofs.Geometry.Algebra

namespace Linkage

/-!
# A mechanism at rest

Velocities and bias accelerations of the frames come from the rates of the
coordinates alone.  Where all rates are zero, no point of any frame moves and
none would accelerate.
-/

variable {K T : Type} [CommRing T]

/-- A frame that does not move and would not accelerate. -/
structure FrameMotion.AtRest (motion : FrameMotion T) : Prop where
  angularVelocity : motion.angularVelocity = 0
  originVelocity : motion.originVelocity = 0
  angularBias : motion.angularBias = 0
  originBias : motion.originBias = 0

namespace FrameMotion.AtRest

theorem world : AtRest (FrameMotion.world : FrameMotion T) :=
  ⟨rfl, rfl, rfl, rfl⟩

/-- No point of a frame at rest moves. -/
theorem pointVelocity
    {motion : FrameMotion T}
    (rest : motion.AtRest)
    (position : Vec3 T) :
    motion.pointVelocity position = 0 := by
  rw [FrameMotion.pointVelocity, rest.originVelocity,
    rest.angularVelocity]
  ext <;> simp [Vec3.cross]

/-- No point of a frame at rest would accelerate. -/
theorem pointBias
    {motion : FrameMotion T}
    (rest : motion.AtRest)
    (position : Vec3 T) :
    motion.pointBias position = 0 := by
  rw [FrameMotion.pointBias, rest.originBias, rest.angularBias,
    rest.angularVelocity]
  ext <;> simp [Vec3.cross]

variable [One K] [Add K] [Sub K] [Mul K]
variable [Elementary T] [Constant K T]

/-- A body is at rest with its parent if its joint is. -/
theorem follow
    {parent : FrameMotion T}
    (rest : parent.AtRest)
    (body : Body K)
    (coordinate : T) :
    (parent.follow body coordinate 0).AtRest := by
  obtain ⟨name, parentFrame, joint, offset, dof⟩ := body
  cases joint <;>
    constructor <;>
    ext <;>
    simp [FrameMotion.follow, JointMotion.of, rest.angularVelocity,
      rest.angularBias, rest.originVelocity, rest.originBias,
      FrameMotion.pointVelocity, Vec3.cross, Vec3.scale]

end FrameMotion.AtRest

variable [One K] [Add K] [Sub K] [Mul K]
variable [Elementary T] [Constant K T]

/-- At rates of zero every frame of a mechanism is at rest. -/
theorem Mechanism.Taken.atRest
    {mechanism : Mechanism K}
    (wellFormed : mechanism.WellFormed)
    {positions : List T}
    {count : Nat}
    {snapshot : Snapshot T}
    (taken :
      mechanism.Taken positions (List.replicate count 0) snapshot)
    {frame : Nat}
    {motion : FrameMotion T}
    (found : snapshot.frames[frame]? = some motion) :
    motion.AtRest := by
  refine taken.invariant wellFormed FrameMotion.AtRest .world ?_ found
  rintro body _ parent ⟨coordinate, rate⟩ stateFound rest
  have isZero : rate = 0 := by
    cases hasDof : body.dof with
    | none =>
        rw [hasDof] at stateFound
        cases stateFound
        rfl
    | some dof =>
        rw [hasDof, coordinateOf_some_iff] at stateFound
        exact
          List.eq_of_mem_replicate
            (List.mem_of_getElem? stateFound.2)
  rw [isZero]
  exact rest.follow body coordinate

end Linkage
