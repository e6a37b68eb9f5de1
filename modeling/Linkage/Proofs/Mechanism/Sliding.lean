import Linkage.Mechanism.Query
import Linkage.Proofs.Geometry.Algebra
import Linkage.Proofs.Mechanism.SlidingArm
import Linkage.Proofs.Mechanism.Sweep

namespace Linkage

/-!
# Mechanisms that only slide

A mechanism without a joint that turns carries its frames along straight lines:
whatever its state is, no frame turns, and no frame accelerates while no
coordinate does.  Moving the coordinates along their rates for some time
therefore moves each origin by that time along its velocity and changes nothing
else.  A body passes this on from its parent, so it holds of every frame.
-/

variable {K T : Type}

/-- Every joint is fixed or slides. -/
def Mechanism.Sliding
    (mechanism : Mechanism K) : Prop :=
  ∀ body ∈ mechanism.bodies,
    body.joint = .fixed ∨ ∃ axis, body.joint = .prismatic axis

namespace FrameMotion

variable [CommRing T]

/-- A frame that neither turns nor would accelerate by itself. -/
structure Translates
    (motion : FrameMotion T) : Prop where
  angularVelocity : motion.angularVelocity = 0
  angularBias : motion.angularBias = 0
  originBias : motion.originBias = 0

/-- The motion after some time at constant velocity. -/
def after
    (duration : T)
    (motion : FrameMotion T) : FrameMotion T :=
  { motion with
    origin := motion.origin + motion.originVelocity.scale duration }

variable {motion : FrameMotion T}

theorem translates_world :
    (world : FrameMotion T).Translates :=
  ⟨rfl, rfl, rfl⟩

@[simp] theorem after_world (duration : T) :
    (world : FrameMotion T).after duration = world := by
  simp [after, world]

theorem Translates.after
    (translates : motion.Translates)
    (duration : T) :
    (motion.after duration).Translates :=
  ⟨translates.angularVelocity, translates.angularBias,
    translates.originBias⟩

/-- A point of the frame moves along with the origin. -/
theorem pointPosition_after
    (duration : T)
    (motion : FrameMotion T)
    (point : Vec3 T) :
    (motion.after duration).pointPosition point =
      motion.pointPosition point +
        motion.originVelocity.scale duration := by
  ext <;> simp [after, pointPosition] <;> ring

/-- All points of the frame have the velocity of its origin. -/
theorem Translates.pointVelocity
    (translates : motion.Translates)
    (position : Vec3 T) :
    motion.pointVelocity position = motion.originVelocity := by
  rw [FrameMotion.pointVelocity, translates.angularVelocity,
    Vec3.zero_cross, Vec3.add_zero]

/-- No point of the frame has a bias acceleration. -/
theorem Translates.pointBias
    (translates : motion.Translates)
    (position : Vec3 T) :
    motion.pointBias position = 0 := by
  simp [FrameMotion.pointBias, translates.angularVelocity,
    translates.angularBias, translates.originBias]

variable [One K] [Add K] [Sub K] [Mul K]
variable [Elementary T] [Constant K T]

/-- A body that does not turn on its parent translates if its parent does. -/
theorem Translates.follow
    {parent : FrameMotion T}
    (translates : parent.Translates)
    {body : Body K}
    (slides :
      body.joint = .fixed ∨ ∃ axis, body.joint = .prismatic axis)
    (coordinate rate : T) :
    (parent.follow body coordinate rate).Translates := by
  obtain ⟨name, parentFrame, joint, offset, dof⟩ := body
  rcases slides with rfl | ⟨axis, rfl⟩ <;>
    constructor <;>
    simp [FrameMotion.follow, JointMotion.of,
      translates.angularVelocity, translates.angularBias,
      translates.originBias]

/--
A body follows its moved parent, at its own moved coordinate, to where it would
have moved itself.
-/
theorem Translates.follow_after
    {parent : FrameMotion T}
    (translates : parent.Translates)
    {body : Body K}
    (slides :
      body.joint = .fixed ∨ ∃ axis, body.joint = .prismatic axis)
    (coordinate rate duration : T) :
    (parent.after duration).follow body (coordinate + rate * duration)
        rate =
      (parent.follow body coordinate rate).after duration := by
  obtain ⟨name, parentFrame, joint, offset, dof⟩ := body
  obtain ⟨turns, turnBias, originBias⟩ := translates
  rcases slides with rfl | ⟨axis, rfl⟩ <;>
    simp only [FrameMotion.follow, JointMotion.of,
      FrameMotion.pointVelocity, FrameMotion.after, turns, turnBias,
      originBias, Vec3.zero_cross, Vec3.add_zero] <;>
    congr 1 <;>
    ext <;>
    simp [Vec3.scale] <;>
    ring

end FrameMotion

namespace Mechanism

variable [CommRing T]

/-- Along the velocity, a body's coordinate moves by its rate. -/
theorem coordinateOf_advance
    {positions velocities target : List T}
    {duration : T}
    (advanced : advance positions velocities duration = .ok target)
    {dof : Option Nat}
    {state movedState : T × T}
    (found : coordinateOf positions velocities dof = .ok state)
    (movedFound : coordinateOf target velocities dof = .ok movedState) :
    movedState = (state.1 + state.2 * duration, state.2) := by
  rw [advance, addScaled] at advanced
  split at advanced
  case isFalse =>
    cases advanced
  cases advanced
  cases dof with
  | none =>
      cases found
      cases movedFound
      simp
  | some index =>
      obtain ⟨position, rate⟩ := coordinateOf_some_iff.mp found
      obtain ⟨movedPosition, movedRate⟩ :=
        coordinateOf_some_iff.mp movedFound
      rw [List.getElem?_zipWith, position, rate] at movedPosition
      rw [rate] at movedRate
      exact
        Prod.ext (Option.some.inj movedPosition).symm
          (Option.some.inj movedRate).symm

variable [One K] [Add K] [Sub K] [Mul K]
variable [Elementary T] [Constant K T]

/--
On a mechanism that only slides, every frame translates, and moving the
coordinates along the velocity moves it along its own.
-/
theorem Sliding.motion_after
    {mechanism : Mechanism K}
    (sliding : mechanism.Sliding)
    (wellFormed : mechanism.WellFormed)
    {positions velocities target : List T}
    {duration : T}
    (advanced : advance positions velocities duration = .ok target)
    {snapshot moved : Snapshot T}
    (taken : mechanism.Taken positions velocities snapshot)
    (movedTaken : mechanism.Taken target velocities moved)
    {frame : FrameId}
    {motion movedMotion : FrameMotion T}
    (found : snapshot.motion? frame = some motion)
    (movedFound : moved.motion? frame = some movedMotion) :
    motion.Translates ∧ movedMotion = motion.after duration := by
  refine
    taken.related wellFormed movedTaken
      (fun motion movedMotion =>
        motion.Translates ∧ movedMotion = motion.after duration)
      ⟨FrameMotion.translates_world,
        (FrameMotion.after_world duration).symm⟩
      ?_ found movedFound
  rintro body member parent _ state movedState stateFound movedStateFound
    ⟨translates, rfl⟩
  obtain rfl := coordinateOf_advance advanced stateFound movedStateFound
  exact
    ⟨translates.follow (sliding body member) _ _,
      translates.follow_after (sliding body member) _ _ _⟩

/-- A column with a cabin that moves up and down on it. -/
noncomputable def lift : Mechanism ℝ where
  bodies :=
    [{ name := "column"
       parent := .world
       joint := .fixed
       offset := ⟨⟨1, 0, 0⟩, ⟨0, 1, 0, 0⟩⟩
       dof := none },
     { name := "cabin"
       parent := ⟨1⟩
       joint := .prismatic ⟨0, 0, 1⟩
       offset := ⟨⟨0, 1, 0⟩, .identity⟩
       dof := some 0 }]
  dofCount := 1
  revision := 2

theorem lift_built : lift.Built := by
  have rigid : (Joint.fixed : Joint ℝ).HasUnitAxis := by
    rintro axis ⟨⟩
  have column :=
    (Built.empty 0).grow 1 "column" .world rigid
      ⟨⟨1, 0, 0⟩, ⟨0, 1, 0, 0⟩⟩ rfl rfl
  exact
    column.grow 2 "cabin" ⟨1⟩ Joint.hasUnitAxis_upward
      ⟨⟨0, 1, 0⟩, .identity⟩ rfl rfl

theorem lift_sliding : lift.Sliding := by
  intro body member
  simp only [lift, List.mem_cons, List.not_mem_nil, or_false] at member
  rcases member with rfl | rfl
  · exact .inl rfl
  · exact .inr ⟨_, rfl⟩

end Mechanism

end Linkage
