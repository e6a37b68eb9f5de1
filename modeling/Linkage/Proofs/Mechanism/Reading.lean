import Linkage.Proofs.Mechanism.Totality
import Linkage.Proofs.Mechanism.Velocity

namespace Linkage.Mechanism

/-!
# Readings in closed form

A snapshot that was taken of a mechanism answers every query about its frames.
Over a commutative ring the answer needs no distinction of the world: turning a
vector into the world by its identity matrix leaves it as it is, and
subtracting the velocity of the world subtracts nothing.
-/

variable {K T : Type}
variable [One K] [Add K] [Sub K] [Mul K]
variable [CommRing T] [Elementary T] [Constant K T]

variable {mechanism : Mechanism K}
variable {positions velocities rates : List T}
variable {snapshot moving : Snapshot T}

/-- A world vector is turned by the transposed rotation of the frame. -/
theorem Taken.express_eq
    (taken : mechanism.Taken positions velocities snapshot)
    {frame : FrameId}
    {motion : FrameMotion T}
    (found : snapshot.motion? frame = some motion)
    (vector : Vec3 T) :
    express snapshot frame vector =
      .ok (motion.rotation.transpose.apply vector) := by
  unfold express
  split
  · rename_i isWorld
    rw [taken.motion_world isWorld found]
    simp [FrameMotion.world]
  · rw [entry_eq_ok_iff.mpr found]
    rfl

/-- Where a point of one frame is, seen from another. -/
theorem Taken.pointPosition_eq
    (taken : mechanism.Taken positions velocities snapshot)
    {frame expressedIn : FrameId}
    {motion target : FrameMotion T}
    (found : snapshot.motion? frame = some motion)
    (targetFound : snapshot.motion? expressedIn = some target)
    (point : Vec3 T) :
    mechanism.pointPosition snapshot frame point expressedIn =
      .ok
        (target.rotation.transpose.apply
          (motion.pointPosition point - target.origin)) := by
  unfold pointPosition
  rw [taken.checkSnapshot_ok, taken.checkFrame_ok found,
    taken.checkFrame_ok targetFound, entry_eq_ok_iff.mpr found,
    entry_eq_ok_iff.mpr targetFound]
  exact taken.express_eq targetFound _

/-- The bias acceleration of a point of one frame, expressed in another. -/
theorem Taken.pointBias_eq
    (taken : mechanism.Taken positions velocities snapshot)
    {frame expressedIn : FrameId}
    {motion target : FrameMotion T}
    (found : snapshot.motion? frame = some motion)
    (targetFound : snapshot.motion? expressedIn = some target)
    (point : Vec3 T) :
    mechanism.pointBias snapshot frame point expressedIn =
      .ok
        (target.rotation.transpose.apply
          (motion.pointBias (motion.pointPosition point))) := by
  unfold pointBias
  rw [taken.checkSnapshot_ok, taken.checkFrame_ok found,
    taken.checkFrame_ok targetFound, entry_eq_ok_iff.mpr found]
  exact taken.express_eq targetFound _

/-- Where a point of a frame is in the world. -/
theorem Taken.pointPosition_world
    (taken : mechanism.Taken positions velocities snapshot)
    {frame : FrameId}
    {motion : FrameMotion T}
    (found : snapshot.motion? frame = some motion)
    (point : Vec3 T) :
    mechanism.pointPosition snapshot frame point .world =
      .ok (motion.pointPosition point) := by
  rw [taken.pointPosition_eq found taken.world_found]
  simp [FrameMotion.world]

/-- The bias acceleration of a point of a frame in the world. -/
theorem Taken.pointBias_world
    (taken : mechanism.Taken positions velocities snapshot)
    {frame : FrameId}
    {motion : FrameMotion T}
    (found : snapshot.motion? frame = some motion)
    (point : Vec3 T) :
    mechanism.pointBias snapshot frame point .world =
      .ok (motion.pointBias (motion.pointPosition point)) := by
  rw [taken.pointBias_eq found taken.world_found]
  simp [FrameMotion.world]

omit [One K] [Add K] [Sub K] [Mul K] [Elementary T] [Constant K T] in
/-- A relative Jacobian is the difference of two world Jacobians. -/
theorem relativeJacobian_eq
    {frame measuredIn : FrameId}
    {position : Vec3 T}
    {own reference : Columns T}
    (ownFound :
      mechanism.worldJacobian snapshot frame position = .ok own)
    (referenceFound :
      mechanism.worldJacobian snapshot measuredIn position =
        .ok reference)
    (width : own.length = mechanism.dofCount) :
    mechanism.relativeJacobian snapshot frame measuredIn position =
      .ok (own.subtract reference) := by
  unfold relativeJacobian
  rw [ownFound]
  cases isWorld : measuredIn.isWorld with
  | true =>
      obtain rfl : measuredIn = .world :=
        congrArg FrameId.mk (beq_iff_eq.mp isWorld)
      rw [worldJacobian_world] at referenceFound
      cases referenceFound
      rw [← width, Columns.subtract_zeros]
      rfl
  | false =>
      rw [referenceFound]
      rfl

/-- Columns are turned by the transposed rotation of the frame. -/
theorem Taken.expressColumns_eq
    (taken : mechanism.Taken positions velocities snapshot)
    {frame : FrameId}
    {motion : FrameMotion T}
    (found : snapshot.motion? frame = some motion)
    (columns : Columns T) :
    expressColumns snapshot frame columns =
      .ok (columns.rotate motion.rotation.transpose) := by
  unfold expressColumns
  split
  · rename_i isWorld
    rw [taken.motion_world isWorld found]
    simp [FrameMotion.world]
  · rw [entry_eq_ok_iff.mpr found]
    rfl

/--
The Jacobian of a point is the difference of the world Jacobians of two frames
at the place of the point, turned into the third.
-/
theorem Taken.pointJacobian_of_columns
    (taken : mechanism.Taken positions velocities snapshot)
    {frame measuredIn expressedIn : FrameId}
    {motion target : FrameMotion T}
    (found : snapshot.motion? frame = some motion)
    (referenceInside : mechanism.contains measuredIn = true)
    (targetFound : snapshot.motion? expressedIn = some target)
    {point : Vec3 T}
    {own reference : Columns T}
    (ownFound :
      mechanism.worldJacobian snapshot frame
        (motion.pointPosition point) = .ok own)
    (referenceFound :
      mechanism.worldJacobian snapshot measuredIn
        (motion.pointPosition point) = .ok reference)
    (width : own.length = mechanism.dofCount) :
    mechanism.pointJacobian snapshot frame point measuredIn expressedIn =
      .ok
        ((own.subtract reference).rotate target.rotation.transpose) := by
  rw [pointJacobian_eq, taken.checkSnapshot_ok, taken.checkFrame_ok found,
    checkFrame_of_contains referenceInside,
    taken.checkFrame_ok targetFound, entry_eq_ok_iff.mpr found]
  change mechanism.relativeJacobian snapshot frame measuredIn
    (motion.pointPosition point) >>= _ = _
  rw [relativeJacobian_eq ownFound referenceFound width]
  exact taken.expressColumns_eq targetFound _

/--
The Jacobian of a point, multiplied by rates, is the velocity of the point
relative to the frame it is measured in, expressed in the third frame.
-/
theorem pointJacobian_velocity
    (wellFormed : mechanism.WellFormed)
    (taken : mechanism.Taken positions velocities snapshot)
    (moved : mechanism.Taken positions rates moving)
    {frame measuredIn expressedIn : FrameId}
    {motion reference target : FrameMotion T}
    (found : moving.motion? frame = some motion)
    (referenceFound : moving.motion? measuredIn = some reference)
    (targetFound : moving.motion? expressedIn = some target)
    (point : Vec3 T) :
    ∃ columns,
      mechanism.pointJacobian snapshot frame point measuredIn expressedIn =
          .ok columns ∧
        columns.length = mechanism.dofCount ∧
        Columns.combine (columns.zip rates) =
            target.rotation.transpose.apply
              (motion.pointVelocity (motion.pointPosition point) -
                reference.pointVelocity
                  (motion.pointPosition point)) := by
  have inside := moved.contains_of_motion found
  have referenceInside := moved.contains_of_motion referenceFound
  have targetInside := moved.contains_of_motion targetFound
  obtain ⟨resting, restingFound⟩ := taken.motion_of_contains inside
  obtain ⟨restingTarget, restingTargetFound⟩ :=
    taken.motion_of_contains targetInside
  have same := taken.samePlace wellFormed moved restingFound found
  have sameTarget :=
    taken.samePlace wellFormed moved restingTargetFound targetFound
  obtain ⟨own, ownFound, ownWidth, ownVelocity⟩ :=
    worldJacobian_velocity wellFormed taken moved
      (motion.pointPosition point) found
  obtain ⟨other, otherFound, otherWidth, otherVelocity⟩ :=
    worldJacobian_velocity wellFormed taken moved
      (motion.pointPosition point) referenceFound
  rw [← same.pointPosition] at ownFound otherFound
  refine
    ⟨_, taken.pointJacobian_of_columns restingFound referenceInside
      restingTargetFound ownFound otherFound ownWidth, ?_, ?_⟩
  · simp [Columns.subtract, ownWidth, otherWidth]
  · rw [Columns.combine_rotate,
      Columns.combine_subtract (ownWidth.trans otherWidth.symm),
      ownVelocity, otherVelocity, sameTarget.rotation]

/-- In the world, the Jacobian of a point gives its velocity. -/
theorem pointJacobian_world_velocity
    (wellFormed : mechanism.WellFormed)
    (taken : mechanism.Taken positions velocities snapshot)
    (moved : mechanism.Taken positions rates moving)
    {frame : FrameId}
    {motion : FrameMotion T}
    (found : moving.motion? frame = some motion)
    (point : Vec3 T) :
    ∃ columns,
      mechanism.pointJacobian snapshot frame point .world .world =
          .ok columns ∧
        columns.length = mechanism.dofCount ∧
        Columns.combine (columns.zip rates) =
          motion.pointVelocity (motion.pointPosition point) := by
  obtain ⟨columns, columnsFound, width, velocity⟩ :=
    pointJacobian_velocity wellFormed taken moved found
      moved.world_found moved.world_found point
  refine ⟨columns, columnsFound, width, ?_⟩
  rw [velocity, FrameMotion.pointVelocity_world, Vec3.sub_zero]
  simp [FrameMotion.world]

/-- At one state, one matrix gives the velocities of a point at all rates. -/
theorem pointJacobian_world_columns
    (wellFormed : mechanism.WellFormed)
    (taken : mechanism.Taken positions velocities snapshot)
    {frame : FrameId}
    (inside : mechanism.contains frame = true)
    (point : Vec3 T) :
    ∃ columns,
      mechanism.pointJacobian snapshot frame point .world .world =
          .ok columns ∧
        columns.length = mechanism.dofCount ∧
        ∀ {rates : List T} {moving : Snapshot T} {motion : FrameMotion T},
          mechanism.Taken positions rates moving →
          moving.motion? frame = some motion →
          Columns.combine (columns.zip rates) =
            motion.pointVelocity (motion.pointPosition point) := by
  obtain ⟨resting, restingFound⟩ := taken.motion_of_contains inside
  obtain ⟨columns, columnsFound, width, _⟩ :=
    pointJacobian_world_velocity wellFormed taken taken restingFound point
  refine ⟨columns, columnsFound, width, ?_⟩
  intro rates moving motion moved found
  obtain ⟨same, sameFound, _, velocity⟩ :=
    pointJacobian_world_velocity wellFormed taken moved found point
  rw [columnsFound] at sameFound
  cases sameFound
  exact velocity

end Linkage.Mechanism
