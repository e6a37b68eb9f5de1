import Linkage.Proofs.Geometry.ScalarMap
import Linkage.Proofs.Mechanism.Query

namespace Linkage

/-!
# Changing the scalars of a snapshot

Taking a snapshot and reading it use nothing of the scalars but their
operations.  So a map that keeps the operations carries the snapshot at one
state to the snapshot at the mapped state, and each reading to the mapped
reading.  Failures are kept as well: they depend on lengths and numbers of
frames only.
-/

variable {K S T : Type}

/-- A motion with every number replaced by its image. -/
def FrameMotion.map
    (f : S → T)
    (motion : FrameMotion S) : FrameMotion T where
  rotation := motion.rotation.map f
  origin := motion.origin.map f
  angularVelocity := motion.angularVelocity.map f
  originVelocity := motion.originVelocity.map f
  angularBias := motion.angularBias.map f
  originBias := motion.originBias.map f
  axis := motion.axis.map f

/-- A snapshot with every number replaced by its image. -/
def Snapshot.map
    (f : S → T)
    (snapshot : Snapshot S) : Snapshot T where
  revision := snapshot.revision
  positions := snapshot.positions.map f
  velocities := snapshot.velocities.map f
  frames := snapshot.frames.map (FrameMotion.map f)

@[simp] theorem Snapshot.frames_map
    (f : S → T)
    (snapshot : Snapshot S) :
    (snapshot.map f).frames = snapshot.frames.map (FrameMotion.map f) := rfl

theorem Snapshot.motion?_map
    (f : S → T)
    {snapshot : Snapshot S}
    {frame : FrameId}
    {motion : FrameMotion S}
    (found : snapshot.motion? frame = some motion) :
    (snapshot.map f).motion? frame = some (motion.map f) := by
  rw [Snapshot.motion?] at found ⊢
  rw [Snapshot.frames_map, List.getElem?_map, found]
  rfl

/-- An entry of a mapped list is the mapped entry. -/
theorem entry_map
    {α β : Type}
    (g : α → β)
    (items : List α)
    (index : Nat) :
    entry (items.map g) index = g <$> entry items index := by
  unfold entry
  rw [List.getElem?_map]
  cases items[index]? <;> rfl

section Arithmetic

variable [Zero S] [One S] [Add S] [Sub S] [Neg S] [Mul S]
variable [Zero T] [One T] [Add T] [Sub T] [Neg T] [Mul T]

section PassedOn

variable [One K] [Add K] [Sub K] [Mul K]
variable [Elementary S] [Elementary T] [Constant K S] [Constant K T]

/--
A change of coordinates, of rates and of motions that each body passes on: from
the changed data its changed motion follows.
-/
structure PassedOn
    (K : Type)
    [One K] [Add K] [Sub K] [Mul K] [Constant K S] [Constant K T]
    (onCoordinate onRate : S → T)
    (onMotion : FrameMotion S → FrameMotion T) : Prop where
  coordinate_zero : onCoordinate 0 = 0
  rate_zero : onRate 0 = 0
  world : onMotion FrameMotion.world = FrameMotion.world
  follow :
    ∀ (parent : FrameMotion S) (body : Body K) (coordinate rate : S),
      (onMotion parent).follow body (onCoordinate coordinate)
          (onRate rate) =
        onMotion (parent.follow body coordinate rate)

namespace PassedOn

variable {onCoordinate onRate : S → T}
variable {onMotion : FrameMotion S → FrameMotion T}

/-- Changed numbers are read where the numbers were. -/
theorem coordinateOf_map
    (passed : PassedOn K onCoordinate onRate onMotion)
    (positions velocities : List S)
    (dof : Option Nat) :
    Mechanism.coordinateOf (positions.map onCoordinate)
        (velocities.map onRate) dof =
      Prod.map onCoordinate onRate <$>
        Mechanism.coordinateOf positions velocities dof := by
  cases dof with
  | none =>
      have zeros : ((0 : T), (0 : T)) = (onCoordinate 0, onRate 0) := by
        rw [passed.coordinate_zero, passed.rate_zero]
      exact congrArg Except.ok zeros
  | some index =>
      simp only [Mechanism.coordinateOf, entry_map]
      cases entry positions index with
      | error misuse => rfl
      | ok position =>
          cases entry velocities index <;> rfl

theorem sweep_map
    (passed : PassedOn K onCoordinate onRate onMotion)
    (positions velocities : List S)
    (bodies : List (Body K))
    (frames : List (FrameMotion S)) :
    Mechanism.sweep (positions.map onCoordinate)
        (velocities.map onRate) bodies (frames.map onMotion) =
      List.map onMotion <$>
        Mechanism.sweep positions velocities bodies frames := by
  induction bodies generalizing frames with
  | nil =>
      rfl
  | cons body rest inductionHypothesis =>
      simp only [Mechanism.sweep, entry_map, passed.coordinateOf_map]
      cases entry frames body.parent.index with
      | error misuse => rfl
      | ok parent =>
          cases Mechanism.coordinateOf positions velocities body.dof with
          | error misuse => rfl
          | ok pair =>
              have step :=
                inductionHypothesis
                  (frames ++ [parent.follow body pair.1 pair.2])
              rw [List.map_append, List.map_singleton,
                ← passed.follow] at step
              exact step

/-- The snapshot at a changed state is the changed snapshot. -/
theorem snapshot_map
    (passed : PassedOn K onCoordinate onRate onMotion)
    (mechanism : Mechanism K)
    (positions velocities : List S) :
    mechanism.snapshot (positions.map onCoordinate)
        (velocities.map onRate) =
      (fun snapshot =>
          { revision := snapshot.revision
            positions := snapshot.positions.map onCoordinate
            velocities := snapshot.velocities.map onRate
            frames := snapshot.frames.map onMotion }) <$>
        mechanism.snapshot positions velocities := by
  have swept :=
    passed.sweep_map positions velocities mechanism.bodies
      [FrameMotion.world]
  rw [List.map_singleton, passed.world] at swept
  unfold Mechanism.snapshot
  rw [List.length_map, List.length_map, swept]
  split
  · rfl
  · split
    · rfl
    · cases Mechanism.sweep positions velocities mechanism.bodies
        [FrameMotion.world] <;> rfl

end PassedOn

end PassedOn

variable (f : S → T) [PreservesArithmetic f]

namespace FrameMotion

@[simp] theorem map_world :
    (world : FrameMotion S).map f = world := by
  simp [world, FrameMotion.map]

theorem map_pointPosition
    (motion : FrameMotion S)
    (point : Vec3 S) :
    (motion.pointPosition point).map f =
      (motion.map f).pointPosition (point.map f) := by
  simp [pointPosition, FrameMotion.map]

theorem map_pointVelocity
    (motion : FrameMotion S)
    (position : Vec3 S) :
    (motion.pointVelocity position).map f =
      (motion.map f).pointVelocity (position.map f) := by
  simp [pointVelocity, FrameMotion.map]

theorem map_pointBias
    (motion : FrameMotion S)
    (position : Vec3 S) :
    (motion.pointBias position).map f =
      (motion.map f).pointBias (position.map f) := by
  simp [pointBias, FrameMotion.map]

/-- The motion of a body follows from mapped data as from the original. -/
theorem map_follow
    [One K] [Add K] [Sub K] [Mul K]
    [Elementary S] [Elementary T] [PreservesTrigonometry f]
    [Constant K S] [Constant K T] [PreservesConstants K f]
    (parent : FrameMotion S)
    (body : Body K)
    (coordinate rate : S) :
    (parent.follow body coordinate rate).map f =
      (parent.map f).follow body (f coordinate) (f rate) := by
  have constants := PreservesConstants.map_constant (K := K) (f := f)
  cases body with
  | mk name parentFrame joint offset dof =>
      cases joint <;>
        simp [follow, JointMotion.of, pointVelocity, FrameMotion.map,
          constants]

end FrameMotion

namespace Mechanism

/-- The snapshot at a mapped state is the mapped snapshot. -/
theorem snapshot_map
    [One K] [Add K] [Sub K] [Mul K]
    [Elementary S] [Elementary T] [PreservesTrigonometry f]
    [Constant K S] [Constant K T] [PreservesConstants K f]
    (mechanism : Mechanism K)
    (positions velocities : List S) :
    mechanism.snapshot (positions.map f) (velocities.map f) =
      Snapshot.map f <$> mechanism.snapshot positions velocities := by
  have passed : PassedOn K f f (FrameMotion.map f) :=
    { coordinate_zero := PreservesArithmetic.map_zero
      rate_zero := PreservesArithmetic.map_zero
      world := FrameMotion.map_world f
      follow := fun parent body coordinate rate =>
        (FrameMotion.map_follow f parent body coordinate rate).symm }
  exact passed.snapshot_map mechanism positions velocities

theorem express_map
    (snapshot : Snapshot S)
    (frame : FrameId)
    (vector : Vec3 S) :
    express (snapshot.map f) frame (vector.map f) =
      Vec3.map f <$> express snapshot frame vector := by
  simp only [express, Snapshot.map, entry_map]
  split
  · rfl
  · cases entry snapshot.frames frame.index with
    | error misuse => rfl
    | ok motion =>
        exact congrArg Except.ok
          (Mat3.map_apply f motion.rotation.transpose vector).symm

/-- The position of a mapped point is the mapped position. -/
theorem pointPosition_map
    (mechanism : Mechanism K)
    (snapshot : Snapshot S)
    (frame : FrameId)
    (point : Vec3 S)
    (expressedIn : FrameId) :
    mechanism.pointPosition (snapshot.map f) frame
        (point.map f) expressedIn =
      Vec3.map f <$>
        mechanism.pointPosition snapshot frame point expressedIn := by
  simp only [pointPosition, map_bind]
  refine bind_congr fun _ => bind_congr fun _ => bind_congr fun _ => ?_
  simp only [Snapshot.frames_map, entry_map, bind_map_left]
  refine bind_congr fun motion => bind_congr fun target => ?_
  have difference :
      (motion.map f).pointPosition (point.map f) -
          (target.map f).origin =
        (motion.pointPosition point - target.origin).map f := by
    rw [Vec3.map_sub, FrameMotion.map_pointPosition]
    rfl
  rw [difference, express_map]

theorem jointColumn_map
    (joint : Joint K)
    (motion : FrameMotion S)
    (position : Vec3 S) :
    jointColumn joint (motion.map f) (position.map f) =
      (jointColumn joint motion position).map f := by
  cases joint <;> simp [jointColumn, FrameMotion.map]

theorem writeColumns_map
    (snapshot : Snapshot S)
    (position : Vec3 S)
    (chain : List (Nat × Body K))
    (columns : Columns S) :
    writeColumns (snapshot.map f) (position.map f) chain
        (columns.map (Vec3.map f)) =
      List.map (Vec3.map f) <$>
        writeColumns snapshot position chain columns := by
  induction chain generalizing columns with
  | nil =>
      rfl
  | cons link rest inductionHypothesis =>
      obtain ⟨index, body⟩ := link
      cases dofShape : body.dof with
      | none =>
          rw [writeColumns_cons_of_none dofShape,
            writeColumns_cons_of_none dofShape]
          exact inductionHypothesis columns
      | some dof =>
          simp only [writeColumns, dofShape, Snapshot.frames_map,
            entry_map, bind_map_left, map_bind, List.length_map]
          refine bind_congr fun motion => ?_
          split
          · rw [jointColumn_map, ← List.map_set]
            exact inductionHypothesis _
          · rfl

theorem worldJacobian_map
    (mechanism : Mechanism K)
    (snapshot : Snapshot S)
    (frame : FrameId)
    (position : Vec3 S) :
    mechanism.worldJacobian (snapshot.map f) frame (position.map f) =
      List.map (Vec3.map f) <$>
        mechanism.worldJacobian snapshot frame position := by
  have zeros :
      (Columns.zeros mechanism.dofCount : Columns S).map (Vec3.map f) =
        Columns.zeros mechanism.dofCount := by
    simp [Columns.zeros]
  unfold worldJacobian
  cases mechanism.chain? frame.index with
  | none =>
      rfl
  | some chain =>
      simp only [← zeros]
      exact writeColumns_map f snapshot position chain _

theorem relativeJacobian_map
    (mechanism : Mechanism K)
    (snapshot : Snapshot S)
    (frame measuredIn : FrameId)
    (position : Vec3 S) :
    mechanism.relativeJacobian (snapshot.map f) frame measuredIn
        (position.map f) =
      List.map (Vec3.map f) <$>
        mechanism.relativeJacobian snapshot frame measuredIn position := by
  simp only [relativeJacobian, worldJacobian_map, map_bind,
    bind_map_left]
  refine bind_congr fun own => ?_
  split
  · rfl
  · simp only [Functor.map_map, Columns.map_subtract]

theorem expressColumns_map
    (snapshot : Snapshot S)
    (frame : FrameId)
    (columns : Columns S) :
    expressColumns (snapshot.map f) frame (columns.map (Vec3.map f)) =
      List.map (Vec3.map f) <$>
        expressColumns snapshot frame columns := by
  simp only [expressColumns, Snapshot.frames_map, entry_map]
  split
  · rfl
  · cases entry snapshot.frames frame.index with
    | error misuse => rfl
    | ok motion =>
        exact congrArg Except.ok
          (Columns.map_rotate f motion.rotation.transpose columns).symm

/-- The Jacobian of a mapped point is the mapped Jacobian. -/
theorem pointJacobian_map
    (mechanism : Mechanism K)
    (snapshot : Snapshot S)
    (frame : FrameId)
    (point : Vec3 S)
    (measuredIn expressedIn : FrameId) :
    mechanism.pointJacobian (snapshot.map f) frame
        (point.map f) measuredIn expressedIn =
      List.map (Vec3.map f) <$>
        mechanism.pointJacobian snapshot frame point
          measuredIn expressedIn := by
  simp only [pointJacobian_eq, map_bind]
  refine bind_congr fun _ => bind_congr fun _ =>
    bind_congr fun _ => bind_congr fun _ => ?_
  simp only [Snapshot.frames_map, entry_map, bind_map_left]
  refine bind_congr fun motion => ?_
  rw [← FrameMotion.map_pointPosition, relativeJacobian_map,
    bind_map_left]
  exact bind_congr fun relative => expressColumns_map f _ _ relative

/-- The bias acceleration of a mapped point is the mapped one. -/
theorem pointBias_map
    (mechanism : Mechanism K)
    (snapshot : Snapshot S)
    (frame : FrameId)
    (point : Vec3 S)
    (expressedIn : FrameId) :
    mechanism.pointBias (snapshot.map f) frame
        (point.map f) expressedIn =
      Vec3.map f <$>
        mechanism.pointBias snapshot frame point expressedIn := by
  simp only [pointBias, map_bind]
  refine bind_congr fun _ => bind_congr fun _ => bind_congr fun _ => ?_
  simp only [Snapshot.frames_map, entry_map, bind_map_left]
  refine bind_congr fun motion => ?_
  rw [← FrameMotion.map_pointPosition, ← FrameMotion.map_pointBias,
    express_map]

end Mechanism

end Arithmetic

end Linkage
