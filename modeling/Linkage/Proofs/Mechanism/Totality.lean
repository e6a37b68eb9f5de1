import Linkage.Proofs.Mechanism.Query
import Linkage.Proofs.Mechanism.Sweep

namespace Linkage.Mechanism

/-!
# Queries that are always answered

A snapshot that was taken of a grounded mechanism has a motion for every frame,
and every link of a chain is a body whose coordinate is one of the mechanism's.
So a query about frames of the mechanism meets no index out of range, and a
Jacobian has one column for each coordinate.  Nothing is asked of the numbers,
which may be rounded or not be numbers at all.
-/

variable {K T : Type}

theorem checkFrame_of_contains
    {mechanism : Mechanism K}
    {frame : FrameId}
    (inside : mechanism.contains frame = true) :
    mechanism.checkFrame frame = .ok () := by
  rw [checkFrame, if_pos inside]

/-- Links that have a motion and a column are written. -/
theorem writeColumns_ok
    [Zero T] [Sub T] [Mul T]
    {snapshot : Snapshot T}
    (position : Vec3 T)
    {chain : List (Nat × Body K)}
    {columns : Columns T}
    (inside :
      ∀ link ∈ chain,
        link.1 < snapshot.frames.length ∧
          ∀ dof, link.2.dof = some dof → dof < columns.length) :
    ∃ written,
      writeColumns snapshot position chain columns = .ok written ∧
        written.length = columns.length := by
  induction chain generalizing columns with
  | nil =>
      exact ⟨columns, rfl, rfl⟩
  | cons link rest inductionHypothesis =>
      obtain ⟨index, body⟩ := link
      obtain ⟨frameInside, dofInside⟩ := inside (index, body) (.head rest)
      have restInside :
          ∀ link ∈ rest,
            link.1 < snapshot.frames.length ∧
              ∀ dof, link.2.dof = some dof → dof < columns.length :=
        fun link member => inside link (.tail _ member)
      cases dofShape : body.dof with
      | none =>
          obtain ⟨written, accepted, width⟩ :=
            inductionHypothesis restInside
          refine ⟨written, ?_, width⟩
          rwa [writeColumns_cons_of_none dofShape]
      | some dof =>
          let column :=
            jointColumn body.joint snapshot.frames[index] position
          have sameWidth : (columns.set dof column).length = columns.length :=
            List.length_set
          obtain ⟨written, accepted, width⟩ :=
            inductionHypothesis (by rwa [sameWidth])
          have link :=
            (writeColumns_cons_eq_ok_iff dofShape).mpr
              ⟨_, List.getElem?_eq_getElem frameInside,
                dofInside dof dofShape, accepted⟩
          exact ⟨written, link, width.trans sameWidth⟩

variable [One K] [Add K] [Sub K] [Mul K]
variable [Zero T] [One T] [Add T] [Sub T] [Neg T] [Mul T]
variable [Elementary T] [Constant K T]

variable {mechanism : Mechanism K}
variable {positions velocities : List T}
variable {snapshot : Snapshot T}

/-- Positions of the wrong length are refused, whatever the velocities are. -/
theorem snapshot_of_positionCount_ne
    (wrong : positions.length ≠ mechanism.dofCount) :
    (mechanism.snapshot positions velocities :
        Except (Failure K) (Snapshot T)) =
      .error
        (.refused
          (.dimensionMismatch .positions
            mechanism.dofCount positions.length)) :=
  if_pos wrong

/-- With positions of the right length, velocities of the wrong are refused. -/
theorem snapshot_of_velocityCount_ne
    (positionCount : positions.length = mechanism.dofCount)
    (wrong : velocities.length ≠ mechanism.dofCount) :
    (mechanism.snapshot positions velocities :
        Except (Failure K) (Snapshot T)) =
      .error
        (.refused
          (.dimensionMismatch .velocities
            mechanism.dofCount velocities.length)) := by
  rw [snapshot, if_neg (not_not_intro positionCount), if_pos wrong]

theorem Taken.checkSnapshot_ok
    (taken : mechanism.Taken positions velocities snapshot) :
    mechanism.checkSnapshot snapshot = .ok () := by
  simp [checkSnapshot, taken.revision_eq]

/-- A frame that has a motion is one of the mechanism. -/
theorem Taken.contains_of_motion
    (taken : mechanism.Taken positions velocities snapshot)
    {frame : FrameId}
    {motion : FrameMotion T}
    (found : snapshot.motion? frame = some motion) :
    mechanism.contains frame = true := by
  have inside := (List.getElem?_eq_some_iff.mp found).1
  rw [taken.swept.count] at inside
  exact decide_eq_true inside

theorem Taken.checkFrame_ok
    (taken : mechanism.Taken positions velocities snapshot)
    {frame : FrameId}
    {motion : FrameMotion T}
    (found : snapshot.motion? frame = some motion) :
    mechanism.checkFrame frame = .ok () :=
  checkFrame_of_contains (taken.contains_of_motion found)

/-- A frame of the mechanism has a motion in every snapshot of it. -/
theorem Taken.motion_of_contains
    (taken : mechanism.Taken positions velocities snapshot)
    {frame : FrameId}
    (inside : mechanism.contains frame = true) :
    ∃ motion, snapshot.motion? frame = some motion :=
  taken.motion_exists (of_decide_eq_true inside)

theorem Taken.world_found
    (taken : mechanism.Taken positions velocities snapshot) :
    snapshot.motion? .world = some FrameMotion.world :=
  taken.swept.world

theorem Taken.motion_world
    (taken : mechanism.Taken positions velocities snapshot)
    {frame : FrameId}
    (isWorld : frame.isWorld = true)
    {motion : FrameMotion T}
    (found : snapshot.motion? frame = some motion) :
    motion = FrameMotion.world := by
  have number : frame.index = 0 := by
    simpa [FrameId.isWorld] using isWorld
  rw [Snapshot.motion?, number, taken.swept.world] at found
  exact (Option.some.inj found).symm

/-- A frame of the mechanism has an entry. -/
theorem Taken.entry_ok
    (taken : mechanism.Taken positions velocities snapshot)
    {frame : FrameId}
    (inside : mechanism.contains frame = true) :
    ∃ motion, entry snapshot.frames frame.index = .ok motion := by
  obtain ⟨motion, found⟩ := taken.motion_of_contains inside
  exact ⟨motion, entry_eq_ok_iff.mpr found⟩

/-- A vector can be expressed in every frame of the mechanism. -/
theorem Taken.express_ok
    (taken : mechanism.Taken positions velocities snapshot)
    {frame : FrameId}
    (inside : mechanism.contains frame = true)
    (vector : Vec3 T) :
    ∃ turned, express snapshot frame vector = .ok turned := by
  obtain ⟨motion, found⟩ := taken.entry_ok inside
  unfold express
  cases frame.isWorld with
  | true =>
      exact ⟨vector, rfl⟩
  | false =>
      rw [found]
      exact ⟨_, rfl⟩

/-- A point of a frame can be seen from every frame. -/
theorem Taken.pointPosition_ok
    (taken : mechanism.Taken positions velocities snapshot)
    {frame expressedIn : FrameId}
    (inside : mechanism.contains frame = true)
    (targetInside : mechanism.contains expressedIn = true)
    (point : Vec3 T) :
    ∃ position,
      mechanism.pointPosition snapshot frame point expressedIn =
        .ok position := by
  obtain ⟨motion, found⟩ := taken.entry_ok inside
  obtain ⟨target, targetFound⟩ := taken.entry_ok targetInside
  unfold pointPosition
  rw [taken.checkSnapshot_ok, checkFrame_of_contains inside,
    checkFrame_of_contains targetInside, found, targetFound]
  exact taken.express_ok targetInside _

/-- A point of a frame has a bias acceleration in every frame. -/
theorem Taken.pointBias_ok
    (taken : mechanism.Taken positions velocities snapshot)
    {frame expressedIn : FrameId}
    (inside : mechanism.contains frame = true)
    (targetInside : mechanism.contains expressedIn = true)
    (point : Vec3 T) :
    ∃ bias,
      mechanism.pointBias snapshot frame point expressedIn =
        .ok bias := by
  obtain ⟨motion, found⟩ := taken.entry_ok inside
  unfold pointBias
  rw [taken.checkSnapshot_ok, checkFrame_of_contains inside,
    checkFrame_of_contains targetInside, found]
  exact taken.express_ok targetInside _

/-- Every frame has a world Jacobian, with a column for each coordinate. -/
theorem Taken.worldJacobian_ok
    (grounded : mechanism.Grounded)
    (taken : mechanism.Taken positions velocities snapshot)
    {frame : FrameId}
    (inside : mechanism.contains frame = true)
    (position : Vec3 T) :
    ∃ columns,
      mechanism.worldJacobian snapshot frame position = .ok columns ∧
        columns.length = mechanism.dofCount := by
  have frameInside : frame.index < mechanism.frameCount :=
    of_decide_eq_true inside
  obtain ⟨chain, hasChain⟩ := grounded.chain_exists frameInside
  have linksInside :
      ∀ link ∈ chain,
        link.1 < snapshot.frames.length ∧
          ∀ dof, link.2.dof = some dof →
            dof < (Columns.zeros mechanism.dofCount : Columns T).length := by
    intro link member
    obtain ⟨place, number, before, found⟩ :=
      grounded.link_found frameInside hasChain link member
    have bodyInside := (List.getElem?_eq_some_iff.mp found).1
    refine ⟨?_, fun dof hasDof => ?_⟩
    · rw [number, taken.swept.count]
      exact Nat.succ_lt_succ bodyInside
    · rw [Columns.length_zeros]
      exact grounded.dof_lt found hasDof
  obtain ⟨columns, written, width⟩ := writeColumns_ok position linksInside
  refine ⟨columns, ?_, width.trans (Columns.length_zeros _)⟩
  rw [worldJacobian, hasChain]
  exact written

/-- The Jacobians of two frames can be subtracted. -/
theorem Taken.relativeJacobian_ok
    (grounded : mechanism.Grounded)
    (taken : mechanism.Taken positions velocities snapshot)
    {frame measuredIn : FrameId}
    (inside : mechanism.contains frame = true)
    (referenceInside : mechanism.contains measuredIn = true)
    (position : Vec3 T) :
    ∃ columns,
      mechanism.relativeJacobian snapshot frame measuredIn position =
          .ok columns ∧
        columns.length = mechanism.dofCount := by
  obtain ⟨own, ownFound, ownWidth⟩ :=
    taken.worldJacobian_ok grounded inside position
  obtain ⟨other, otherFound, otherWidth⟩ :=
    taken.worldJacobian_ok grounded referenceInside position
  unfold relativeJacobian
  rw [ownFound]
  cases measuredIn.isWorld with
  | true =>
      exact ⟨own, rfl, ownWidth⟩
  | false =>
      refine ⟨Columns.subtract own other, ?_, ?_⟩
      · rw [otherFound]
        rfl
      · simp [Columns.subtract, ownWidth, otherWidth]

/-- Columns can be expressed in every frame of the mechanism. -/
theorem Taken.expressColumns_ok
    (taken : mechanism.Taken positions velocities snapshot)
    {frame : FrameId}
    (inside : mechanism.contains frame = true)
    (columns : Columns T) :
    ∃ turned,
      expressColumns snapshot frame columns = .ok turned ∧
        turned.length = columns.length := by
  obtain ⟨motion, found⟩ := taken.entry_ok inside
  unfold expressColumns
  cases frame.isWorld with
  | true =>
      exact ⟨columns, rfl, rfl⟩
  | false =>
      rw [found]
      exact ⟨_, rfl, Columns.length_rotate _ _⟩

/-- Every point has a Jacobian, with a column for each coordinate. -/
theorem Taken.pointJacobian_ok
    (grounded : mechanism.Grounded)
    (taken : mechanism.Taken positions velocities snapshot)
    {frame measuredIn expressedIn : FrameId}
    (inside : mechanism.contains frame = true)
    (referenceInside : mechanism.contains measuredIn = true)
    (targetInside : mechanism.contains expressedIn = true)
    (point : Vec3 T) :
    ∃ columns,
      mechanism.pointJacobian snapshot frame point measuredIn expressedIn =
          .ok columns ∧
        columns.length = mechanism.dofCount := by
  obtain ⟨motion, found⟩ := taken.entry_ok inside
  obtain ⟨relative, relativeFound, width⟩ :=
    taken.relativeJacobian_ok grounded inside referenceInside
      (motion.pointPosition point)
  obtain ⟨turned, turnedFound, turnedWidth⟩ :=
    taken.expressColumns_ok targetInside relative
  refine ⟨turned, ?_, turnedWidth.trans width⟩
  rw [pointJacobian_eq, taken.checkSnapshot_ok,
    checkFrame_of_contains inside, checkFrame_of_contains referenceInside,
    checkFrame_of_contains targetInside, found]
  change mechanism.relativeJacobian _ _ _ _ >>= _ = _
  rw [relativeFound]
  exact turnedFound

/-- A Jacobian has a column for each coordinate. -/
theorem Taken.length_pointJacobian
    (grounded : mechanism.Grounded)
    (taken : mechanism.Taken positions velocities snapshot)
    {frame measuredIn expressedIn : FrameId}
    (inside : mechanism.contains frame = true)
    (referenceInside : mechanism.contains measuredIn = true)
    (targetInside : mechanism.contains expressedIn = true)
    {point : Vec3 T}
    {columns : Columns T}
    (found :
      mechanism.pointJacobian snapshot frame point measuredIn expressedIn =
        .ok columns) :
    columns.length = mechanism.dofCount := by
  obtain ⟨sameColumns, sameFound, width⟩ :=
    taken.pointJacobian_ok grounded inside referenceInside targetInside
      point
  rw [found] at sameFound
  cases sameFound
  exact width

end Linkage.Mechanism
