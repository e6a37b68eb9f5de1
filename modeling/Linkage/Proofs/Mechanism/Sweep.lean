import Linkage.Mechanism.Snapshot
import Linkage.Proofs.Mechanism.Structure

namespace Linkage.Mechanism

/-!
# What a snapshot holds

A snapshot of a well-formed mechanism holds the world first and then, for each
body, the motion that follows from its parent's.  That description determines
the snapshot and replaces the sweep in every later argument: what holds of the
world and passes from a parent to its bodies holds of all frames.
-/

variable {K S T : Type}

/-- A body with a coordinate reads its state at that coordinate. -/
theorem coordinateOf_some_iff
    [Zero T]
    {positions velocities : List T}
    {index : Nat}
    {state : T × T} :
    coordinateOf positions velocities (some index) = .ok state ↔
      positions[index]? = some state.1 ∧
        velocities[index]? = some state.2 := by
  obtain ⟨coordinate, rate⟩ := state
  simp only [coordinateOf, entry]
  cases positions[index]? with
  | none =>
      constructor
      · intro found
        cases found
      · rintro ⟨⟨⟩, _⟩
  | some position =>
      cases velocities[index]? with
      | none =>
          constructor
          · intro found
            cases found
          · rintro ⟨_, ⟨⟩⟩
      | some velocity =>
          constructor
          · intro found
            cases found
            exact ⟨rfl, rfl⟩
          · rintro ⟨⟨⟩, ⟨⟩⟩
            rfl

/-- The coordinate of a body does not depend on rates. -/
theorem coordinate_eq
    [Zero T]
    {positions velocities rates : List T}
    {dof : Option Nat}
    {state movingState : T × T}
    (found : coordinateOf positions velocities dof = .ok state)
    (movingFound : coordinateOf positions rates dof = .ok movingState) :
    state.1 = movingState.1 := by
  cases dof with
  | none =>
      cases found
      cases movingFound
      rfl
  | some index =>
      have first := (coordinateOf_some_iff.mp found).1
      have second := (coordinateOf_some_iff.mp movingFound).1
      rw [first] at second
      exact Option.some.inj second

/-- The coordinate of a body is read at its place only. -/
theorem coordinateOf_congr
    [Zero T]
    {positions velocities otherPositions otherVelocities : List T}
    {dof : Option Nat}
    (agree :
      ∀ index, dof = some index →
        positions[index]? = otherPositions[index]? ∧
          velocities[index]? = otherVelocities[index]?) :
    coordinateOf positions velocities dof =
      coordinateOf otherPositions otherVelocities dof := by
  cases dof with
  | none =>
      rfl
  | some index =>
      obtain ⟨samePosition, sameVelocity⟩ := agree index rfl
      simp only [coordinateOf, entry, samePosition, sameVelocity]

/-- A body with a coordinate of the mechanism finds its state. -/
theorem coordinateOf_ok
    [Zero T]
    {positions velocities : List T}
    {dof : Option Nat}
    (inside :
      ∀ index, dof = some index →
        index < positions.length ∧ index < velocities.length) :
    ∃ state, coordinateOf positions velocities dof = .ok state := by
  cases dof with
  | none =>
      exact ⟨(0, 0), rfl⟩
  | some index =>
      obtain ⟨positionInside, velocityInside⟩ := inside index rfl
      exact ⟨(positions[index], velocities[index]),
        coordinateOf_some_iff.mpr
          ⟨List.getElem?_eq_getElem positionInside,
            List.getElem?_eq_getElem velocityInside⟩⟩

variable [One K] [Add K] [Sub K] [Mul K]

section Sweep

variable [Zero T] [One T] [Add T] [Sub T] [Neg T] [Mul T]
variable [Elementary T] [Constant K T]

/-- The frames of a list of bodies at a state. -/
structure Swept
    (positions velocities : List T)
    (bodies : List (Body K))
    (frames : List (FrameMotion T)) : Prop where
  count : frames.length = bodies.length + 1
  world : frames[0]? = some FrameMotion.world
  follows :
    ∀ {index : Nat} {body : Body K},
      bodies[index]? = some body →
      ∃ parent state,
        frames[body.parent.index]? = some parent ∧
          coordinateOf positions velocities body.dof = .ok state ∧
          frames[index + 1]? =
            some (parent.follow body state.1 state.2)

namespace Swept

variable {positions velocities : List T}

/-- Before any body there is the world. -/
theorem nil :
    Swept positions velocities ([] : List (Body K))
      [FrameMotion.world] where
  count := rfl
  world := rfl
  follows found := by simp at found

/-- One more body adds the motion that follows from its parent's. -/
theorem append
    {bodies : List (Body K)}
    {frames : List (FrameMotion T)}
    (swept : Swept positions velocities bodies frames)
    {body : Body K}
    {parent : FrameMotion T}
    {state : T × T}
    (parentFound : frames[body.parent.index]? = some parent)
    (stateFound : coordinateOf positions velocities body.dof = .ok state) :
    Swept positions velocities (bodies ++ [body])
      (frames ++ [parent.follow body state.1 state.2]) where
  count := by
    simp [swept.count]
  world := by
    rw [List.getElem?_append_left (by simp [swept.count])]
    exact swept.world
  follows {index other} found := by
    have keep :
        ∀ {place : Nat} {motion : FrameMotion T},
          frames[place]? = some motion →
          (frames ++ [parent.follow body state.1 state.2])[place]? =
            some motion := by
      intro place motion old
      have inside := (List.getElem?_eq_some_iff.mp old).1
      rw [List.getElem?_append_left inside]
      exact old
    rcases earlier_or_last found with earlier | ⟨rfl, rfl⟩
    · obtain ⟨otherParent, otherState, parentShape, stateShape, shape⟩ :=
        swept.follows earlier
      exact ⟨otherParent, otherState, keep parentShape, stateShape,
        keep shape⟩
    · refine ⟨parent, state, keep parentFound, stateFound, ?_⟩
      rw [← swept.count]
      simp

end Swept

/-- A sweep over the bodies that are left completes the frames. -/
theorem sweep_swept
    {positions velocities : List T}
    {rest done : List (Body K)}
    {frames : List (FrameMotion T)}
    (swept : Swept positions velocities done frames)
    (parentBefore :
      ∀ (index : Nat) (body : Body K),
        (done ++ rest)[index]? = some body →
        body.parent.index ≤ index)
    (dofInside :
      ∀ body ∈ rest, ∀ index, body.dof = some index →
        index < positions.length ∧ index < velocities.length) :
    ∃ allFrames,
      sweep positions velocities rest frames = .ok allFrames ∧
        Swept positions velocities (done ++ rest) allFrames := by
  induction rest generalizing done frames with
  | nil =>
      exact ⟨frames, rfl, by simpa using swept⟩
  | cons body rest inductionHypothesis =>
      have bodyFound : (done ++ body :: rest)[done.length]? = some body := by
        simp
      have parentInside : body.parent.index < frames.length := by
        rw [swept.count]
        exact Nat.lt_succ_of_le (parentBefore _ body bodyFound)
      have parentFound := List.getElem?_eq_getElem parentInside
      obtain ⟨state, stateFound⟩ :=
        coordinateOf_ok (dofInside body (by simp))
      obtain ⟨allFrames, found, complete⟩ :=
        inductionHypothesis
          (swept.append parentFound stateFound)
          (by simpa using parentBefore)
          (fun other member => dofInside other (by simp [member]))
      refine ⟨allFrames, ?_, by simpa using complete⟩
      rw [sweep, entry_of_lt parentInside, stateFound]
      exact found

/--
A sweep that comes to its end has found every parent among the frames before and
every coordinate among those of the state.
-/
theorem swept_of_sweep
    {positions velocities : List T}
    {rest done : List (Body K)}
    {frames allFrames : List (FrameMotion T)}
    (swept : Swept positions velocities done frames)
    (completed :
      sweep positions velocities rest frames = .ok allFrames) :
    Swept positions velocities (done ++ rest) allFrames ∧
      ∀ {index : Nat} {body : Body K},
        rest[index]? = some body →
        body.parent.index ≤ done.length + index ∧
          ∀ dof, body.dof = some dof → dof < positions.length := by
  induction rest generalizing done frames with
  | nil =>
      cases completed
      exact ⟨by simpa using swept, by simp⟩
  | cons body rest inductionHypothesis =>
      rw [sweep] at completed
      cases parentEntry : entry frames body.parent.index with
      | error misuse =>
          rw [parentEntry] at completed
          cases completed
      | ok parent =>
          cases stateFound :
              coordinateOf positions velocities body.dof with
          | error misuse =>
              rw [parentEntry, stateFound] at completed
              cases completed
          | ok state =>
              rw [parentEntry, stateFound] at completed
              have parentFound := entry_eq_ok_iff.mp parentEntry
              obtain ⟨complete, inside⟩ :=
                inductionHypothesis
                  (swept.append parentFound stateFound) completed
              refine ⟨by simpa using complete, ?_⟩
              intro index other found
              cases index with
              | zero =>
                  cases found
                  have parentInside :=
                    (List.getElem?_eq_some_iff.mp parentFound).1
                  rw [swept.count] at parentInside
                  refine ⟨Nat.le_of_lt_succ parentInside, ?_⟩
                  intro dof hasDof
                  rw [hasDof] at stateFound
                  have positionFound :=
                    (coordinateOf_some_iff.mp stateFound).1
                  exact (List.getElem?_eq_some_iff.mp positionFound).1
              | succ index =>
                  obtain ⟨parentBefore, dofInside⟩ := inside found
                  rw [List.length_append, List.length_singleton]
                    at parentBefore
                  exact ⟨by omega, dofInside⟩

/-- What it means that a snapshot was taken of a mechanism at a state. -/
structure Taken
    (mechanism : Mechanism K)
    (positions velocities : List T)
    (snapshot : Snapshot T) : Prop where
  revision_eq : snapshot.revision = mechanism.revision
  velocities_eq : snapshot.velocities = velocities
  swept : Swept positions velocities mechanism.bodies snapshot.frames

/-- A snapshot holds what its state and the sweep over all bodies give. -/
theorem snapshot_eq_ok_iff
    {mechanism : Mechanism K}
    {positions velocities : List T}
    {snapshot : Snapshot T} :
    mechanism.snapshot positions velocities = .ok snapshot ↔
      positions.length = mechanism.dofCount ∧
        velocities.length = mechanism.dofCount ∧
        ∃ frames,
          sweep positions velocities mechanism.bodies
              [FrameMotion.world] = .ok frames ∧
            snapshot =
              ⟨mechanism.revision, positions, velocities, frames⟩ := by
  unfold Mechanism.snapshot
  by_cases positionCount : positions.length = mechanism.dofCount
  · by_cases velocityCount : velocities.length = mechanism.dofCount
    · rw [if_neg (not_not_intro positionCount),
        if_neg (not_not_intro velocityCount)]
      cases sweep positions velocities mechanism.bodies
          [FrameMotion.world] with
      | error misuse =>
          constructor
          · intro impossible
            cases impossible
          · rintro ⟨_, _, _, ⟨⟩, _⟩
      | ok frames =>
          constructor
          · intro found
            cases found
            exact ⟨positionCount, velocityCount, frames, rfl, rfl⟩
          · rintro ⟨_, _, _, ⟨⟩, rfl⟩
            rfl
    · rw [if_neg (not_not_intro positionCount), if_pos velocityCount]
      constructor
      · intro impossible
        cases impossible
      · rintro ⟨_, sameCount, _⟩
        exact absurd sameCount velocityCount
  · rw [if_pos positionCount]
    constructor
    · intro impossible
      cases impossible
    · rintro ⟨sameCount, _⟩
      exact absurd sameCount positionCount

/-- A snapshot was taken of a grounded mechanism, whoever made it. -/
theorem grounded_of_snapshot
    {mechanism : Mechanism K}
    {positions velocities : List T}
    {snapshot : Snapshot T}
    (found : mechanism.snapshot positions velocities = .ok snapshot) :
    mechanism.Grounded ∧
      mechanism.Taken positions velocities snapshot := by
  obtain ⟨positionCount, _, frames, completed, rfl⟩ :=
    snapshot_eq_ok_iff.mp found
  obtain ⟨swept, inside⟩ := swept_of_sweep Swept.nil completed
  refine ⟨⟨?_, ?_⟩, rfl, rfl, swept⟩
  · intro index body bodyFound
    have parentBefore := (inside bodyFound).1
    rwa [List.length_nil, Nat.zero_add] at parentBefore
  · intro index dof body bodyFound hasDof
    rw [← positionCount]
    exact (inside bodyFound).2 dof hasDof

/-- A grounded mechanism has a snapshot at every state of its size. -/
theorem Grounded.snapshot_ok
    {mechanism : Mechanism K}
    (grounded : mechanism.Grounded)
    {positions velocities : List T}
    (positionCount : positions.length = mechanism.dofCount)
    (velocityCount : velocities.length = mechanism.dofCount) :
    ∃ snapshot : Snapshot T,
      mechanism.snapshot positions velocities = .ok snapshot ∧
        mechanism.Taken positions velocities snapshot := by
  have dofInside :
      ∀ body ∈ mechanism.bodies, ∀ index, body.dof = some index →
        index < positions.length ∧ index < velocities.length := by
    intro body member index hasDof
    obtain ⟨place, found⟩ := List.mem_iff_getElem?.mp member
    rw [positionCount, velocityCount]
    exact ⟨grounded.dof_lt found hasDof, grounded.dof_lt found hasDof⟩
  obtain ⟨frames, found, swept⟩ :=
    sweep_swept Swept.nil
      (fun _ _ found => grounded.parentBefore found) dofInside
  exact
    ⟨⟨mechanism.revision, positions, velocities, frames⟩,
      snapshot_eq_ok_iff.mpr
        ⟨positionCount, velocityCount, frames, found, rfl⟩,
      rfl, rfl, swept⟩

/-- A well-formed mechanism has a snapshot at every state of its size. -/
theorem WellFormed.snapshot_ok
    {mechanism : Mechanism K}
    (wellFormed : mechanism.WellFormed)
    {positions velocities : List T}
    (positionCount : positions.length = mechanism.dofCount)
    (velocityCount : velocities.length = mechanism.dofCount) :
    ∃ snapshot : Snapshot T,
      mechanism.snapshot positions velocities = .ok snapshot ∧
        mechanism.Taken positions velocities snapshot :=
  wellFormed.grounded.snapshot_ok positionCount velocityCount

namespace Taken

variable {mechanism : Mechanism K}
variable {positions velocities : List T}
variable {snapshot : Snapshot T}

/-- A snapshot has the motion of every frame. -/
theorem motion_exists
    (taken : mechanism.Taken positions velocities snapshot)
    {frame : Nat}
    (inside : frame < mechanism.frameCount) :
    ∃ motion, snapshot.frames[frame]? = some motion :=
  ⟨_, List.getElem?_eq_getElem (by rw [taken.swept.count]; exact inside)⟩

/-- Every frame but the world is that of a body. -/
theorem body_of_succ
    (taken : mechanism.Taken positions velocities snapshot)
    {place : Nat}
    {motion : FrameMotion T}
    (found : snapshot.frames[place + 1]? = some motion) :
    ∃ body, mechanism.bodies[place]? = some body := by
  have inside := (List.getElem?_eq_some_iff.mp found).1
  rw [taken.swept.count] at inside
  exact ⟨_, List.getElem?_eq_getElem (Nat.lt_of_succ_lt_succ inside)⟩

end Taken

end Sweep

variable [Zero S] [One S] [Add S] [Sub S] [Neg S] [Mul S]
variable [Elementary S] [Constant K S]
variable [Zero T] [One T] [Add T] [Sub T] [Neg T] [Mul T]
variable [Elementary T] [Constant K T]

/--
Snapshots of two mechanisms whose bodies hang from the same frames are related
frame by frame if the world is related to itself and the relation passes from
parents to the bodies at the same place.
-/
theorem Taken.related_of_sameParents
    {mechanism otherMechanism : Mechanism K}
    (wellFormed : mechanism.WellFormed)
    {positions velocities : List S}
    {snapshot : Snapshot S}
    (first : mechanism.Taken positions velocities snapshot)
    {otherPositions otherVelocities : List T}
    {otherSnapshot : Snapshot T}
    (second :
      otherMechanism.Taken otherPositions otherVelocities otherSnapshot)
    (sameParents :
      ∀ {place : Nat} {body otherBody : Body K},
        mechanism.bodies[place]? = some body →
        otherMechanism.bodies[place]? = some otherBody →
        otherBody.parent = body.parent)
    (Related : FrameMotion S → FrameMotion T → Prop)
    (world : Related FrameMotion.world FrameMotion.world)
    (follow :
      ∀ {place : Nat} {body otherBody : Body K},
        mechanism.bodies[place]? = some body →
        otherMechanism.bodies[place]? = some otherBody →
        ∀ {parent : FrameMotion S} {otherParent : FrameMotion T}
          {state : S × S} {otherState : T × T},
          coordinateOf positions velocities body.dof = .ok state →
          coordinateOf otherPositions otherVelocities otherBody.dof =
            .ok otherState →
          Related parent otherParent →
          Related (parent.follow body state.1 state.2)
            (otherParent.follow otherBody otherState.1 otherState.2))
    {frame : Nat}
    {motion : FrameMotion S}
    {otherMotion : FrameMotion T}
    (found : snapshot.frames[frame]? = some motion)
    (otherFound : otherSnapshot.frames[frame]? = some otherMotion) :
    Related motion otherMotion := by
  induction frame using Nat.strongRecOn generalizing motion otherMotion with
  | ind frame inductionHypothesis =>
      cases frame with
      | zero =>
          rw [first.swept.world] at found
          rw [second.swept.world] at otherFound
          cases found
          cases otherFound
          exact world
      | succ place =>
          obtain ⟨body, bodyFound⟩ := first.body_of_succ found
          obtain ⟨otherBody, otherBodyFound⟩ :=
            second.body_of_succ otherFound
          obtain ⟨parent, state, parentFound, stateFound, shape⟩ :=
            first.swept.follows bodyFound
          obtain ⟨otherParent, otherState, otherParentFound,
              otherStateFound, otherShape⟩ :=
            second.swept.follows otherBodyFound
          rw [shape] at found
          rw [otherShape] at otherFound
          rw [sameParents bodyFound otherBodyFound] at otherParentFound
          cases found
          cases otherFound
          exact
            follow bodyFound otherBodyFound stateFound otherStateFound
              (inductionHypothesis _
                (Nat.lt_succ_of_le (wellFormed.parentBefore bodyFound))
                parentFound otherParentFound)

/--
Two snapshots of one mechanism are related frame by frame if the world is
related to itself and the relation passes from parents to their bodies.
-/
theorem Taken.related
    {mechanism : Mechanism K}
    (wellFormed : mechanism.WellFormed)
    {positions velocities : List S}
    {snapshot : Snapshot S}
    (first : mechanism.Taken positions velocities snapshot)
    {otherPositions otherVelocities : List T}
    {otherSnapshot : Snapshot T}
    (second :
      mechanism.Taken otherPositions otherVelocities otherSnapshot)
    (Related : FrameMotion S → FrameMotion T → Prop)
    (world : Related FrameMotion.world FrameMotion.world)
    (follow :
      ∀ body ∈ mechanism.bodies,
        ∀ {parent : FrameMotion S} {otherParent : FrameMotion T}
          {state : S × S} {otherState : T × T},
          coordinateOf positions velocities body.dof = .ok state →
          coordinateOf otherPositions otherVelocities body.dof =
            .ok otherState →
          Related parent otherParent →
          Related (parent.follow body state.1 state.2)
            (otherParent.follow body otherState.1 otherState.2))
    {frame : Nat}
    {motion : FrameMotion S}
    {otherMotion : FrameMotion T}
    (found : snapshot.frames[frame]? = some motion)
    (otherFound : otherSnapshot.frames[frame]? = some otherMotion) :
    Related motion otherMotion := by
  refine
    first.related_of_sameParents wellFormed second ?_ Related world ?_
      found otherFound
  · intro place body otherBody bodyFound otherBodyFound
    cases bodyFound.symm.trans otherBodyFound
    rfl
  · intro place body otherBody bodyFound otherBodyFound
    cases bodyFound.symm.trans otherBodyFound
    exact follow body (List.mem_of_getElem? bodyFound)

/-- What holds of the world and passes to bodies holds of every frame. -/
theorem Taken.invariant
    {mechanism : Mechanism K}
    (wellFormed : mechanism.WellFormed)
    {positions velocities : List T}
    {snapshot : Snapshot T}
    (taken : mechanism.Taken positions velocities snapshot)
    (Holds : FrameMotion T → Prop)
    (world : Holds FrameMotion.world)
    (follow :
      ∀ body ∈ mechanism.bodies,
        ∀ {parent : FrameMotion T} {state : T × T},
          coordinateOf positions velocities body.dof = .ok state →
          Holds parent →
          Holds (parent.follow body state.1 state.2))
    {frame : Nat}
    {motion : FrameMotion T}
    (found : snapshot.frames[frame]? = some motion) :
    Holds motion :=
  taken.related wellFormed taken (fun motion _ => Holds motion) world
    (fun body member _ _ _ _ stateFound _ => follow body member stateFound)
    found found

end Linkage.Mechanism
