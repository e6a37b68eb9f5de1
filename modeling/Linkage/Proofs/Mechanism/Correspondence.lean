import Mathlib.Data.List.Forall2
import Mathlib.Logic.Relator
import Linkage.Proofs.Mechanism.Totality

namespace Linkage.Mechanism

/-!
# Frames that correspond

Two mechanisms may hold the same frames under other numbers, among further ones
that only one of them has.  Frames correspond if their bodies have equal joints
at equal places and hang from frames that correspond.  Where two states agree on
the coordinates of such bodies, the sweeps compute equal motions for them and
the chains write equal columns, operation by operation.  No law of arithmetic is
needed.
-/

variable {K T : Type}

/--
Bodies with one joint at one place, whose parents are the same frame and whose
coordinates are the same, if they have any.
-/
structure BodiesAgree
    (SameFrame SameDof : Nat → Nat → Prop)
    (body otherBody : Body K) : Prop where
  joint : body.joint = otherBody.joint
  offset : body.offset = otherBody.offset
  parent : SameFrame body.parent.index otherBody.parent.index
  dof : Option.Rel SameDof body.dof otherBody.dof

/--
Which frames and which coordinates of two mechanisms are the same.  Only the
world is the same as the world, and no coordinate is the same as two.
-/
structure Correspondence
    (first second : Mechanism K)
    (SameFrame SameDof : Nat → Nat → Prop) : Prop where
  world_iff :
    ∀ {frame otherFrame : Nat},
      SameFrame frame otherFrame → (frame = 0 ↔ otherFrame = 0)
  bodies :
    ∀ {index otherIndex : Nat},
      SameFrame (index + 1) (otherIndex + 1) →
      ∃ body otherBody,
        first.bodies[index]? = some body ∧
          second.bodies[otherIndex]? = some otherBody ∧
          BodiesAgree SameFrame SameDof body otherBody
  dof_unique : Relator.BiUnique SameDof
  dof_lt :
    ∀ {dof otherDof : Nat},
      SameDof dof otherDof →
      dof < first.dofCount ∧ otherDof < second.dofCount

/-- Two states agree on the coordinates that are the same. -/
def AgreeOn
    (SameDof : Nat → Nat → Prop)
    (positions velocities otherPositions otherVelocities : List T) :
    Prop :=
  ∀ ⦃dof otherDof : Nat⦄,
    SameDof dof otherDof →
    positions[dof]? = otherPositions[otherDof]? ∧
      velocities[dof]? = otherVelocities[otherDof]?

/-- Bodies with coordinates that are the same read one state. -/
theorem AgreeOn.coordinateOf_eq
    [Zero T]
    {SameDof : Nat → Nat → Prop}
    {positions velocities otherPositions otherVelocities : List T}
    (agree :
      AgreeOn SameDof
        positions velocities otherPositions otherVelocities)
    {dof otherDof : Option Nat}
    (same : Option.Rel SameDof dof otherDof) :
    coordinateOf positions velocities dof =
      coordinateOf otherPositions otherVelocities otherDof := by
  cases same with
  | none =>
      rfl
  | some sameDof =>
      obtain ⟨samePosition, sameVelocity⟩ := agree sameDof
      simp only [coordinateOf, entry, samePosition, sameVelocity]

/-- Frames that are the same have one motion in both snapshots. -/
def MotionsAgree
    (SameFrame : Nat → Nat → Prop)
    (snapshot otherSnapshot : Snapshot T) : Prop :=
  ∀ ⦃frame otherFrame : Nat⦄,
    SameFrame frame otherFrame →
    snapshot.frames[frame]? = otherSnapshot.frames[otherFrame]?

/-- Columns at coordinates that are the same are equal. -/
def ColumnsAgree
    (SameDof : Nat → Nat → Prop)
    (columns otherColumns : Columns T) : Prop :=
  ∀ ⦃dof otherDof : Nat⦄,
    SameDof dof otherDof →
    columns[dof]? = otherColumns[otherDof]?

/--
Frames and coordinates that two mechanisms share under their own numbers
correspond to themselves, if the shared bodies hang from shared frames and have
shared coordinates.
-/
theorem correspondence_of_shared
    {first second : Mechanism K}
    {SharedFrame SharedDof : Nat → Prop}
    (bodies :
      ∀ {index : Nat},
        SharedFrame (index + 1) →
        ∃ body,
          first.bodies[index]? = some body ∧
            second.bodies[index]? = some body ∧
            SharedFrame body.parent.index ∧
            ∀ dof, body.dof = some dof → SharedDof dof)
    (dof_lt :
      ∀ {dof : Nat},
        SharedDof dof → dof < first.dofCount ∧ dof < second.dofCount) :
    first.Correspondence second
      (fun frame otherFrame => frame = otherFrame ∧ SharedFrame frame)
      (fun dof otherDof => dof = otherDof ∧ SharedDof dof) where
  world_iff := by
    rintro frame _ ⟨rfl, _⟩
    exact Iff.rfl
  bodies := by
    rintro index _ ⟨⟨⟩, shared⟩
    obtain ⟨body, found, otherFound, parent, dofs⟩ := bodies shared
    refine ⟨body, body, found, otherFound, rfl, rfl, ⟨rfl, parent⟩, ?_⟩
    cases hasDof : body.dof with
    | none => exact .none
    | some dof => exact .some ⟨rfl, dofs dof hasDof⟩
  dof_unique := by
    constructor
    · rintro dof otherDof common ⟨rfl, _⟩ ⟨rfl, _⟩
      rfl
    · rintro common dof otherDof ⟨rfl, _⟩ ⟨rfl, _⟩
      rfl
  dof_lt := by
    rintro dof _ ⟨rfl, shared⟩
    exact dof_lt shared

/-- Links of two chains with bodies that agree, at frames that are the same. -/
structure LinksAgree
    (SameFrame SameDof : Nat → Nat → Prop)
    (link otherLink : Nat × Body K) : Prop where
  frame : SameFrame link.1 otherLink.1
  body : BodiesAgree SameFrame SameDof link.2 otherLink.2

/-- An entry is found alike at places that hold the same. -/
theorem entry_eq
    {α : Type}
    {items otherItems : List α}
    {index otherIndex : Nat}
    (same : items[index]? = otherItems[otherIndex]?) :
    entry items index = entry otherItems otherIndex := by
  rw [entry, entry, same]

variable {first second : Mechanism K}
variable {SameFrame SameDof : Nat → Nat → Prop}

namespace Correspondence

/-- What is the same as the world is the world. -/
theorem eq_zero
    (same : first.Correspondence second SameFrame SameDof)
    {otherFrame : Nat}
    (sameFrame : SameFrame 0 otherFrame) :
    otherFrame = 0 :=
  (same.world_iff sameFrame).mp rfl

/-- What is the same as the frame of a body is that of a body like it. -/
theorem body_of_succ
    (same : first.Correspondence second SameFrame SameDof)
    {index otherFrame : Nat}
    (sameFrame : SameFrame (index + 1) otherFrame) :
    ∃ otherIndex body otherBody,
      otherFrame = otherIndex + 1 ∧
        first.bodies[index]? = some body ∧
        second.bodies[otherIndex]? = some otherBody ∧
        BodiesAgree SameFrame SameDof body otherBody := by
  have notWorld : otherFrame ≠ 0 := fun isWorld =>
    Nat.succ_ne_zero index ((same.world_iff sameFrame).mpr isWorld)
  obtain ⟨otherIndex, rfl⟩ := Nat.exists_eq_add_one_of_ne_zero notWorld
  obtain ⟨body, otherBody, found, otherFound, agree⟩ :=
    same.bodies sameFrame
  exact ⟨otherIndex, body, otherBody, rfl, found, otherFound, agree⟩

/-- Frames that are the same exist in both mechanisms. -/
theorem contains
    (same : first.Correspondence second SameFrame SameDof)
    {frame otherFrame : FrameId}
    (sameFrame : SameFrame frame.index otherFrame.index) :
    first.contains frame = true ∧
      second.contains otherFrame = true := by
  obtain ⟨number⟩ := frame
  obtain ⟨otherNumber⟩ := otherFrame
  cases number with
  | zero =>
      obtain rfl : otherNumber = 0 := same.eq_zero sameFrame
      exact ⟨contains_world first, contains_world second⟩
  | succ index =>
      obtain ⟨otherIndex, body, otherBody, rfl, found, otherFound, _⟩ :=
        same.body_of_succ sameFrame
      have inside := (List.getElem?_eq_some_iff.mp found).1
      have otherInside := (List.getElem?_eq_some_iff.mp otherFound).1
      exact
        ⟨decide_eq_true (Nat.succ_lt_succ inside),
          decide_eq_true (Nat.succ_lt_succ otherInside)⟩

/-- Frames that are the same are the world in both mechanisms or in none. -/
theorem isWorld_eq
    (same : first.Correspondence second SameFrame SameDof)
    {frame otherFrame : FrameId}
    (sameFrame : SameFrame frame.index otherFrame.index) :
    frame.isWorld = otherFrame.isWorld := by
  rw [Bool.eq_iff_iff, FrameId.isWorld, FrameId.isWorld, beq_iff_eq,
    beq_iff_eq]
  exact same.world_iff sameFrame

/-- Chains of frames that are the same agree link by link. -/
theorem chains_agree
    (same : first.Correspondence second SameFrame SameDof)
    (grounded : first.Grounded)
    (otherGrounded : second.Grounded)
    {frame otherFrame : Nat}
    (sameFrame : SameFrame frame otherFrame) :
    ∃ chain otherChain,
      first.chain? frame = some chain ∧
        second.chain? otherFrame = some otherChain ∧
        List.Forall₂ (LinksAgree SameFrame SameDof) chain otherChain := by
  induction frame using Nat.strongRecOn generalizing otherFrame with
  | ind frame inductionHypothesis =>
      cases frame with
      | zero =>
          obtain rfl : otherFrame = 0 := same.eq_zero sameFrame
          exact ⟨[], [], by rw [chain?], by rw [chain?], .nil⟩
      | succ index =>
          obtain ⟨otherIndex, body, otherBody, rfl, found, otherFound,
              agree⟩ :=
            same.body_of_succ sameFrame
          have before := grounded.parentBefore found
          have otherBefore := otherGrounded.parentBefore otherFound
          obtain ⟨chain, otherChain, hasChain, hasOtherChain, links⟩ :=
            inductionHypothesis _ (Nat.lt_succ_of_le before) agree.parent
          refine
            ⟨(index + 1, body) :: chain,
              (otherIndex + 1, otherBody) :: otherChain, ?_, ?_,
              .cons ⟨sameFrame, agree⟩ links⟩
          · rw [chain?_body found before, hasChain]
            rfl
          · rw [chain?_body otherFound otherBefore, hasOtherChain]
            rfl

end Correspondence

/-- A world vector has one form in frames that are the same. -/
theorem Correspondence.express_eq
    [One T] [Add T] [Mul T]
    (same : first.Correspondence second SameFrame SameDof)
    {snapshot otherSnapshot : Snapshot T}
    (motions : MotionsAgree SameFrame snapshot otherSnapshot)
    {expressedIn otherExpressedIn : FrameId}
    (sameTarget : SameFrame expressedIn.index otherExpressedIn.index)
    (vector : Vec3 T) :
    express snapshot expressedIn vector =
      express otherSnapshot otherExpressedIn vector := by
  rw [express, express, same.isWorld_eq sameTarget,
    entry_eq (motions sameTarget)]

section Columns

variable [Zero T] [Sub T] [Mul T]
variable {snapshot otherSnapshot : Snapshot T}

/-- A chain leaves the columns of coordinates that are not on it. -/
theorem writeColumns_untouched
    {position : Vec3 T}
    {chain : List (Nat × Body K)}
    {columns written : Columns T}
    (found :
      writeColumns snapshot position chain columns = .ok written)
    {dof : Nat}
    (absent : ∀ link ∈ chain, link.2.dof ≠ some dof) :
    written[dof]? = columns[dof]? := by
  induction chain generalizing columns with
  | nil =>
      cases found
      rfl
  | cons link rest inductionHypothesis =>
      obtain ⟨index, body⟩ := link
      have restAbsent : ∀ link ∈ rest, link.2.dof ≠ some dof :=
        fun link member => absent link (.tail _ member)
      cases dofShape : body.dof with
      | none =>
          rw [writeColumns_cons_of_none dofShape] at found
          exact inductionHypothesis found restAbsent
      | some own =>
          obtain ⟨motion, _, _, later⟩ :=
            (writeColumns_cons_eq_ok_iff dofShape).mp found
          have different : own ≠ dof := by
            rintro rfl
            exact absent (index, body) (.head rest) dofShape
          rw [inductionHypothesis later restAbsent,
            List.getElem?_set_ne different]

/-- Chains that agree keep columns in agreement. -/
theorem columnsAgree_writeColumns
    (unique : Relator.BiUnique SameDof)
    (motions : MotionsAgree SameFrame snapshot otherSnapshot)
    {position : Vec3 T}
    {chain otherChain : List (Nat × Body K)}
    (links : List.Forall₂ (LinksAgree SameFrame SameDof) chain otherChain)
    {columns written otherColumns otherWritten : Columns T}
    (agree : ColumnsAgree SameDof columns otherColumns)
    (found :
      writeColumns snapshot position chain columns = .ok written)
    (otherFound :
      writeColumns otherSnapshot position otherChain otherColumns =
        .ok otherWritten) :
    ColumnsAgree SameDof written otherWritten := by
  induction links generalizing columns otherColumns with
  | nil =>
      cases found
      cases otherFound
      exact agree
  | @cons link otherLink rest otherRest same _ inductionHypothesis =>
      obtain ⟨index, body⟩ := link
      obtain ⟨otherIndex, otherBody⟩ := otherLink
      obtain ⟨sameFrame, sameJoint, _, _, sameDof⟩ := same
      dsimp only at sameFrame sameJoint sameDof
      cases dofShape : body.dof with
      | none =>
          rw [dofShape] at sameDof
          generalize otherShape : otherBody.dof = otherDof at sameDof
          cases sameDof
          rw [writeColumns_cons_of_none dofShape] at found
          rw [writeColumns_cons_of_none otherShape] at otherFound
          exact inductionHypothesis agree found otherFound
      | some dof =>
          rw [dofShape] at sameDof
          generalize otherShape : otherBody.dof = otherDof? at sameDof
          cases sameDof with
          | @some _ otherDof sameDof =>
              obtain ⟨motion, motionFound, inside, later⟩ :=
                (writeColumns_cons_eq_ok_iff dofShape).mp found
              obtain ⟨otherMotion, otherMotionFound, otherInside,
                  otherLater⟩ :=
                (writeColumns_cons_eq_ok_iff otherShape).mp otherFound
              rw [motions sameFrame, otherMotionFound] at motionFound
              cases motionFound
              rw [sameJoint] at later
              refine inductionHypothesis ?_ later otherLater
              intro place otherPlace samePlace
              by_cases isOwn : dof = place
              · subst isOwn
                obtain rfl : otherDof = otherPlace :=
                  unique.2 sameDof samePlace
                rw [List.getElem?_set_self inside,
                  List.getElem?_set_self otherInside]
              · have otherNotOwn : otherDof ≠ otherPlace := by
                  rintro rfl
                  exact isOwn (unique.1 sameDof samePlace)
                rw [List.getElem?_set_ne isOwn,
                  List.getElem?_set_ne otherNotOwn]
                exact agree samePlace

/-- World Jacobians of frames that are the same agree. -/
theorem Correspondence.worldJacobian_agree
    (same : first.Correspondence second SameFrame SameDof)
    (grounded : first.Grounded)
    (otherGrounded : second.Grounded)
    (motions : MotionsAgree SameFrame snapshot otherSnapshot)
    {frame otherFrame : FrameId}
    (sameFrame : SameFrame frame.index otherFrame.index)
    {position : Vec3 T}
    {columns otherColumns : Columns T}
    (found :
      first.worldJacobian snapshot frame position = .ok columns)
    (otherFound :
      second.worldJacobian otherSnapshot otherFrame position =
        .ok otherColumns) :
    ColumnsAgree SameDof columns otherColumns := by
  obtain ⟨chain, otherChain, hasChain, hasOtherChain, links⟩ :=
    same.chains_agree grounded otherGrounded sameFrame
  rw [worldJacobian, hasChain] at found
  rw [worldJacobian, hasOtherChain] at otherFound
  refine
    columnsAgree_writeColumns same.dof_unique motions links ?_
      found otherFound
  intro dof otherDof sameDof
  obtain ⟨inside, otherInside⟩ := same.dof_lt sameDof
  simp [Columns.zeros, inside, otherInside]

end Columns

section Snapshots

variable [One K] [Add K] [Sub K] [Mul K]
variable [Zero T] [One T] [Add T] [Sub T] [Neg T] [Mul T]
variable [Elementary T] [Constant K T]
variable {positions velocities otherPositions otherVelocities : List T}
variable {snapshot otherSnapshot : Snapshot T}

/-- Two states that agree give frames that are the same one motion. -/
theorem Correspondence.motionsAgree
    (same : first.Correspondence second SameFrame SameDof)
    (grounded : first.Grounded)
    (agree :
      AgreeOn SameDof
        positions velocities otherPositions otherVelocities)
    (taken : first.Taken positions velocities snapshot)
    (otherTaken :
      second.Taken otherPositions otherVelocities otherSnapshot) :
    MotionsAgree SameFrame snapshot otherSnapshot := by
  intro frame otherFrame sameFrame
  induction frame using Nat.strongRecOn generalizing otherFrame with
  | ind frame inductionHypothesis =>
      cases frame with
      | zero =>
          obtain rfl : otherFrame = 0 := same.eq_zero sameFrame
          rw [taken.swept.world, otherTaken.swept.world]
      | succ index =>
          obtain ⟨otherIndex, body, otherBody, rfl, found, otherFound,
              sameBody⟩ :=
            same.body_of_succ sameFrame
          obtain ⟨parent, state, parentFound, stateFound, shape⟩ :=
            taken.swept.follows found
          obtain ⟨otherParent, otherState, otherParentFound,
              otherStateFound, otherShape⟩ :=
            otherTaken.swept.follows otherFound
          have sameParent :=
            inductionHypothesis _
              (Nat.lt_succ_of_le (grounded.parentBefore found))
              sameBody.parent
          rw [parentFound, otherParentFound] at sameParent
          cases sameParent
          have sameState :
              coordinateOf positions velocities body.dof =
                coordinateOf otherPositions otherVelocities
                  otherBody.dof :=
            agree.coordinateOf_eq sameBody.dof
          rw [stateFound, otherStateFound] at sameState
          cases sameState
          rw [shape, otherShape, FrameMotion.follow, FrameMotion.follow,
            sameBody.joint, sameBody.offset]

variable {frame measuredIn expressedIn : FrameId}
variable {otherFrame otherMeasuredIn otherExpressedIn : FrameId}

/-- Frames that are the same have one motion. -/
theorem Correspondence.motion_agree
    (same : first.Correspondence second SameFrame SameDof)
    (motions : MotionsAgree SameFrame snapshot otherSnapshot)
    (taken : first.Taken positions velocities snapshot)
    (sameFrame : SameFrame frame.index otherFrame.index) :
    ∃ motion,
      snapshot.motion? frame = some motion ∧
        otherSnapshot.motion? otherFrame = some motion := by
  obtain ⟨motion, found⟩ :=
    taken.motion_of_contains (same.contains sameFrame).1
  exact ⟨motion, found, (motions sameFrame).symm.trans found⟩

/-- A point of frames that are the same is at one place. -/
theorem Correspondence.pointPosition_agree
    (same : first.Correspondence second SameFrame SameDof)
    (motions : MotionsAgree SameFrame snapshot otherSnapshot)
    (taken : first.Taken positions velocities snapshot)
    (otherTaken :
      second.Taken otherPositions otherVelocities otherSnapshot)
    (sameFrame : SameFrame frame.index otherFrame.index)
    (sameTarget : SameFrame expressedIn.index otherExpressedIn.index)
    (point : Vec3 T) :
    ∃ position,
      first.pointPosition snapshot frame point expressedIn =
          .ok position ∧
        second.pointPosition otherSnapshot otherFrame point
            otherExpressedIn =
          .ok position := by
  obtain ⟨inside, otherInside⟩ := same.contains sameFrame
  obtain ⟨targetInside, otherTargetInside⟩ := same.contains sameTarget
  obtain ⟨position, found⟩ := taken.pointPosition_ok inside targetInside point
  refine ⟨position, found, ?_⟩
  rw [← found, pointPosition, pointPosition, taken.checkSnapshot_ok,
    otherTaken.checkSnapshot_ok, checkFrame_of_contains inside,
    checkFrame_of_contains otherInside,
    checkFrame_of_contains targetInside,
    checkFrame_of_contains otherTargetInside,
    entry_eq (motions sameFrame), entry_eq (motions sameTarget)]
  simp only [same.express_eq motions sameTarget]

/-- A point of frames that are the same has one bias acceleration. -/
theorem Correspondence.pointBias_agree
    (same : first.Correspondence second SameFrame SameDof)
    (motions : MotionsAgree SameFrame snapshot otherSnapshot)
    (taken : first.Taken positions velocities snapshot)
    (otherTaken :
      second.Taken otherPositions otherVelocities otherSnapshot)
    (sameFrame : SameFrame frame.index otherFrame.index)
    (sameTarget : SameFrame expressedIn.index otherExpressedIn.index)
    (point : Vec3 T) :
    ∃ bias,
      first.pointBias snapshot frame point expressedIn =
          .ok bias ∧
        second.pointBias otherSnapshot otherFrame point
            otherExpressedIn =
          .ok bias := by
  obtain ⟨inside, otherInside⟩ := same.contains sameFrame
  obtain ⟨targetInside, otherTargetInside⟩ := same.contains sameTarget
  obtain ⟨bias, found⟩ := taken.pointBias_ok inside targetInside point
  refine ⟨bias, found, ?_⟩
  rw [← found, pointBias, pointBias, taken.checkSnapshot_ok,
    otherTaken.checkSnapshot_ok, checkFrame_of_contains inside,
    checkFrame_of_contains otherInside,
    checkFrame_of_contains targetInside,
    checkFrame_of_contains otherTargetInside,
    entry_eq (motions sameFrame)]
  simp only [same.express_eq motions sameTarget]

/-- Relative Jacobians of frames that are the same agree. -/
theorem Correspondence.relativeJacobian_agree
    (same : first.Correspondence second SameFrame SameDof)
    (grounded : first.Grounded)
    (otherGrounded : second.Grounded)
    (motions : MotionsAgree SameFrame snapshot otherSnapshot)
    (taken : first.Taken positions velocities snapshot)
    (otherTaken :
      second.Taken otherPositions otherVelocities otherSnapshot)
    (sameFrame : SameFrame frame.index otherFrame.index)
    (sameReference : SameFrame measuredIn.index otherMeasuredIn.index)
    (position : Vec3 T) :
    ∃ columns otherColumns,
      first.relativeJacobian snapshot frame measuredIn position =
          .ok columns ∧
        second.relativeJacobian otherSnapshot otherFrame
            otherMeasuredIn position =
          .ok otherColumns ∧
        ColumnsAgree SameDof columns otherColumns := by
  obtain ⟨inside, otherInside⟩ := same.contains sameFrame
  obtain ⟨referenceInside, otherReferenceInside⟩ :=
    same.contains sameReference
  obtain ⟨own, ownFound, _⟩ :=
    taken.worldJacobian_ok grounded inside position
  obtain ⟨otherOwn, otherOwnFound, _⟩ :=
    otherTaken.worldJacobian_ok otherGrounded otherInside position
  have ownAgree :=
    same.worldJacobian_agree grounded otherGrounded motions sameFrame
      ownFound otherOwnFound
  rw [relativeJacobian, relativeJacobian, ownFound, otherOwnFound,
    same.isWorld_eq sameReference]
  cases otherMeasuredIn.isWorld with
  | true =>
      exact ⟨own, otherOwn, rfl, rfl, ownAgree⟩
  | false =>
      obtain ⟨reference, referenceFound, _⟩ :=
        taken.worldJacobian_ok grounded referenceInside position
      obtain ⟨otherReference, otherReferenceFound, _⟩ :=
        otherTaken.worldJacobian_ok otherGrounded otherReferenceInside
          position
      have referenceAgree :=
        same.worldJacobian_agree grounded otherGrounded motions
          sameReference referenceFound otherReferenceFound
      rw [referenceFound, otherReferenceFound]
      refine
        ⟨own.subtract reference, otherOwn.subtract otherReference,
          rfl, rfl, ?_⟩
      intro dof otherDof sameDof
      rw [Columns.subtract, Columns.subtract, List.getElem?_zipWith,
        List.getElem?_zipWith, ownAgree sameDof, referenceAgree sameDof]

/-- Columns that agree still do when they are turned into one frame. -/
theorem Correspondence.expressColumns_agree
    (same : first.Correspondence second SameFrame SameDof)
    (motions : MotionsAgree SameFrame snapshot otherSnapshot)
    (taken : first.Taken positions velocities snapshot)
    (sameTarget : SameFrame expressedIn.index otherExpressedIn.index)
    {columns otherColumns : Columns T}
    (agree : ColumnsAgree SameDof columns otherColumns) :
    ∃ turned otherTurned,
      expressColumns snapshot expressedIn columns = .ok turned ∧
        expressColumns otherSnapshot otherExpressedIn otherColumns =
          .ok otherTurned ∧
        ColumnsAgree SameDof turned otherTurned := by
  obtain ⟨target, found⟩ :=
    taken.entry_ok (same.contains sameTarget).1
  rw [expressColumns, expressColumns, same.isWorld_eq sameTarget,
    ← entry_eq (motions sameTarget)]
  cases otherExpressedIn.isWorld with
  | true =>
      exact ⟨columns, otherColumns, rfl, rfl, agree⟩
  | false =>
      rw [found]
      refine ⟨_, _, rfl, rfl, ?_⟩
      intro dof otherDof sameDof
      rw [Columns.rotate, Columns.rotate, List.getElem?_map,
        List.getElem?_map, agree sameDof]

/-- Jacobians of a point of frames that are the same agree. -/
theorem Correspondence.pointJacobian_agree
    (same : first.Correspondence second SameFrame SameDof)
    (grounded : first.Grounded)
    (otherGrounded : second.Grounded)
    (motions : MotionsAgree SameFrame snapshot otherSnapshot)
    (taken : first.Taken positions velocities snapshot)
    (otherTaken :
      second.Taken otherPositions otherVelocities otherSnapshot)
    (sameFrame : SameFrame frame.index otherFrame.index)
    (sameReference : SameFrame measuredIn.index otherMeasuredIn.index)
    (sameTarget : SameFrame expressedIn.index otherExpressedIn.index)
    (point : Vec3 T) :
    ∃ columns otherColumns,
      first.pointJacobian snapshot frame point measuredIn expressedIn =
          .ok columns ∧
        second.pointJacobian otherSnapshot otherFrame point
            otherMeasuredIn otherExpressedIn =
          .ok otherColumns ∧
        ColumnsAgree SameDof columns otherColumns := by
  obtain ⟨inside, otherInside⟩ := same.contains sameFrame
  obtain ⟨referenceInside, otherReferenceInside⟩ :=
    same.contains sameReference
  obtain ⟨targetInside, otherTargetInside⟩ := same.contains sameTarget
  obtain ⟨motion, found⟩ := taken.entry_ok inside
  obtain ⟨relative, otherRelative, relativeFound, otherRelativeFound,
      relativeAgree⟩ :=
    same.relativeJacobian_agree grounded otherGrounded motions
      taken otherTaken sameFrame sameReference
      (motion.pointPosition point)
  obtain ⟨turned, otherTurned, turnedFound, otherTurnedFound, agree⟩ :=
    same.expressColumns_agree motions taken sameTarget relativeAgree
  refine ⟨turned, otherTurned, ?_, ?_, agree⟩
  · rw [pointJacobian_eq, taken.checkSnapshot_ok,
      checkFrame_of_contains inside,
      checkFrame_of_contains referenceInside,
      checkFrame_of_contains targetInside, found]
    change first.relativeJacobian _ _ _ _ >>= _ = _
    rw [relativeFound]
    exact turnedFound
  · rw [pointJacobian_eq, otherTaken.checkSnapshot_ok,
      checkFrame_of_contains otherInside,
      checkFrame_of_contains otherReferenceInside,
      checkFrame_of_contains otherTargetInside,
      ← entry_eq (motions sameFrame), found]
    change second.relativeJacobian _ _ _ _ >>= _ = _
    rw [otherRelativeFound]
    exact otherTurnedFound

end Snapshots

end Linkage.Mechanism
