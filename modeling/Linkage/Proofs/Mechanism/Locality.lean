import Linkage.Proofs.Mechanism.Growth

namespace Linkage

/-!
# Locality

A frame is moved by the joints on its way down to the world, and by no other.
What is asked about a few frames therefore depends on the coordinates on their
ways alone, and states may differ in all others.

A Jacobian is sparser than that.  A joint below both the frame of the point and
the frame it is measured in writes one column in either chain, and the columns
cancel.  What remains are the joints on exactly one of the two ways.
-/

namespace Mechanism

variable {K T : Type}
variable {mechanism : Mechanism K}

section Columns

variable [Zero T] [Sub T] [Mul T]
variable {snapshot : Snapshot T}

/-- A chain with one link of a coordinate has the column of that link. -/
theorem writeColumns_link
    {position : Vec3 T}
    {chain : List (Nat × Body K)}
    {columns written : Columns T}
    (found :
      writeColumns snapshot position chain columns = .ok written)
    {dof : Nat}
    {link : Nat × Body K}
    (member : link ∈ chain)
    (hasDof : link.2.dof = some dof)
    (only : ∀ other ∈ chain, other.2.dof = some dof → other = link)
    {motion : FrameMotion T}
    (motionFound : snapshot.frames[link.1]? = some motion) :
    written[dof]? = some (jointColumn link.2.joint motion position) := by
  induction chain generalizing columns with
  | nil =>
      cases member
  | cons first rest inductionHypothesis =>
      have restOnly :
          ∀ other ∈ rest, other.2.dof = some dof → other = link :=
        fun other inRest => only other (.tail _ inRest)
      by_cases inRest : link ∈ rest
      · obtain ⟨index, body⟩ := first
        cases dofShape : body.dof with
        | none =>
            rw [writeColumns_cons_of_none dofShape] at found
            exact inductionHypothesis found inRest restOnly
        | some own =>
            obtain ⟨_, _, _, later⟩ :=
              (writeColumns_cons_eq_ok_iff dofShape).mp found
            exact inductionHypothesis later inRest restOnly
      · obtain rfl := (List.mem_cons.mp member).resolve_right inRest
        obtain ⟨index, body⟩ := link
        obtain ⟨own, ownFound, inside, later⟩ :=
          (writeColumns_cons_eq_ok_iff hasDof).mp found
        cases motionFound.symm.trans ownFound
        have absent : ∀ other ∈ rest, other.2.dof ≠ some dof := by
          intro other otherInRest isDof
          exact inRest (restOnly other otherInRest isDof ▸ otherInRest)
        rw [writeColumns_untouched later absent,
          List.getElem?_set_self inside]

/--
A world Jacobian has the column of a joint at its coordinate if the joint
carries the frame, and zero if not.
-/
theorem WellFormed.worldJacobian_column
    (wellFormed : mechanism.WellFormed)
    {index dof : Nat}
    {body : Body K}
    (bodyFound : mechanism.bodies[index]? = some body)
    (hasDof : body.dof = some dof)
    {motion : FrameMotion T}
    (motionFound : snapshot.frames[index + 1]? = some motion)
    {frame : FrameId}
    (inside : mechanism.contains frame = true)
    {position : Vec3 T}
    {columns : Columns T}
    (found :
      mechanism.worldJacobian snapshot frame position = .ok columns) :
    columns[dof]? =
      some
        (if mechanism.carries frame.index dof then
          jointColumn body.joint motion position
        else
          0) := by
  cases carried : mechanism.carries frame.index dof with
  | false =>
      exact
        worldJacobian_of_carries (wellFormed.dof_lt bodyFound hasDof)
          carried found
  | true =>
      have frameInside := of_decide_eq_true inside
      obtain ⟨chain, hasChain⟩ :=
        wellFormed.grounded.chain_exists frameInside
      -- The only link of the coordinate is the body itself.
      have only :
          ∀ link ∈ chain, link.2.dof = some dof →
            link = (index + 1, body) := by
        rintro ⟨number, other⟩ member otherDof
        obtain ⟨place, rfl, _, otherFound⟩ :=
          wellFormed.grounded.link_found frameInside hasChain _ member
        obtain rfl :=
          wellFormed.index_eq_of_dof otherFound bodyFound otherDof hasDof
        cases otherFound.symm.trans bodyFound
        rfl
      simp only [carries, hasChain, List.any_eq_true, beq_iff_eq]
        at carried
      obtain ⟨link, member, linkDof⟩ := carried
      obtain rfl := only link member linkDof
      rw [worldJacobian, hasChain] at found
      exact writeColumns_link found member linkDof only motionFound

end Columns

section Sparsity

variable [One K] [Add K] [Sub K] [Mul K]
variable [CommRing T] [Elementary T] [Constant K T]
variable {positions velocities : List T}
variable {snapshot : Snapshot T}

/--
A joint on both ways or on neither has one column in the world Jacobians of two
frames.
-/
theorem Taken.worldJacobian_column_eq
    (wellFormed : mechanism.WellFormed)
    (taken : mechanism.Taken positions velocities snapshot)
    {frame other : FrameId}
    (inside : mechanism.contains frame = true)
    (otherInside : mechanism.contains other = true)
    {dof : Nat}
    (dofInside : dof < mechanism.dofCount)
    (common : mechanism.separates frame.index other.index dof = false)
    {position : Vec3 T}
    {columns otherColumns : Columns T}
    (found :
      mechanism.worldJacobian snapshot frame position = .ok columns)
    (otherFound :
      mechanism.worldJacobian snapshot other position =
        .ok otherColumns) :
    columns[dof]? = otherColumns[dof]? := by
  obtain ⟨index, body, bodyFound, hasDof⟩ :=
    wellFormed.exists_body_of_dof dofInside
  have bodyInside := (List.getElem?_eq_some_iff.mp bodyFound).1
  obtain ⟨motion, motionFound⟩ :=
    taken.motion_exists (Nat.succ_lt_succ bodyInside)
  rw [wellFormed.worldJacobian_column bodyFound hasDof motionFound inside
      found,
    wellFormed.worldJacobian_column bodyFound hasDof motionFound
      otherInside otherFound,
    bne_eq_false_iff_eq.mp common]

/--
A Jacobian is zero at each joint that is not on exactly one of the ways of its
two frames.
-/
theorem Taken.pointJacobian_sparse
    (wellFormed : mechanism.WellFormed)
    (taken : mechanism.Taken positions velocities snapshot)
    {frame measuredIn expressedIn : FrameId}
    (inside : mechanism.contains frame = true)
    (referenceInside : mechanism.contains measuredIn = true)
    (targetInside : mechanism.contains expressedIn = true)
    (point : Vec3 T) :
    ∃ columns,
      mechanism.pointJacobian snapshot frame point
            measuredIn expressedIn =
          .ok columns ∧
        columns.length = mechanism.dofCount ∧
        ∀ dof < mechanism.dofCount,
          mechanism.separates frame.index measuredIn.index dof = false →
          columns[dof]? = some 0 := by
  obtain ⟨motion, found⟩ := taken.motion_of_contains inside
  obtain ⟨target, targetFound⟩ := taken.motion_of_contains targetInside
  obtain ⟨own, ownFound, width⟩ :=
    taken.worldJacobian_ok wellFormed.grounded inside
      (motion.pointPosition point)
  obtain ⟨reference, referenceFound, referenceWidth⟩ :=
    taken.worldJacobian_ok wellFormed.grounded referenceInside
      (motion.pointPosition point)
  refine
    ⟨_, taken.pointJacobian_of_columns found referenceInside targetFound
      ownFound referenceFound width, ?_, ?_⟩
  · simp [Columns.rotate, Columns.subtract, width, referenceWidth]
  · intro dof dofInside common
    obtain ⟨column, columnFound⟩ : ∃ column, own[dof]? = some column :=
      ⟨_, List.getElem?_eq_getElem (width ▸ dofInside)⟩
    have sameColumn :=
      taken.worldJacobian_column_eq wellFormed inside referenceInside
        dofInside common ownFound referenceFound
    rw [columnFound] at sameColumn
    rw [Columns.rotate, Columns.subtract, List.getElem?_map,
      List.getElem?_zipWith, columnFound, ← sameColumn]
    have cancels :
        target.rotation.transpose.apply (column - column) = 0 := by
      rw [Mat3.apply_sub]
      ext <;> simp
    exact congrArg some cancels

end Sparsity

/--
Two states agree on the coordinates of all joints on the ways from some frames
down to the world.
-/
def AgreeAlong
    (mechanism : Mechanism K)
    (frames : List FrameId)
    (positions velocities otherPositions otherVelocities : List T) :
    Prop :=
  ∀ frame ∈ frames, ∀ dof,
    mechanism.carries frame.index dof = true →
    positions[dof]? = otherPositions[dof]? ∧
      velocities[dof]? = otherVelocities[dof]?

/-- The coordinate of a joint on one of the ways, the same as itself. -/
def SameDofAlong
    (mechanism : Mechanism K)
    (frames : List FrameId)
    (dof otherDof : Nat) : Prop :=
  dof = otherDof ∧ dof < mechanism.dofCount ∧
    ∃ frame ∈ frames, mechanism.carries frame.index dof = true

/-- A frame carried by joints on the ways alone, the same as itself. -/
def SameFrameAlong
    (mechanism : Mechanism K)
    (frames : List FrameId)
    (number otherNumber : Nat) : Prop :=
  number = otherNumber ∧ number < mechanism.frameCount ∧
    ∀ dof, mechanism.carries number dof = true →
      ∃ frame ∈ frames, mechanism.carries frame.index dof = true

/-- States that agree along some frames agree on the coordinates there. -/
theorem AgreeAlong.agreeOn
    {frames : List FrameId}
    {positions velocities otherPositions otherVelocities : List T}
    (agree :
      mechanism.AgreeAlong frames
        positions velocities otherPositions otherVelocities) :
    AgreeOn (mechanism.SameDofAlong frames)
      positions velocities otherPositions otherVelocities := by
  rintro dof _ ⟨rfl, _, frame, member, carried⟩
  exact agree frame member dof carried

theorem sameFrameAlong_of_mem
    {frames : List FrameId}
    {frame : FrameId}
    (member : frame ∈ frames)
    (inside : mechanism.contains frame = true) :
    mechanism.SameFrameAlong frames frame.index frame.index :=
  ⟨rfl, of_decide_eq_true inside,
    fun _ carried => ⟨frame, member, carried⟩⟩

/-- The frames and the coordinates along some frames are closed below. -/
theorem WellFormed.correspondence_along
    (wellFormed : mechanism.WellFormed)
    (frames : List FrameId) :
    mechanism.Correspondence mechanism
      (mechanism.SameFrameAlong frames)
      (mechanism.SameDofAlong frames) := by
  refine correspondence_of_shared ?_ ?_
  · rintro index ⟨inside, along⟩
    have bodyInside : index < mechanism.bodies.length :=
      Nat.lt_of_succ_lt_succ inside
    have found := List.getElem?_eq_getElem bodyInside
    have parentBefore := wellFormed.parentBefore found
    refine
      ⟨_, found, found,
        ⟨Nat.lt_of_le_of_lt parentBefore (Nat.lt_of_succ_lt inside), ?_⟩,
        ?_⟩
    · intro dof carried
      refine along dof ?_
      rw [carries_body wellFormed found, carried, Bool.or_true]
    · intro dof hasDof
      refine ⟨wellFormed.dof_lt found hasDof, along dof ?_⟩
      rw [carries_body wellFormed found, hasDof, beq_self_eq_true,
        Bool.true_or]
  · rintro dof ⟨inside, _⟩
    exact ⟨inside, inside⟩

section Queries

variable [One K] [Add K] [Sub K] [Mul K]
variable [Zero T] [One T] [Add T] [Sub T] [Neg T] [Mul T]
variable [Elementary T] [Constant K T]
variable {positions velocities otherPositions otherVelocities : List T}
variable {snapshot otherSnapshot : Snapshot T}

/--
In two states that agree along a frame and the one it is seen from, a point is
at one place and has one bias acceleration.
-/
theorem Taken.point_local
    (wellFormed : mechanism.WellFormed)
    (taken : mechanism.Taken positions velocities snapshot)
    (otherTaken :
      mechanism.Taken otherPositions otherVelocities otherSnapshot)
    {frame expressedIn : FrameId}
    (inside : mechanism.contains frame = true)
    (targetInside : mechanism.contains expressedIn = true)
    (agree :
      mechanism.AgreeAlong [frame, expressedIn]
        positions velocities otherPositions otherVelocities)
    (point : Vec3 T) :
    (∃ position,
      mechanism.pointPosition snapshot frame point expressedIn =
          .ok position ∧
        mechanism.pointPosition otherSnapshot frame point expressedIn =
          .ok position) ∧
      ∃ bias,
        mechanism.pointBias snapshot frame point expressedIn = .ok bias ∧
          mechanism.pointBias otherSnapshot frame point expressedIn =
            .ok bias := by
  have same := wellFormed.correspondence_along [frame, expressedIn]
  have motions :=
    same.motionsAgree wellFormed.grounded agree.agreeOn taken otherTaken
  have isFirst : frame ∈ [frame, expressedIn] := .head _
  have isSecond : expressedIn ∈ [frame, expressedIn] := .tail _ (.head _)
  have sameFrame := sameFrameAlong_of_mem isFirst inside
  have sameTarget := sameFrameAlong_of_mem isSecond targetInside
  exact
    ⟨same.pointPosition_agree motions taken otherTaken sameFrame
        sameTarget point,
      same.pointBias_agree motions taken otherTaken sameFrame
        sameTarget point⟩

/--
In two states that agree along its three frames, a Jacobian is the same.  The
columns of joints on none of the ways are zero in both.
-/
theorem Taken.pointJacobian_local
    [LawfulZero T]
    (wellFormed : mechanism.WellFormed)
    (taken : mechanism.Taken positions velocities snapshot)
    (otherTaken :
      mechanism.Taken otherPositions otherVelocities otherSnapshot)
    {frame measuredIn expressedIn : FrameId}
    (inside : mechanism.contains frame = true)
    (referenceInside : mechanism.contains measuredIn = true)
    (targetInside : mechanism.contains expressedIn = true)
    (agree :
      mechanism.AgreeAlong [frame, measuredIn, expressedIn]
        positions velocities otherPositions otherVelocities)
    (point : Vec3 T) :
    ∃ columns,
      mechanism.pointJacobian snapshot frame point
            measuredIn expressedIn =
          .ok columns ∧
        mechanism.pointJacobian otherSnapshot frame point
            measuredIn expressedIn =
          .ok columns := by
  have grounded := wellFormed.grounded
  let frames := [frame, measuredIn, expressedIn]
  have same := wellFormed.correspondence_along frames
  have motions :=
    same.motionsAgree grounded agree.agreeOn taken otherTaken
  obtain ⟨columns, otherColumns, found, otherFound, columnsAgree⟩ :=
    same.pointJacobian_agree grounded grounded motions taken otherTaken
      (sameFrameAlong_of_mem (by simp [frames]) inside)
      (sameFrameAlong_of_mem (by simp [frames]) referenceInside)
      (sameFrameAlong_of_mem (by simp [frames]) targetInside) point
  have width :=
    taken.length_pointJacobian grounded inside referenceInside
      targetInside found
  have otherWidth :=
    otherTaken.length_pointJacobian grounded inside referenceInside
      targetInside otherFound
  have sameColumns : columns = otherColumns := by
    refine List.ext_getElem? fun dof => ?_
    by_cases dofInside : dof < mechanism.dofCount
    · by_cases along :
          ∃ other ∈ frames, mechanism.carries other.index dof = true
      · exact columnsAgree ⟨rfl, dofInside, along⟩
      · have notCarried :
            ∀ other ∈ frames, mechanism.carries other.index dof = false :=
          fun other member =>
            Bool.eq_false_iff.mpr fun carried =>
              along ⟨other, member, carried⟩
        have own := notCarried frame (by simp [frames])
        have reference := notCarried measuredIn (by simp [frames])
        rw [taken.pointJacobian_of_carries grounded inside
            referenceInside targetInside dofInside own reference found,
          otherTaken.pointJacobian_of_carries grounded inside
            referenceInside targetInside dofInside own reference
            otherFound]
    · have outside := Nat.le_of_not_lt dofInside
      rw [List.getElem?_eq_none (width.trans_le outside),
        List.getElem?_eq_none (otherWidth.trans_le outside)]
  exact ⟨columns, found, sameColumns ▸ otherFound⟩

end Queries

section Theorem

variable [Zero K] [One K] [Add K] [Sub K] [Mul K] [Div K]
variable [OfScientific K] [BEq K] [LT K] [DecidableLT K] [Elementary K]
variable [CommRing T] [Elementary T] [Constant K T]

/--
What is asked about frames of a mechanism that was built depends on little.  A
Jacobian is zero at each joint that is not on exactly one of the ways of its
two frames.  And in all states that agree along the frames of a question, its
answer is the same.
-/
theorem queries_are_local
    (built : mechanism.Built)
    {positions velocities : List T}
    (positionCount : positions.length = mechanism.dofCount)
    (velocityCount : velocities.length = mechanism.dofCount) :
    ∃ snapshot : Snapshot T,
      mechanism.snapshot positions velocities = .ok snapshot ∧
        (∀ {frame measuredIn expressedIn : FrameId},
          mechanism.contains frame = true →
          mechanism.contains measuredIn = true →
          mechanism.contains expressedIn = true →
          ∀ point : Vec3 T,
            ∃ columns,
              mechanism.pointJacobian snapshot frame point
                    measuredIn expressedIn =
                  .ok columns ∧
                columns.length = mechanism.dofCount ∧
                ∀ dof < mechanism.dofCount,
                  mechanism.separates frame.index measuredIn.index dof =
                      false →
                    columns[dof]? = some 0) ∧
        ∀ {otherPositions otherVelocities : List T},
          otherPositions.length = mechanism.dofCount →
          otherVelocities.length = mechanism.dofCount →
          ∃ otherSnapshot : Snapshot T,
            mechanism.snapshot otherPositions otherVelocities =
                .ok otherSnapshot ∧
              ∀ {frame expressedIn : FrameId},
                mechanism.contains frame = true →
                mechanism.contains expressedIn = true →
                ∀ point : Vec3 T,
                  (mechanism.AgreeAlong [frame, expressedIn]
                      positions velocities
                      otherPositions otherVelocities →
                    (∃ position,
                      mechanism.pointPosition snapshot frame point
                            expressedIn =
                          .ok position ∧
                        mechanism.pointPosition otherSnapshot frame point
                            expressedIn =
                          .ok position) ∧
                      ∃ bias,
                        mechanism.pointBias snapshot frame point
                              expressedIn =
                            .ok bias ∧
                          mechanism.pointBias otherSnapshot frame point
                              expressedIn =
                            .ok bias) ∧
                    ∀ {measuredIn : FrameId},
                      mechanism.contains measuredIn = true →
                      mechanism.AgreeAlong
                        [frame, measuredIn, expressedIn]
                        positions velocities
                        otherPositions otherVelocities →
                      ∃ columns,
                        mechanism.pointJacobian snapshot frame point
                              measuredIn expressedIn =
                            .ok columns ∧
                          mechanism.pointJacobian otherSnapshot frame
                              point measuredIn expressedIn =
                            .ok columns := by
  have wellFormed := built.wellFormed
  obtain ⟨snapshot, snapshotFound, taken⟩ :=
    wellFormed.snapshot_ok positionCount velocityCount
  refine ⟨snapshot, snapshotFound, ?_, ?_⟩
  · intro frame measuredIn expressedIn inside referenceInside targetInside
      point
    exact
      taken.pointJacobian_sparse wellFormed inside referenceInside
        targetInside point
  · intro otherPositions otherVelocities otherPositionCount
      otherVelocityCount
    obtain ⟨otherSnapshot, otherSnapshotFound, otherTaken⟩ :=
      wellFormed.snapshot_ok otherPositionCount otherVelocityCount
    refine ⟨otherSnapshot, otherSnapshotFound, ?_⟩
    intro frame expressedIn inside targetInside point
    refine
      ⟨fun agree =>
        taken.point_local wellFormed otherTaken inside targetInside agree
          point, ?_⟩
    intro measuredIn referenceInside agree
    exact
      taken.pointJacobian_local wellFormed otherTaken inside
        referenceInside targetInside agree point

end Theorem

/-- The sliding arm with a gripper beside its slider. -/
noncomputable def forkedArm : Mechanism ℝ where
  bodies :=
    slidingArm.bodies ++
      [slidingArm.newBody "gripper" ⟨1⟩ (.prismatic ⟨0, 0, 1⟩) .identity]
  dofCount := slidingArm.dofCount + 1
  revision := 3

theorem forkedArm_built : forkedArm.Built :=
  slidingArm_built.grow 3 "gripper" ⟨1⟩ Joint.hasUnitAxis_upward
    .identity rfl rfl

/-- The slider and the gripper share the joint of the arm. -/
theorem forkedArm_separates : forkedArm.separates 2 3 0 = false := by
  have wellFormed := forkedArm_built.wellFormed
  have slider :=
    carries_body wellFormed (rfl : forkedArm.bodies[1]? = some _) 0
  have gripper :=
    carries_body wellFormed (rfl : forkedArm.bodies[2]? = some _) 0
  exact bne_eq_false_iff_eq.mpr (slider.trans gripper.symm)

/-- The gripper is on no way but its own. -/
theorem forkedArm_agreeAlong
    {frames : List FrameId}
    (earlier : ∀ frame ∈ frames, frame.index ≤ 2) :
    forkedArm.AgreeAlong frames
      [(1 : ℝ), 2, 5] [3, 4, 6] [1, 2, 6] [3, 4, 7] := by
  intro frame member dof carried
  match dof, carried with
  | 0, _ => exact ⟨rfl, rfl⟩
  | 1, _ => exact ⟨rfl, rfl⟩
  | 2, carried =>
      have notCarried :=
        carries_earlier forkedArm_built.wellFormed
          (rfl : forkedArm.bodies[2]? = some _) rfl (earlier frame member)
      cases notCarried.symm.trans carried
  | _ + 3, _ => exact ⟨rfl, rfl⟩

/--
The arm moves the slider no more than the gripper, and the gripper may move
anyhow while it is the slider that is asked about.
-/
theorem queries_are_local_forkedArm :
    forkedArm.Built ∧
      forkedArm.separates 2 3 0 = false ∧
      ∃ (snapshot otherSnapshot : Snapshot ℝ) (position bias : Vec3 ℝ)
        (relative columns : Columns ℝ),
        forkedArm.snapshot [1, 2, 5] [3, 4, 6] = .ok snapshot ∧
          forkedArm.snapshot [1, 2, 6] [3, 4, 7] = .ok otherSnapshot ∧
          forkedArm.pointJacobian snapshot ⟨2⟩ 0 ⟨3⟩ ⟨1⟩ =
            .ok relative ∧
          relative[0]? = some 0 ∧
          forkedArm.pointPosition snapshot ⟨2⟩ 0 ⟨1⟩ = .ok position ∧
          forkedArm.pointPosition otherSnapshot ⟨2⟩ 0 ⟨1⟩ =
            .ok position ∧
          forkedArm.pointBias snapshot ⟨2⟩ 0 ⟨1⟩ = .ok bias ∧
          forkedArm.pointBias otherSnapshot ⟨2⟩ 0 ⟨1⟩ = .ok bias ∧
          forkedArm.pointJacobian snapshot ⟨2⟩ 0 .world ⟨1⟩ =
            .ok columns ∧
          forkedArm.pointJacobian otherSnapshot ⟨2⟩ 0 .world ⟨1⟩ =
            .ok columns := by
  obtain ⟨snapshot, snapshotFound, sparse, isLocal⟩ :=
    queries_are_local forkedArm_built
      (rfl : [(1 : ℝ), 2, 5].length = 3)
      (rfl : [(3 : ℝ), 4, 6].length = 3)
  obtain ⟨otherSnapshot, otherFound, answers⟩ :=
    isLocal (rfl : [(1 : ℝ), 2, 6].length = 3)
      (rfl : [(3 : ℝ), 4, 7].length = 3)
  obtain ⟨relative, relativeFound, _, isZero⟩ :=
    @sparse ⟨2⟩ ⟨3⟩ ⟨1⟩ rfl rfl rfl 0
  obtain ⟨ofPoint, jacobian⟩ := @answers ⟨2⟩ ⟨1⟩ rfl rfl 0
  obtain ⟨⟨position, found, same⟩, bias, biasFound, sameBias⟩ :=
    ofPoint (forkedArm_agreeAlong (by simp))
  obtain ⟨columns, columnsFound, sameColumns⟩ :=
    @jacobian .world rfl (forkedArm_agreeAlong (by simp [FrameId.world]))
  exact
    ⟨forkedArm_built, forkedArm_separates, snapshot, otherSnapshot,
      position, bias, relative, columns, snapshotFound, otherFound,
      relativeFound, isZero 0 (Nat.zero_lt_succ 2) forkedArm_separates,
      found, same, biasFound, sameBias, columnsFound, sameColumns⟩

end Mechanism

end Linkage
