import Linkage.Proofs.Mechanism.Correspondence
import Linkage.Proofs.Mechanism.RelativeMotion
import Linkage.Proofs.Mechanism.SlidingArm

namespace Linkage

/-!
# Growth

A mechanism grows at its end: what is attached comes after all bodies and takes
the next coordinate.  The frames that were there before correspond to
themselves, and so does everything that can be asked about them.  A Jacobian
gains a column, and nothing that is there before the new joint moves with it.
-/

/--
Numbers among which zero adds, subtracts and multiplies as it should.  Rounding
does no harm to that, but infinite numbers do.
-/
class LawfulZero
    (T : Type)
    [Zero T] [Add T] [Sub T] [Mul T] : Prop where
  zero_add_zero : (0 : T) + 0 = 0
  zero_sub_zero : (0 : T) - 0 = 0
  mul_zero : ∀ value : T, value * 0 = 0

instance {T : Type} [CommRing T] : LawfulZero T where
  zero_add_zero := add_zero 0
  zero_sub_zero := sub_zero 0
  mul_zero := mul_zero

section LawfulZero

variable {T : Type}
variable [Zero T] [Add T] [Sub T] [Mul T] [LawfulZero T]

theorem Vec3.zero_sub_zero : (0 : Vec3 T) - 0 = 0 := by
  ext <;> exact LawfulZero.zero_sub_zero

/-- A matrix takes zero to zero. -/
theorem Mat3.apply_of_zero
    [One T]
    (matrix : Mat3 T) :
    matrix.apply 0 = 0 := by
  have row : ∀ v : Vec3 T, v.rowTimes 0 = 0 := by
    intro v
    simp only [Vec3.rowTimes, Vec3.x_zero, Vec3.y_zero, Vec3.z_zero,
      LawfulZero.mul_zero, LawfulZero.zero_add_zero]
  exact Vec3.ext (row _) (row _) (row _)

end LawfulZero

namespace Joint

/-- Scaling the axis of a joint does not change how many coordinates it has. -/
theorem freedom_of_normalize?
    {K : Type}
    [Zero K] [Add K] [Sub K] [Mul K] [Div K] [OfScientific K]
    [BEq K] [LT K] [DecidableLT K] [Elementary K]
    {joint unitJoint : Joint K}
    (normalized : joint.normalize? = some unitJoint) :
    unitJoint.freedom = joint.freedom := by
  cases joint with
  | fixed =>
      cases normalized
      rfl
  | revolute axis =>
      obtain ⟨unit, _, rfl⟩ := Option.map_eq_some_iff.mp normalized
      rfl
  | prismatic axis =>
      obtain ⟨unit, _, rfl⟩ := Option.map_eq_some_iff.mp normalized
      rfl

end Joint

namespace Mechanism

variable {K T : Type}

section Columns

variable [Zero T] [Sub T] [Mul T]
variable {mechanism : Mechanism K}
variable {snapshot : Snapshot T}

/-- A coordinate that does not carry a frame is on no link of its chain. -/
theorem link_dof_ne_of_carries
    {frame dof : Nat}
    (notCarried : mechanism.carries frame dof = false)
    {chain : List (Nat × Body K)}
    (hasChain : mechanism.chain? frame = some chain) :
    ∀ link ∈ chain, link.2.dof ≠ some dof := by
  simp only [carries, hasChain, List.any_eq_false, beq_iff_eq]
    at notCarried
  exact notCarried

/-- A coordinate that does not carry a frame has a zero column for it. -/
theorem worldJacobian_of_carries
    {frame : FrameId}
    {dof : Nat}
    (dofInside : dof < mechanism.dofCount)
    (notCarried : mechanism.carries frame.index dof = false)
    {position : Vec3 T}
    {columns : Columns T}
    (found :
      mechanism.worldJacobian snapshot frame position = .ok columns) :
    columns[dof]? = some 0 := by
  rw [worldJacobian] at found
  cases hasChain : mechanism.chain? frame.index with
  | none =>
      rw [hasChain] at found
      cases found
  | some chain =>
      rw [hasChain] at found
      rw [writeColumns_untouched found
        (link_dof_ne_of_carries notCarried hasChain)]
      simp [Columns.zeros, dofInside]

/-- A coordinate that carries neither of two frames has a zero column. -/
theorem relativeJacobian_of_carries
    [Add T] [LawfulZero T]
    {frame measuredIn : FrameId}
    {dof : Nat}
    (dofInside : dof < mechanism.dofCount)
    (notCarried : mechanism.carries frame.index dof = false)
    (referenceNotCarried :
      mechanism.carries measuredIn.index dof = false)
    {position : Vec3 T}
    {columns : Columns T}
    (found :
      mechanism.relativeJacobian snapshot frame measuredIn position =
        .ok columns) :
    columns[dof]? = some 0 := by
  rw [relativeJacobian] at found
  cases ownFound :
      mechanism.worldJacobian snapshot frame position with
  | error misuse =>
      rw [ownFound] at found
      cases found
  | ok own =>
      have ownZero :=
        worldJacobian_of_carries dofInside notCarried ownFound
      rw [ownFound] at found
      change (if _ then _ else _) = _ at found
      split at found
      · cases found
        exact ownZero
      · cases referenceFound :
            mechanism.worldJacobian snapshot measuredIn position with
        | error misuse =>
            rw [referenceFound] at found
            cases found
        | ok reference =>
            have referenceZero :=
              worldJacobian_of_carries dofInside referenceNotCarried
                referenceFound
            rw [referenceFound] at found
            cases found
            rw [Columns.subtract, List.getElem?_zipWith, ownZero,
              referenceZero]
            exact congrArg some Vec3.zero_sub_zero

/-- Zero columns stay zero in every frame. -/
theorem expressColumns_of_zero
    [One T] [Add T] [LawfulZero T]
    {frame : FrameId}
    {dof : Nat}
    {columns turned : Columns T}
    (isZero : columns[dof]? = some 0)
    (found : expressColumns snapshot frame columns = .ok turned) :
    turned[dof]? = some 0 := by
  rw [expressColumns] at found
  split at found
  · cases found
    exact isZero
  · cases entryFound : entry snapshot.frames frame.index with
    | error misuse =>
        rw [entryFound] at found
        cases found
    | ok motion =>
        rw [entryFound] at found
        cases found
        rw [Columns.rotate, List.getElem?_map, isZero]
        exact congrArg some (Mat3.apply_of_zero _)

end Columns

section Queries

variable [One K] [Add K] [Sub K] [Mul K]
variable [Zero T] [One T] [Add T] [Sub T] [Neg T] [Mul T]
variable [Elementary T] [Constant K T]

/-- A joint that carries neither frame of a Jacobian has a zero column. -/
theorem Taken.pointJacobian_of_carries
    [LawfulZero T]
    {mechanism : Mechanism K}
    {positions velocities : List T}
    {snapshot : Snapshot T}
    (grounded : mechanism.Grounded)
    (taken : mechanism.Taken positions velocities snapshot)
    {frame measuredIn expressedIn : FrameId}
    (inside : mechanism.contains frame = true)
    (referenceInside : mechanism.contains measuredIn = true)
    (targetInside : mechanism.contains expressedIn = true)
    {dof : Nat}
    (dofInside : dof < mechanism.dofCount)
    (notCarried : mechanism.carries frame.index dof = false)
    (referenceNotCarried :
      mechanism.carries measuredIn.index dof = false)
    {point : Vec3 T}
    {columns : Columns T}
    (found :
      mechanism.pointJacobian snapshot frame point measuredIn expressedIn =
        .ok columns) :
    columns[dof]? = some 0 := by
  obtain ⟨motion, motionFound⟩ := taken.entry_ok inside
  obtain ⟨relative, relativeFound, _⟩ :=
    taken.relativeJacobian_ok grounded inside referenceInside
      (motion.pointPosition point)
  rw [pointJacobian_eq, taken.checkSnapshot_ok,
    checkFrame_of_contains inside, checkFrame_of_contains referenceInside,
    checkFrame_of_contains targetInside, motionFound] at found
  change mechanism.relativeJacobian _ _ _ _ >>= _ = _ at found
  rw [relativeFound] at found
  exact
    expressColumns_of_zero
      (relativeJacobian_of_carries dofInside notCarried
        referenceNotCarried relativeFound)
      found

end Queries

/--
One mechanism begins as another if it has all the bodies of the other first, and
its coordinates as well.
-/
structure BeginsAs
    (grown mechanism : Mechanism K) : Prop where
  bodies :
    ∀ {index : Nat} {body : Body K},
      mechanism.bodies[index]? = some body →
      grown.bodies[index]? = some body
  dofCount_le : mechanism.dofCount ≤ grown.dofCount

/-- Numbers below a bound, each of which is the same as itself. -/
def SameBelow
    (bound number otherNumber : Nat) : Prop :=
  number = otherNumber ∧ number < bound

/-- A frame of a mechanism is the same as itself. -/
theorem sameBelow_of_contains
    {mechanism : Mechanism K}
    {frame : FrameId}
    (inside : mechanism.contains frame = true) :
    SameBelow mechanism.frameCount frame.index frame.index :=
  ⟨rfl, of_decide_eq_true inside⟩

namespace BeginsAs

variable {mechanism grown : Mechanism K}

theorem refl (mechanism : Mechanism K) : mechanism.BeginsAs mechanism :=
  ⟨fun found => found, Nat.le_refl _⟩

theorem trans
    {largest : Mechanism K}
    (later : largest.BeginsAs grown)
    (begins : grown.BeginsAs mechanism) :
    largest.BeginsAs mechanism :=
  ⟨fun found => later.bodies (begins.bodies found),
    Nat.le_trans begins.dofCount_le later.dofCount_le⟩

/-- Frames of the beginning have the bodies they had. -/
theorem body?
    (begins : grown.BeginsAs mechanism)
    {frame : FrameId}
    {body : Body K}
    (found : mechanism.body? frame = some body) :
    grown.body? frame = some body := by
  obtain ⟨number⟩ := frame
  cases number with
  | zero =>
      cases found
  | succ index =>
      exact begins.bodies found

theorem frameCount_le
    (begins : grown.BeginsAs mechanism) :
    mechanism.frameCount ≤ grown.frameCount := by
  refine Nat.succ_le_succ (Nat.le_of_not_lt fun shorter => ?_)
  have found := begins.bodies (List.getElem?_eq_getElem shorter)
  exact Nat.lt_irrefl _ (List.getElem?_eq_some_iff.mp found).1

/-- Frames of the beginning are still there. -/
theorem contains
    (begins : grown.BeginsAs mechanism)
    {frame : FrameId}
    (inside : mechanism.contains frame = true) :
    grown.contains frame = true :=
  decide_eq_true
    (Nat.lt_of_lt_of_le (of_decide_eq_true inside) begins.frameCount_le)

/-- Frames and coordinates of the beginning correspond to themselves. -/
theorem correspondence
    (begins : grown.BeginsAs mechanism)
    (grounded : mechanism.Grounded) :
    mechanism.Correspondence grown
      (SameBelow mechanism.frameCount)
      (SameBelow mechanism.dofCount) := by
  refine correspondence_of_shared ?_ ?_
  · intro index inside
    have bodyInside : index < mechanism.bodies.length :=
      Nat.lt_of_succ_lt_succ inside
    have found := List.getElem?_eq_getElem bodyInside
    have parentBefore := grounded.parentBefore found
    exact
      ⟨_, found, begins.bodies found,
        Nat.lt_of_le_of_lt parentBefore (Nat.lt_of_succ_lt inside),
        fun _ hasDof => grounded.dof_lt found hasDof⟩
  · intro dof inside
    exact ⟨inside, Nat.lt_of_lt_of_le inside begins.dofCount_le⟩

/-- No later coordinate carries a frame of the beginning. -/
theorem carries_later
    (begins : grown.BeginsAs mechanism)
    (grounded : mechanism.Grounded)
    (grownGrounded : grown.Grounded)
    {frame dof : Nat}
    (inside : frame < mechanism.frameCount)
    (later : mechanism.dofCount ≤ dof) :
    grown.carries frame dof = false := by
  have insideGrown : frame < grown.frameCount :=
    Nat.lt_of_lt_of_le inside begins.frameCount_le
  obtain ⟨chain, hasChain⟩ := grownGrounded.chain_exists insideGrown
  simp only [carries, hasChain, List.any_eq_false, beq_iff_eq]
  intro link member isLater
  obtain ⟨index, _, before, linkFound⟩ :=
    grownGrounded.link_found insideGrown hasChain link member
  have bodyInside : index < mechanism.bodies.length :=
    Nat.lt_of_lt_of_le before (Nat.le_of_lt_succ inside)
  obtain ⟨body, found⟩ : ∃ body, mechanism.bodies[index]? = some body :=
    ⟨_, List.getElem?_eq_getElem bodyInside⟩
  have sameBody := begins.bodies found
  rw [linkFound] at sameBody
  cases sameBody
  exact Nat.not_lt_of_le later (grounded.dof_lt found isLater)

end BeginsAs

/-- What is attached to a mechanism leaves its beginning as it was. -/
theorem attach_beginsAs
    [Zero K] [Add K] [Sub K] [Mul K] [Div K] [OfScientific K]
    [BEq K] [LT K] [DecidableLT K] [Elementary K]
    {mechanism grown : Mechanism K}
    {freshRevision : Nat}
    {name : String}
    {parent newFrame : FrameId}
    {joint : Joint K}
    {offset : Pose K}
    (accepted :
      mechanism.attach freshRevision name parent joint offset =
        .ok (grown, newFrame)) :
    grown.BeginsAs mechanism ∧
      grown.dofCount = mechanism.dofCount + joint.freedom := by
  obtain ⟨_, _, _, unitJoint, normalized, rfl, _⟩ :=
    attach_eq_ok_iff.mp accepted
  refine ⟨⟨?_, Nat.le_add_right _ _⟩, ?_⟩
  · intro index body found
    have inside := (List.getElem?_eq_some_iff.mp found).1
    exact (List.getElem?_append_left inside).trans found
  · rw [Joint.freedom_of_normalize? normalized]

/-- States that are equal below a bound agree on the numbers below it. -/
theorem agreeOn_sameBelow
    {bound : Nat}
    {positions velocities newPositions newVelocities : List T}
    (agree :
      ∀ dof, dof < bound →
        positions[dof]? = newPositions[dof]? ∧
          velocities[dof]? = newVelocities[dof]?) :
    AgreeOn (SameBelow bound)
      positions velocities newPositions newVelocities := by
  rintro dof _ ⟨rfl, inside⟩
  exact agree dof inside

/-- Columns that begin as others are those with some added after them. -/
theorem eq_append_of_columnsAgree
    {columns newColumns : Columns T}
    (agree : ColumnsAgree (SameBelow columns.length) columns newColumns)
    {count : Nat}
    (width : newColumns.length = columns.length + count) :
    ∃ added,
      newColumns = columns ++ added ∧
        added.length = count ∧
        ∀ index, added[index]? = newColumns[columns.length + index]? := by
  have beginning : newColumns.take columns.length = columns := by
    refine List.ext_getElem? fun dof => ?_
    rw [List.getElem?_take]
    split
    · rename_i inside
      exact (agree ⟨rfl, inside⟩).symm
    · rename_i outside
      exact (List.getElem?_eq_none (Nat.le_of_not_lt outside)).symm
  refine ⟨newColumns.drop columns.length, ?_, ?_, ?_⟩
  · conv_lhs => rw [← List.take_append_drop columns.length newColumns]
    rw [beginning]
  · rw [List.length_drop, width, Nat.add_sub_cancel_left]
  · intro index
    rw [List.getElem?_drop]

section Appended

variable [One K] [Add K] [Sub K] [Mul K]
variable [Zero T] [One T] [Add T] [Sub T] [Neg T] [Mul T]
variable [Elementary T] [Constant K T]

/--
A Jacobian among the frames of the beginning has a column for each coordinate
that was added, after those it had.  No added coordinate carries such a frame,
so these columns are zero where arithmetic is exact.
-/
theorem BeginsAs.pointJacobian_appended
    {mechanism grown : Mechanism K}
    (begins : grown.BeginsAs mechanism)
    (grounded : mechanism.Grounded)
    (grownGrounded : grown.Grounded)
    {positions velocities newPositions newVelocities : List T}
    {snapshot newSnapshot : Snapshot T}
    (taken : mechanism.Taken positions velocities snapshot)
    (newTaken : grown.Taken newPositions newVelocities newSnapshot)
    (motions :
      MotionsAgree (SameBelow mechanism.frameCount) snapshot newSnapshot)
    {count : Nat}
    (growth : grown.dofCount = mechanism.dofCount + count)
    {frame measuredIn expressedIn : FrameId}
    (inside : mechanism.contains frame = true)
    (referenceInside : mechanism.contains measuredIn = true)
    (targetInside : mechanism.contains expressedIn = true)
    (point : Vec3 T) :
    ∃ columns added,
      mechanism.pointJacobian snapshot frame point
            measuredIn expressedIn =
          .ok columns ∧
        grown.pointJacobian newSnapshot frame point
            measuredIn expressedIn =
          .ok (columns ++ added) ∧
        columns.length = mechanism.dofCount ∧
        added.length = count ∧
        (LawfulZero T → added = Columns.zeros count) := by
  have insideGrown := begins.contains inside
  have referenceInsideGrown := begins.contains referenceInside
  have targetInsideGrown := begins.contains targetInside
  obtain ⟨columns, newColumns, columnsFound, newColumnsFound,
      columnsAgree⟩ :=
    (begins.correspondence grounded).pointJacobian_agree grounded
      grownGrounded motions taken newTaken (sameBelow_of_contains inside)
      (sameBelow_of_contains referenceInside)
      (sameBelow_of_contains targetInside) point
  have width : columns.length = mechanism.dofCount :=
    taken.length_pointJacobian grounded inside referenceInside
      targetInside columnsFound
  have newWidth : newColumns.length = grown.dofCount :=
    newTaken.length_pointJacobian grownGrounded insideGrown
      referenceInsideGrown targetInsideGrown newColumnsFound
  rw [← width] at columnsAgree growth
  obtain ⟨added, rfl, addedWidth, addedFound⟩ :=
    eq_append_of_columnsAgree columnsAgree (newWidth.trans growth)
  refine
    ⟨columns, added, columnsFound, newColumnsFound, width, addedWidth, ?_⟩
  intro _
  refine List.eq_replicate_iff.mpr ⟨addedWidth, fun column member => ?_⟩
  obtain ⟨index, columnFound⟩ := List.mem_iff_getElem?.mp member
  have indexInside : index < added.length :=
    (List.getElem?_eq_some_iff.mp columnFound).1
  have later : mechanism.dofCount ≤ columns.length + index := by omega
  have isZero :=
    newTaken.pointJacobian_of_carries grownGrounded insideGrown
      referenceInsideGrown targetInsideGrown
      (show columns.length + index < grown.dofCount by omega)
      (begins.carries_later grounded grownGrounded
        (of_decide_eq_true inside) later)
      (begins.carries_later grounded grownGrounded
        (of_decide_eq_true referenceInside) later)
      newColumnsFound
  rw [← addedFound index, columnFound] at isZero
  exact Option.some.inj isZero

end Appended

section Attached

variable [Zero K] [One K] [Add K] [Sub K] [Mul K] [Div K]
variable [OfScientific K] [BEq K] [LT K] [DecidableLT K] [Elementary K]
variable [Zero T] [One T] [Add T] [Sub T] [Neg T] [Mul T]
variable [Elementary T] [Constant K T]

/--
Attaching a body disturbs nothing that was there.  Whatever its coordinate is,
the frames that were there before keep their motions, and their points keep
positions and bias accelerations.  Their Jacobians keep their columns and gain
one if the new joint moves; where arithmetic is exact, that column is zero.
-/
theorem attach_keeps_earlier_frames
    {mechanism grown : Mechanism K}
    (built : mechanism.Built)
    {freshRevision : Nat}
    {name : String}
    {parent newFrame : FrameId}
    {joint : Joint K}
    {offset : Pose K}
    (accepted :
      mechanism.attach freshRevision name parent joint offset =
        .ok (grown, newFrame))
    {positions velocities newPositions newVelocities : List T}
    (positionCount : positions.length = mechanism.dofCount)
    (velocityCount : velocities.length = mechanism.dofCount)
    (newPositionCount : newPositions.length = grown.dofCount)
    (newVelocityCount : newVelocities.length = grown.dofCount)
    (agree :
      ∀ dof, dof < mechanism.dofCount →
        positions[dof]? = newPositions[dof]? ∧
          velocities[dof]? = newVelocities[dof]?) :
    ∃ snapshot newSnapshot : Snapshot T,
      mechanism.snapshot positions velocities = .ok snapshot ∧
        grown.snapshot newPositions newVelocities = .ok newSnapshot ∧
        (∀ frame, mechanism.contains frame = true →
          ∃ motion,
            snapshot.motion? frame = some motion ∧
              newSnapshot.motion? frame = some motion) ∧
        ∀ {frame measuredIn expressedIn : FrameId},
          mechanism.contains frame = true →
          mechanism.contains measuredIn = true →
          mechanism.contains expressedIn = true →
          ∀ point : Vec3 T,
            (∃ position,
              mechanism.pointPosition snapshot frame point
                    expressedIn =
                  .ok position ∧
                grown.pointPosition newSnapshot frame point
                    expressedIn =
                  .ok position) ∧
              (∃ bias,
                mechanism.pointBias snapshot frame point expressedIn =
                    .ok bias ∧
                  grown.pointBias newSnapshot frame point expressedIn =
                    .ok bias) ∧
              ∃ columns added,
                mechanism.pointJacobian snapshot frame point
                      measuredIn expressedIn =
                    .ok columns ∧
                  grown.pointJacobian newSnapshot frame point
                      measuredIn expressedIn =
                    .ok (columns ++ added) ∧
                  columns.length = mechanism.dofCount ∧
                  added.length = joint.freedom ∧
                  (LawfulZero T → added = Columns.zeros joint.freedom) := by
  have grounded := built.wellFormed.grounded
  have grownGrounded := (Built.attach built accepted).wellFormed.grounded
  obtain ⟨begins, growth⟩ := attach_beginsAs accepted
  have same := begins.correspondence grounded
  obtain ⟨snapshot, found, taken⟩ :=
    grounded.snapshot_ok positionCount velocityCount
  obtain ⟨newSnapshot, newFound, newTaken⟩ :=
    grownGrounded.snapshot_ok newPositionCount newVelocityCount
  have motions :=
    same.motionsAgree grounded (agreeOn_sameBelow agree) taken newTaken
  refine
    ⟨snapshot, newSnapshot, found, newFound,
      fun _ inside =>
        same.motion_agree motions taken (sameBelow_of_contains inside), ?_⟩
  intro frame measuredIn expressedIn inside referenceInside targetInside point
  have sameFrame := sameBelow_of_contains inside
  have sameTarget := sameBelow_of_contains targetInside
  exact
    ⟨same.pointPosition_agree motions taken newTaken sameFrame sameTarget
        point,
      same.pointBias_agree motions taken newTaken sameFrame sameTarget
        point,
      begins.pointJacobian_appended grounded grownGrounded taken newTaken
        motions growth inside referenceInside targetInside point⟩

end Attached

/-- The sliding arm with a lift on its slider. -/
noncomputable def liftedArm : Mechanism ℝ where
  bodies :=
    slidingArm.bodies ++
      [slidingArm.newBody "lift" ⟨2⟩ (.prismatic ⟨0, 0, 1⟩) .identity]
  dofCount := slidingArm.dofCount + 1
  revision := 3

theorem attach_lift :
    slidingArm.attach 3 "lift" ⟨2⟩ (.prismatic ⟨0, 0, 1⟩) .identity =
      .ok (liftedArm, ⟨3⟩) := by
  have finite : (Pose.identity : Pose ℝ).allFinite = true := by
    simp [Pose.allFinite, Vec3.allFinite, Quaternion.allFinite]
  exact
    attach_eq_ok_iff.mpr
      ⟨rfl, rfl, finite, _,
        Joint.normalize?_of_unit Joint.hasUnitAxis_upward, rfl, rfl⟩

/-- The arm and its slider move as before, however far the lift is up. -/
theorem attach_keeps_earlier_frames_liftedArm :
    slidingArm.Built ∧
      slidingArm.attach 3 "lift" ⟨2⟩ (.prismatic ⟨0, 0, 1⟩) .identity =
          .ok (liftedArm, ⟨3⟩) ∧
      ∃ (snapshot newSnapshot : Snapshot ℝ) (columns : Columns ℝ),
        slidingArm.snapshot [1, 2] [3, 4] = .ok snapshot ∧
          liftedArm.snapshot [1, 2, 5] [3, 4, 6] = .ok newSnapshot ∧
          (∃ motion,
            snapshot.motion? ⟨2⟩ = some motion ∧
              newSnapshot.motion? ⟨2⟩ = some motion) ∧
          slidingArm.pointJacobian snapshot ⟨2⟩ 0 ⟨1⟩ .world =
            .ok columns ∧
          liftedArm.pointJacobian newSnapshot ⟨2⟩ 0 ⟨1⟩ .world =
            .ok (columns ++ [0]) := by
  have agree :
      ∀ dof, dof < slidingArm.dofCount →
        [(1 : ℝ), 2][dof]? = [(1 : ℝ), 2, 5][dof]? ∧
          [(3 : ℝ), 4][dof]? = [(3 : ℝ), 4, 6][dof]? := by
    intro dof inside
    match dof, inside with
    | 0, _ => exact ⟨rfl, rfl⟩
    | 1, _ => exact ⟨rfl, rfl⟩
  obtain ⟨snapshot, newSnapshot, found, newFound, motions, queries⟩ :=
    attach_keeps_earlier_frames slidingArm_built attach_lift
      (rfl : [(1 : ℝ), 2].length = 2) (rfl : [(3 : ℝ), 4].length = 2)
      (rfl : [(1 : ℝ), 2, 5].length = 3)
      (rfl : [(3 : ℝ), 4, 6].length = 3) agree
  obtain ⟨_, _, columns, added, columnsFound, newColumnsFound, _, _,
      isZero⟩ :=
    @queries ⟨2⟩ ⟨1⟩ .world rfl rfl rfl 0
  rw [isZero inferInstance] at newColumnsFound
  exact
    ⟨slidingArm_built, attach_lift, snapshot, newSnapshot, columns, found,
      newFound, motions ⟨2⟩ rfl, columnsFound, newColumnsFound⟩

end Mechanism

end Linkage
