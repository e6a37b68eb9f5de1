import Linkage.Proofs.Mechanism.Reading
import Linkage.Proofs.Mechanism.Rigidity

namespace Linkage

/-!
# Relative motion of two frames

The ways from two frames down to the world meet in some frame, and the joints
before the meeting are those on exactly one of the two ways.  In the frame
where they meet, the motions of both frames depend on those joints alone; seen
from the world, both are carried along by the motion of that frame.

So the motion of one frame relative to another is a function of the joints
between them, whatever the rest of the mechanism does.
-/

variable {K T : Type}

section Carried

variable [CommRing T]

/--
A motion is carried by a base if it is the motion of the base followed by a
motion that is stated in the coordinates of the base.  The axis of the joint
plays no part.
-/
structure FrameMotion.Carried
    (base relative motion : FrameMotion T) : Prop where
  rotation :
    motion.rotation = base.rotation.times relative.rotation
  origin :
    motion.origin = base.pointPosition relative.origin
  angularVelocity :
    motion.angularVelocity =
      base.angularVelocity +
        base.rotation.apply relative.angularVelocity
  originVelocity :
    motion.originVelocity =
      base.pointVelocity (base.pointPosition relative.origin) +
        base.rotation.apply relative.originVelocity
  angularBias :
    motion.angularBias =
      base.angularBias +
        base.angularVelocity.cross
          (base.rotation.apply relative.angularVelocity) +
        base.rotation.apply relative.angularBias
  originBias :
    motion.originBias =
      base.pointBias (base.pointPosition relative.origin) +
        (base.angularVelocity.cross
          (base.rotation.apply relative.originVelocity)).scale two +
        base.rotation.apply relative.originBias

/-- A joint is carried by a base as the frame behind it is. -/
structure JointMotion.Carried
    (base : FrameMotion T)
    (relative joint : JointMotion T) : Prop where
  rotation :
    joint.rotation = base.rotation.times relative.rotation
  origin :
    joint.origin = base.pointPosition relative.origin
  angularVelocity :
    joint.angularVelocity =
      base.angularVelocity +
        base.rotation.apply relative.angularVelocity
  angularBias :
    joint.angularBias =
      base.angularBias +
        base.angularVelocity.cross
          (base.rotation.apply relative.angularVelocity) +
        base.rotation.apply relative.angularBias
  slide :
    joint.slide = base.rotation.apply relative.slide

namespace FrameMotion

/-- A base carries what rests in it at its origin. -/
theorem carried_world (base : FrameMotion T) :
    Carried base .world base where
  rotation := by
    apply Mat3.ext_apply
    intro v
    rw [Mat3.times_apply]
    simp [world]
  origin := by simp [world, pointPosition]
  angularVelocity := by simp [world]
  originVelocity := by
    ext <;> simp [world, pointPosition, pointVelocity, Vec3.cross]
  angularBias := by simp [world]
  originBias := by
    ext <;>
      simp [world, pointPosition, pointBias, Vec3.cross, Vec3.scale]

/-- The way between two points of a frame turns with it. -/
theorem pointPosition_sub
    (motion : FrameMotion T)
    (first second : Vec3 T) :
    motion.pointPosition first - motion.pointPosition second =
      motion.rotation.apply (first - second) := by
  rw [pointPosition, pointPosition, Mat3.apply_sub]
  ext <;> simp

/-- The velocities of two points of a frame differ by its turning. -/
theorem pointVelocity_sub
    (motion : FrameMotion T)
    (first second : Vec3 T) :
    motion.pointVelocity first - motion.pointVelocity second =
      motion.angularVelocity.cross (first - second) := by
  ext <;> simp [pointVelocity, Vec3.cross] <;> ring

/-- The biases of two points of a frame differ by those of its turning. -/
theorem pointBias_sub
    (motion : FrameMotion T)
    (first second : Vec3 T) :
    motion.pointBias first - motion.pointBias second =
      motion.angularBias.cross (first - second) +
        motion.angularVelocity.cross
          (motion.angularVelocity.cross (first - second)) := by
  ext <;> simp [pointBias, Vec3.cross] <;> ring

namespace Carried

variable {base relative motion : FrameMotion T}

/-- A point of a carried frame is carried. -/
theorem pointPosition
    (carried : Carried base relative motion)
    (point : Vec3 T) :
    motion.pointPosition point =
      base.pointPosition (relative.pointPosition point) := by
  simp only [FrameMotion.pointPosition, carried.rotation, carried.origin,
    Mat3.times_apply, Mat3.apply_add]
  ext <;> simp <;> ring

/-- The velocity of a carried point is that of the base and its own. -/
theorem pointVelocity
    (carried : Carried base relative motion)
    (rotation : base.rotation.IsRotation)
    (position : Vec3 T) :
    motion.pointVelocity (base.pointPosition position) =
      base.pointVelocity (base.pointPosition position) +
        base.rotation.apply (relative.pointVelocity position) := by
  simp only [FrameMotion.pointVelocity, FrameMotion.pointPosition,
    carried.origin, carried.angularVelocity, carried.originVelocity,
    Mat3.apply_add, Mat3.apply_sub, ← rotation.cross_apply]
  ext <;> simp [Vec3.cross] <;> ring

/--
The bias of a carried point is that of the base and its own, and what comes of
turning its own velocity.
-/
theorem pointBias
    (carried : Carried base relative motion)
    (rotation : base.rotation.IsRotation)
    (position : Vec3 T) :
    motion.pointBias (base.pointPosition position) =
      base.pointBias (base.pointPosition position) +
        (base.angularVelocity.cross
          (base.rotation.apply
            (relative.pointVelocity position))).scale two +
        base.rotation.apply (relative.pointBias position) := by
  simp only [FrameMotion.pointBias, FrameMotion.pointVelocity,
    FrameMotion.pointPosition, carried.origin, carried.angularVelocity,
    carried.angularBias, carried.originBias, Mat3.apply_add,
    Mat3.apply_sub, ← rotation.cross_apply]
  ext <;> simp [Vec3.cross, Vec3.scale, two] <;> ring

end Carried

end FrameMotion

variable [Elementary T] [Constant K T]

/-- A joint on a carried attachment is carried. -/
theorem JointMotion.carried_of
    {base : FrameMotion T}
    (isRotation : base.rotation.IsRotation)
    (joint : Joint K)
    (rotation : Mat3 T)
    (origin angularVelocity angularBias : Vec3 T)
    (coordinate rate : T) :
    JointMotion.Carried base
      (JointMotion.of joint rotation origin angularVelocity angularBias
        coordinate rate)
      (JointMotion.of joint (base.rotation.times rotation)
        (base.pointPosition origin)
        (base.angularVelocity + base.rotation.apply angularVelocity)
        (base.angularBias +
          base.angularVelocity.cross
            (base.rotation.apply angularVelocity) +
          base.rotation.apply angularBias)
        coordinate rate) := by
  cases joint with
  | fixed =>
      exact ⟨rfl, rfl, rfl, rfl, (Mat3.apply_zero _).symm⟩
  | revolute axis =>
      refine ⟨?_, rfl, ?_, ?_, (Mat3.apply_zero _).symm⟩
      · exact Mat3.times_assoc _ _ _
      · simp only [JointMotion.of, Mat3.times_apply, Mat3.apply_add,
          Mat3.apply_scale]
        ext <;> simp <;> ring
      · simp only [JointMotion.of, Mat3.times_apply, Mat3.apply_add,
          Mat3.apply_scale, ← isRotation.cross_apply]
        ext <;> simp [Vec3.cross, Vec3.scale] <;> ring
  | prismatic axis =>
      refine ⟨rfl, ?_, rfl, rfl, ?_⟩
      · simp only [JointMotion.of, FrameMotion.pointPosition,
          Mat3.times_apply, Mat3.apply_add, Mat3.apply_scale]
        ext <;> simp <;> ring
      · simp only [JointMotion.of, Mat3.times_apply, Mat3.apply_scale]

variable [CommRing K]

/-- What the joint of a body makes of its place on the parent. -/
def FrameMotion.jointOf
    (parent : FrameMotion T)
    (body : Body K)
    (coordinate rate : T) : JointMotion T :=
  JointMotion.of body.joint
    (parent.rotation.times
      (body.offset.rotation.toMatrix.map Constant.constant))
    (parent.pointPosition (body.offset.position.map Constant.constant))
    parent.angularVelocity parent.angularBias coordinate rate

/-- The joint of a body on a carried frame is carried. -/
theorem FrameMotion.Carried.jointOf
    {base relative motion : FrameMotion T}
    (carried : Carried base relative motion)
    (isRotation : base.rotation.IsRotation)
    (body : Body K)
    (coordinate rate : T) :
    JointMotion.Carried base (relative.jointOf body coordinate rate)
      (motion.jointOf body coordinate rate) := by
  simp only [FrameMotion.jointOf, carried.rotation,
    carried.pointPosition, carried.angularVelocity, carried.angularBias,
    Mat3.times_assoc]
  exact JointMotion.carried_of isRotation body.joint _ _ _ _ _ _

variable [PreservesArithmetic (Constant.constant : K → T)]

/-- A body on a carried frame is carried. -/
theorem FrameMotion.Carried.follow
    {base relative motion : FrameMotion T}
    (carried : Carried base relative motion)
    (isRotation : base.rotation.IsRotation)
    (body : Body K)
    (coordinate rate : T) :
    Carried base (relative.follow body coordinate rate)
      (motion.follow body coordinate rate) := by
  have joint := carried.jointOf isRotation body coordinate rate
  have velocity :
      ∀ parent : FrameMotion T,
        (parent.follow body coordinate rate).originVelocity =
          parent.pointVelocity
              (parent.jointOf body coordinate rate).origin +
            (parent.jointOf body coordinate rate).slide :=
    fun _ => rfl
  have bias :
      ∀ parent : FrameMotion T,
        (parent.follow body coordinate rate).originBias =
          parent.pointBias
              (parent.jointOf body coordinate rate).origin +
            (parent.angularVelocity.cross
              (parent.jointOf body coordinate rate).slide).scale two := by
    intro parent
    rw [← PreservesArithmetic.map_two (Constant.constant : K → T)]
    rfl
  have origin :
      (relative.follow body coordinate rate).origin =
        (relative.jointOf body coordinate rate).origin := rfl
  refine
    ⟨joint.rotation, joint.origin, joint.angularVelocity, ?_,
      joint.angularBias, ?_⟩
  · rw [velocity, velocity, joint.origin, joint.slide,
      carried.pointVelocity isRotation, origin, Mat3.apply_add]
    ext <;> simp <;> ring
  · rw [bias, bias, velocity, joint.origin, joint.slide,
      carried.pointBias isRotation, origin, carried.angularVelocity,
      Mat3.apply_add, Mat3.apply_add, Mat3.apply_scale,
      ← isRotation.cross_apply]
    ext <;> simp [Vec3.cross, Vec3.scale, two] <;> ring

end Carried

namespace Mechanism

section Separates

variable {mechanism : Mechanism K}

/-- Whether the joint of a coordinate is on the way from a frame down. -/
def carries
    (mechanism : Mechanism K)
    (frame dof : Nat) : Bool :=
  match mechanism.chain? frame with
  | none => false
  | some chain => chain.any (·.2.dof == some dof)

/-- Whether the joint of a coordinate is on exactly one of two ways down. -/
def separates
    (mechanism : Mechanism K)
    (first second dof : Nat) : Bool :=
  mechanism.carries first dof != mechanism.carries second dof

/-- A body is carried by its own joint and by those that carry its parent. -/
theorem carries_body
    (wellFormed : mechanism.WellFormed)
    {index : Nat}
    {body : Body K}
    (found : mechanism.bodies[index]? = some body)
    (dof : Nat) :
    mechanism.carries (index + 1) dof =
      (body.dof == some dof ||
        mechanism.carries body.parent.index dof) := by
  have parentBefore := wellFormed.parentBefore found
  have inside : index < mechanism.bodies.length :=
    (List.getElem?_eq_some_iff.mp found).1
  obtain ⟨chain, hasChain⟩ :=
    wellFormed.grounded.chain_exists
      (Nat.lt_succ_of_lt (Nat.lt_of_le_of_lt parentBefore inside))
  simp [carries, chain?_body found parentBefore, hasChain]

/-- No frame before a body is carried by the joint of that body. -/
theorem carries_earlier
    (wellFormed : mechanism.WellFormed)
    {index dof : Nat}
    {body : Body K}
    (found : mechanism.bodies[index]? = some body)
    (hasDof : body.dof = some dof)
    {frame : Nat}
    (earlier : frame ≤ index) :
    mechanism.carries frame dof = false := by
  have inside : index < mechanism.bodies.length :=
    (List.getElem?_eq_some_iff.mp found).1
  have frameInside : frame < mechanism.frameCount :=
    Nat.lt_succ_of_lt (Nat.lt_of_le_of_lt earlier inside)
  unfold carries
  split
  · rfl
  · rename_i chain hasChain
    rw [List.any_eq_false]
    intro link member isDof
    obtain ⟨place, _, before, linkFound⟩ :=
      wellFormed.grounded.link_found frameInside hasChain link member
    exact
      wellFormed.dof_ne_of_lt (Nat.lt_of_lt_of_le before earlier)
        linkFound found (beq_iff_eq.mp isDof) hasDof

/-- The coordinate of a body separates it from the frames before it. -/
theorem separates_own
    (wellFormed : mechanism.WellFormed)
    {index dof : Nat}
    {body : Body K}
    (found : mechanism.bodies[index]? = some body)
    (hasDof : body.dof = some dof)
    {other : Nat}
    (earlier : other ≤ index) :
    mechanism.separates (index + 1) other dof = true := by
  rw [separates, carries_body wellFormed found,
    carries_earlier wellFormed found hasDof earlier]
  simp [hasDof]

/-- What separates the parent of a body from an earlier frame separates it. -/
theorem separates_of_parent
    (wellFormed : mechanism.WellFormed)
    {index : Nat}
    {body : Body K}
    (found : mechanism.bodies[index]? = some body)
    {other dof : Nat}
    (earlier : other ≤ index)
    (separated :
      mechanism.separates body.parent.index other dof = true) :
    mechanism.separates (index + 1) other dof = true := by
  by_cases isOwn : body.dof = some dof
  · exact separates_own wellFormed found isOwn earlier
  · have notOwn : (body.dof == some dof) = false :=
      beq_eq_false_iff_ne.mpr isOwn
    rw [separates, carries_body wellFormed found, notOwn, Bool.false_or]
    exact separated

theorem separates_comm
    (mechanism : Mechanism K)
    (first second dof : Nat) :
    mechanism.separates first second dof =
      mechanism.separates second first dof :=
  bne_comm

/-- Two states agree on the coordinates that separate two frames. -/
def AgreeBetween
    (mechanism : Mechanism K)
    (first second : Nat)
    (positions velocities otherPositions otherVelocities : List T) :
    Prop :=
  ∀ dof, mechanism.separates first second dof = true →
    positions[dof]? = otherPositions[dof]? ∧
      velocities[dof]? = otherVelocities[dof]?

/-- The order of the frames does not matter. -/
theorem AgreeBetween.swap
    {first second : Nat}
    {positions velocities otherPositions otherVelocities : List T}
    (agree :
      mechanism.AgreeBetween first second
        positions velocities otherPositions otherVelocities) :
    mechanism.AgreeBetween second first
      positions velocities otherPositions otherVelocities := by
  intro dof separated
  rw [separates_comm] at separated
  exact agree dof separated

end Separates

end Mechanism

namespace FrameMotion

/-- Two motions are carried by one base, which turns rigidly. -/
def CarriedTogether
    [CommRing T]
    (relativeFirst relativeSecond first second : FrameMotion T) : Prop :=
  ∃ base : FrameMotion T,
    base.rotation.IsRotation ∧
      Carried base relativeFirst first ∧
      Carried base relativeSecond second

/--
In two states, two frames move alike if some motions relative to a base carry
over from one state to the other; the base may move otherwise.
-/
def MoveAlike
    [CommRing T]
    (first second otherFirst otherSecond : FrameMotion T) : Prop :=
  ∃ relativeFirst relativeSecond,
    CarriedTogether relativeFirst relativeSecond first second ∧
      CarriedTogether relativeFirst relativeSecond
        otherFirst otherSecond

namespace MoveAlike

variable [CommRing T]
variable {first second otherFirst otherSecond : FrameMotion T}

/-- A frame and itself move alike in any two states. -/
theorem self
    {motion other : FrameMotion T}
    (rotation : motion.rotation.IsRotation)
    (otherRotation : other.rotation.IsRotation) :
    MoveAlike motion motion other other :=
  ⟨.world, .world,
    ⟨motion, rotation, carried_world motion, carried_world motion⟩,
    ⟨other, otherRotation, carried_world other, carried_world other⟩⟩

/-- The order of the frames does not matter. -/
theorem swap
    (alike : MoveAlike first second otherFirst otherSecond) :
    MoveAlike second first otherSecond otherFirst := by
  obtain ⟨relativeFirst, relativeSecond,
      ⟨base, rotation, carriedFirst, carriedSecond⟩,
      ⟨otherBase, otherRotation, otherCarriedFirst,
        otherCarriedSecond⟩⟩ := alike
  exact
    ⟨relativeSecond, relativeFirst,
      ⟨base, rotation, carriedSecond, carriedFirst⟩,
      ⟨otherBase, otherRotation, otherCarriedSecond,
        otherCarriedFirst⟩⟩

/-- A body at one coordinate in both states moves alike as its parent. -/
theorem follow
    [CommRing K] [Elementary T] [Constant K T]
    [PreservesArithmetic (Constant.constant : K → T)]
    (alike : MoveAlike first second otherFirst otherSecond)
    (body : Body K)
    (coordinate rate : T) :
    MoveAlike (first.follow body coordinate rate) second
      (otherFirst.follow body coordinate rate) otherSecond := by
  obtain ⟨relativeFirst, relativeSecond,
      ⟨base, rotation, carriedFirst, carriedSecond⟩,
      ⟨otherBase, otherRotation, otherCarriedFirst,
        otherCarriedSecond⟩⟩ := alike
  exact
    ⟨relativeFirst.follow body coordinate rate, relativeSecond,
      ⟨base, rotation, carriedFirst.follow rotation body coordinate rate,
        carriedSecond⟩,
      ⟨otherBase, otherRotation,
        otherCarriedFirst.follow otherRotation body coordinate rate,
        otherCarriedSecond⟩⟩

end MoveAlike

end FrameMotion

namespace Mechanism

variable [CommRing K] [CommRing T] [Elementary T] [Constant K T]
variable [PreservesArithmetic (Constant.constant : K → T)]
variable {mechanism : Mechanism K}

variable {positions velocities otherPositions otherVelocities : List T}
variable {snapshot otherSnapshot : Snapshot T}

/--
A frame moves alike with an earlier one if its parent does, because the states
agree on the coordinate of its body.
-/
theorem moveAlike_succ
    (wellFormed : mechanism.WellFormed)
    (taken : mechanism.Taken positions velocities snapshot)
    (otherTaken :
      mechanism.Taken otherPositions otherVelocities otherSnapshot)
    {index second : Nat}
    (earlier : second ≤ index)
    (agree :
      mechanism.AgreeBetween (index + 1) second
        positions velocities otherPositions otherVelocities)
    {motionSecond otherSecond : FrameMotion T}
    (parentAlike :
      ∀ {place : Nat} {parent otherParent : FrameMotion T},
        place ≤ index →
        mechanism.AgreeBetween place second
          positions velocities otherPositions otherVelocities →
        snapshot.frames[place]? = some parent →
        otherSnapshot.frames[place]? = some otherParent →
        FrameMotion.MoveAlike parent motionSecond otherParent otherSecond)
    {motion otherMotion : FrameMotion T}
    (found : snapshot.frames[index + 1]? = some motion)
    (otherFound : otherSnapshot.frames[index + 1]? = some otherMotion) :
    FrameMotion.MoveAlike motion motionSecond otherMotion otherSecond := by
  have inside : index < mechanism.bodies.length := by
    have frameInside := (List.getElem?_eq_some_iff.mp found).1
    rw [taken.swept.count] at frameInside
    exact Nat.lt_of_succ_lt_succ frameInside
  have bodyFound := List.getElem?_eq_getElem inside
  generalize mechanism.bodies[index] = body at bodyFound
  obtain ⟨parent, state, parentFound, stateFound, shape⟩ :=
    taken.swept.follows bodyFound
  obtain ⟨otherParent, otherState, otherParentFound, otherStateFound,
      otherShape⟩ :=
    otherTaken.swept.follows bodyFound
  rw [shape] at found
  rw [otherShape] at otherFound
  cases found
  cases otherFound
  have sameState :=
    coordinateOf_congr fun dof hasDof =>
      agree dof (separates_own wellFormed bodyFound hasDof earlier)
  rw [stateFound, otherStateFound] at sameState
  cases sameState
  have parentAgree :
      mechanism.AgreeBetween body.parent.index second
        positions velocities otherPositions otherVelocities :=
    fun dof separated =>
      agree dof
        (separates_of_parent wellFormed bodyFound earlier separated)
  exact
    (parentAlike (wellFormed.parentBefore bodyFound) parentAgree
      parentFound otherParentFound).follow body _ _

variable [LawfulTrigonometry T]

/--
If two states agree on the coordinates between two frames, the frames move
alike in both.  The induction goes down from the later of the two frames until
they meet.
-/
theorem Taken.moveAlike
    (wellFormed : mechanism.WellFormed)
    (normalized : mechanism.Normalized)
    (taken : mechanism.Taken positions velocities snapshot)
    (otherTaken :
      mechanism.Taken otherPositions otherVelocities otherSnapshot)
    {first second : Nat}
    (agree :
      mechanism.AgreeBetween first second
        positions velocities otherPositions otherVelocities)
    {motionFirst motionSecond : FrameMotion T}
    (foundFirst : snapshot.frames[first]? = some motionFirst)
    (foundSecond : snapshot.frames[second]? = some motionSecond)
    {otherFirst otherSecond : FrameMotion T}
    (otherFoundFirst : otherSnapshot.frames[first]? = some otherFirst)
    (otherFoundSecond : otherSnapshot.frames[second]? = some otherSecond) :
    FrameMotion.MoveAlike motionFirst motionSecond
      otherFirst otherSecond := by
  induction both : first + second using Nat.strongRecOn
    generalizing first second motionFirst motionSecond
      otherFirst otherSecond with
  | ind both inductionHypothesis =>
      rcases Nat.lt_trichotomy first second with before | same | after
      · obtain ⟨index, rfl⟩ :=
          Nat.exists_eq_add_one_of_ne_zero (Nat.ne_zero_of_lt before)
        refine
          (moveAlike_succ wellFormed taken otherTaken
            (Nat.le_of_lt_succ before) agree.swap ?_
            foundSecond otherFoundSecond).swap
        intro place parent otherParent inside parentAgree parentFound
          otherParentFound
        exact
          inductionHypothesis _ (by omega) parentAgree
            parentFound foundFirst otherParentFound otherFoundFirst rfl
      · subst same
        rw [foundFirst] at foundSecond
        rw [otherFoundFirst] at otherFoundSecond
        cases foundSecond
        cases otherFoundSecond
        have found : snapshot.motion? ⟨first⟩ = some motionFirst :=
          foundFirst
        have otherFound : otherSnapshot.motion? ⟨first⟩ = some otherFirst :=
          otherFoundFirst
        exact
          .self (taken.isRotation wellFormed normalized found)
            (otherTaken.isRotation wellFormed normalized otherFound)
      · obtain ⟨index, rfl⟩ :=
          Nat.exists_eq_add_one_of_ne_zero (Nat.ne_zero_of_lt after)
        refine
          moveAlike_succ wellFormed taken otherTaken
            (Nat.le_of_lt_succ after) agree ?_ foundFirst otherFoundFirst
        intro place parent otherParent inside parentAgree parentFound
          otherParentFound
        exact
          inductionHypothesis _ (by omega) parentAgree
            parentFound foundSecond otherParentFound otherFoundSecond rfl

end Mechanism

end Linkage
