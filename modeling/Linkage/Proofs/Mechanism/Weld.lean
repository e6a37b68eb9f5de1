import Linkage.Proofs.Mechanism.DeclarationOrder

namespace Linkage

/-!
# Welding a joint

Attaching one body rigidly instead of by a joint takes a coordinate out of a
mechanism.  The coordinates after it move down by one, and nothing else about
the other bodies changes.  Declaring all bodies again, with that one changed,
gives just this mechanism and no other.
-/

variable {K : Type}

/-- The number of a coordinate once another one is gone. -/
def closeGap
    (removed dof : Nat) : Nat :=
  if removed < dof then
    dof - 1
  else
    dof

theorem closeGap_of_le
    {removed dof : Nat}
    (before : dof ≤ removed) :
    closeGap removed dof = dof :=
  if_neg (Nat.not_lt.mpr before)

theorem closeGap_of_lt
    {removed dof : Nat}
    (after : removed < dof) :
    closeGap removed dof = dof - 1 :=
  if_pos after

/-- What is left of a list is found at the new numbers. -/
theorem getElem?_eraseIdx_closeGap
    {α : Type}
    (items : List α)
    {removed index : Nat}
    (left : index ≠ removed) :
    (items.eraseIdx removed)[closeGap removed index]? =
      items[index]? := by
  rcases Nat.lt_or_gt_of_ne left with before | after
  · rw [closeGap_of_le before.le, List.getElem?_eraseIdx_of_lt before]
  · obtain ⟨earlier, rfl⟩ := Nat.exists_eq_add_of_lt after
    rw [closeGap_of_lt after, Nat.add_sub_cancel,
      List.getElem?_eraseIdx_of_ge (Nat.le_add_right _ _)]

/-- The body, attached rigidly at the given place. -/
def Body.weld
    (body : Body K)
    (placement : Pose K) : Body K :=
  { body with
    joint := .fixed
    offset := placement
    dof := none }

/-- The body in a mechanism that has lost a coordinate. -/
def Body.closeGap
    (body : Body K)
    (removed : Nat) : Body K :=
  { body with dof := body.dof.map (Linkage.closeGap removed) }

/-- A coordinate before the one that is gone keeps its number. -/
theorem Body.closeGap_eq_self
    (body : Body K)
    {removed : Nat}
    (before : ∀ dof, body.dof = some dof → dof ≤ removed) :
    body.closeGap removed = body := by
  obtain ⟨name, parent, joint, offset, dof⟩ := body
  cases dof with
  | none =>
      rfl
  | some dof =>
      rw [Body.closeGap, Option.map_some, closeGap_of_le (before dof rfl)]

/-- The declaration of a rigid attachment at the given place. -/
def Declaration.weld
    (declaration : Declaration K)
    (placement : Pose K) : Declaration K :=
  { declaration with
    joint := .fixed
    offset := placement }

namespace Mechanism

/-- The mechanism with the body at an index attached rigidly. -/
def weld
    (mechanism : Mechanism K)
    (index removed : Nat)
    (placement : Pose K) : Mechanism K :=
  { mechanism with
    bodies :=
      mechanism.bodies.mapIdx fun place body =>
        if place = index then
          body.weld placement
        else
          body.closeGap removed
    dofCount := mechanism.dofCount - 1 }

variable {mechanism : Mechanism K}
variable {index removed : Nat}
variable {placement : Pose K}

/-- At the index there is the body that was attached rigidly. -/
theorem weld_bodies_self
    {body : Body K}
    (found : mechanism.bodies[index]? = some body) :
    (mechanism.weld index removed placement).bodies[index]? =
      some (body.weld placement) := by
  rw [weld, List.getElem?_mapIdx, found, Option.map_some, if_pos rfl]

/-- The other bodies have new numbers for their coordinates. -/
theorem weld_bodies_of_ne
    {place : Nat}
    {body : Body K}
    (found : mechanism.bodies[place]? = some body)
    (other : place ≠ index) :
    (mechanism.weld index removed placement).bodies[place]? =
      some (body.closeGap removed) := by
  rw [weld, List.getElem?_mapIdx, found, Option.map_some, if_neg other]

/-- No name is changed. -/
theorem weld_frameNames :
    (mechanism.weld index removed placement).frameNames =
      mechanism.frameNames := by
  refine congrArg (worldName :: ·) (List.ext_getElem? fun place => ?_)
  rw [List.getElem?_map, List.getElem?_map]
  cases found : mechanism.bodies[place]? with
  | none =>
      rw [weld, List.getElem?_mapIdx, found]
      rfl
  | some body =>
      by_cases same : place = index
      · subst same
        rw [weld_bodies_self found]
        rfl
      · rw [weld_bodies_of_ne found same]
        rfl

/-- A body attached after the weld has the next number that remains. -/
theorem weld_append
    (inside : index < mechanism.bodies.length)
    (dofInside : removed < mechanism.dofCount)
    (name : String)
    (parent : FrameId)
    (joint : Joint K)
    (offset : Pose K)
    (freshRevision : Nat) :
    weld
        { bodies :=
            mechanism.bodies ++
              [mechanism.newBody name parent joint offset]
          dofCount := mechanism.dofCount + joint.freedom
          revision := freshRevision }
        index removed placement =
      { bodies :=
          (mechanism.weld index removed placement).bodies ++
            [(mechanism.weld index removed placement).newBody name
              parent joint offset]
        dofCount :=
          (mechanism.weld index removed placement).dofCount +
            joint.freedom
        revision := freshRevision } := by
  have newBody :
      (mechanism.newBody name parent joint offset).closeGap removed =
        (mechanism.weld index removed placement).newBody name parent
          joint offset := by
    simp only [Body.closeGap, Mechanism.newBody, weld]
    split
    · rw [Option.map_some, closeGap_of_lt dofInside]
    · rfl
  have count :
      mechanism.dofCount + joint.freedom - 1 =
        mechanism.dofCount - 1 + joint.freedom := by
    omega
  rw [← newBody]
  simp [weld, List.mapIdx_append, inside.ne', count]

/-- A new body with a coordinate has the next one, for a joint that moves. -/
theorem freedom_of_dof_newBody
    {name : String}
    {parent : FrameId}
    {joint : Joint K}
    {offset : Pose K}
    {dof : Nat}
    (hasDof :
      (mechanism.newBody name parent joint offset).dof = some dof) :
    joint.freedom = 1 ∧ mechanism.dofCount = dof := by
  cases joint with
  | fixed =>
      cases hasDof
  | revolute axis =>
      cases hasDof
      exact ⟨rfl, rfl⟩
  | prismatic axis =>
      cases hasDof
      exact ⟨rfl, rfl⟩

/-- Instead of the last body, one that is attached rigidly is attached. -/
theorem weld_append_self
    (wellFormed : mechanism.WellFormed)
    {name : String}
    {parent : FrameId}
    {joint : Joint K}
    {offset : Pose K}
    (moves : joint.freedom = 1)
    (freshRevision : Nat) :
    weld
        { bodies :=
            mechanism.bodies ++
              [mechanism.newBody name parent joint offset]
          dofCount := mechanism.dofCount + joint.freedom
          revision := freshRevision }
        mechanism.bodies.length mechanism.dofCount placement =
      { bodies :=
          mechanism.bodies ++
            [mechanism.newBody name parent .fixed placement]
        dofCount := mechanism.dofCount + Joint.freedom (.fixed : Joint K)
        revision := freshRevision } := by
  have earlier :
      mechanism.bodies.mapIdx
          (fun place body =>
            if place = mechanism.bodies.length then
              body.weld placement
            else
              body.closeGap mechanism.dofCount) =
        mechanism.bodies := by
    refine List.ext_getElem? fun place => ?_
    rw [List.getElem?_mapIdx]
    cases found : mechanism.bodies[place]? with
    | none =>
        rfl
    | some body =>
        have inside := (List.getElem?_eq_some_iff.mp found).1
        rw [Option.map_some, if_neg inside.ne, body.closeGap_eq_self]
        exact fun dof hasDof => (wellFormed.dof_lt found hasDof).le
  have last :
      (mechanism.newBody name parent joint offset).weld placement =
        mechanism.newBody name parent .fixed placement := rfl
  have count :
      mechanism.dofCount + joint.freedom - 1 = mechanism.dofCount := by
    omega
  have fixedFreedom : (Joint.fixed : Joint K).freedom = 0 := rfl
  simp [weld, List.mapIdx_append, earlier, last, count, fixedFreedom]

section Assembly

variable [Zero K] [Add K] [Sub K] [Mul K] [Div K] [OfScientific K]
variable [BEq K] [LT K] [DecidableLT K] [Elementary K]

namespace Assembled

variable {declarations : List (Declaration K)}
variable {mechanism : Mechanism K}

/-- The last declaration was attached to what the others had become. -/
theorem before_last
    {declaration : Declaration K}
    (assembled : Assembled (declarations ++ [declaration]) mechanism) :
    ∃ (before : Mechanism K) (parent frame : FrameId)
      (freshRevision : Nat),
      Assembled declarations before ∧
        before.frameName? parent = some declaration.parent ∧
        before.attach freshRevision declaration.name parent
            declaration.joint declaration.offset =
          .ok (mechanism, frame) := by
  generalize shape : declarations ++ [declaration] = all at assembled
  cases assembled with
  | empty revision =>
      simp at shape
  | declare earlier parentName accepted =>
      obtain ⟨rfl, rfl⟩ := List.append_singleton_inj.mp shape
      exact ⟨_, _, _, _, earlier, parentName, accepted⟩

/-- A parent of a given name has one number. -/
theorem parent_unique
    (assembled : Assembled declarations mechanism)
    {other : Mechanism K}
    (sameNames : other.frameNames = mechanism.frameNames)
    {parent otherParent : FrameId}
    {name : String}
    (hasName : mechanism.frameName? parent = some name)
    (otherHasName : other.frameName? otherParent = some name) :
    otherParent = parent := by
  have distinct := assembled.built.frameNames_nodup
  rw [frameName?_eq_getElem?, sameNames, ← frameName?_eq_getElem?]
    at otherHasName
  have sameNumber := frame_eq_of_name distinct otherHasName hasName
  cases parent
  cases otherParent
  exact congrArg FrameId.mk sameNumber

/-- What declarations become is decided by them, up to the revision. -/
theorem unique
    (assembled : Assembled declarations mechanism)
    {other : Mechanism K}
    (otherAssembled : Assembled declarations other) :
    other.bodies = mechanism.bodies ∧
      other.dofCount = mechanism.dofCount := by
  induction assembled generalizing other with
  | empty revision =>
      generalize shape : ([] : List (Declaration K)) = none
        at otherAssembled
      cases otherAssembled with
      | empty _ => exact ⟨rfl, rfl⟩
      | declare _ _ _ => simp at shape
  | @declare declarations mechanism grown declaration parent frame
      freshRevision assembled parentName accepted inductionHypothesis =>
      obtain ⟨before, otherParent, otherFrame, otherRevision,
          beforeAssembled, otherParentName, otherAccepted⟩ :=
        otherAssembled.before_last
      obtain ⟨sameBodies, sameCount⟩ := inductionHypothesis beforeAssembled
      have sameNames : before.frameNames = mechanism.frameNames := by
        rw [frameNames, sameBodies, frameNames]
      obtain rfl : otherParent = parent :=
        assembled.parent_unique sameNames parentName otherParentName
      obtain ⟨_, _, _, unitJoint, normalized, rfl, _⟩ :=
        attach_eq_ok_iff.mp accepted
      obtain ⟨_, _, _, otherUnitJoint, otherNormalized, rfl, _⟩ :=
        attach_eq_ok_iff.mp otherAccepted
      cases normalized.symm.trans otherNormalized
      refine ⟨?_, congrArg (· + unitJoint.freedom) sameCount⟩
      simp only [newBody, sameBodies, sameCount]

/-- Declared with one body attached rigidly, the bodies become the weld. -/
theorem weld
    (assembled : Assembled declarations mechanism)
    {index removed : Nat}
    {body : Body K}
    (found : mechanism.bodies[index]? = some body)
    (hasDof : body.dof = some removed)
    {declaration : Declaration K}
    (declared : declarations[index]? = some declaration)
    {placement : Pose K}
    (finite : placement.allFinite = true) :
    Assembled (declarations.set index (declaration.weld placement))
      (mechanism.weld index removed placement) := by
  induction assembled with
  | empty revision =>
      simp at declared
  | @declare declarations mechanism grown last parent frame
      freshRevision assembled parentName accepted inductionHypothesis =>
      have wellFormed := assembled.built.wellFormed
      have sameLength := assembled.declared.length_eq
      obtain ⟨_, free, lastFinite, unitJoint, normalized, rfl, _⟩ :=
        attach_eq_ok_iff.mp accepted
      rcases earlier_or_last found with earlier | ⟨rfl, rfl⟩
      · -- The weld is made before, and the last body is attached to it.
        have inside := (List.getElem?_eq_some_iff.mp earlier).1
        have declarationInside : index < declarations.length := by
          rwa [sameLength]
        rw [List.getElem?_append_left declarationInside] at declared
        have welded := inductionHypothesis earlier declared
        rw [List.set_append_left _ _ declarationInside,
          weld_append inside (wellFormed.dof_lt earlier hasDof)]
        rw [frameName?_eq_getElem?, ← weld_frameNames,
          ← frameName?_eq_getElem?] at parentName
        rw [nameTaken_eq_false_iff, ← weld_frameNames,
          ← nameTaken_eq_false_iff] at free
        exact
          welded.grow freshRevision last parent parentName free
            lastFinite normalized
      · -- The last body itself is attached rigidly.
        obtain ⟨moves, rfl⟩ := freedom_of_dof_newBody hasDof
        rw [← sameLength, List.getElem?_concat_length] at declared
        cases declared
        rw [weld_append_self wellFormed moves, ← sameLength,
          List.set_append_right _ _ (Nat.le_refl _), Nat.sub_self,
          List.set_cons_zero]
        exact
          assembled.grow freshRevision (declaration.weld placement)
            parent parentName free finite rfl

end Assembled

end Assembly

/-- The two bodies of the sliding arm, as they are declared. -/
noncomputable def slidingArmDeclarations : List (Declaration ℝ) :=
  slidingArm.bodies.zipWith
    (fun body parent => ⟨body.name, parent, body.joint, body.offset⟩)
    ["world", "arm"]

theorem slidingArm_assembled :
    Assembled slidingArmDeclarations slidingArm := by
  have unit := slidingArm_normalized
  have arm :
      Assembled (slidingArmDeclarations.take 1)
        { bodies := slidingArm.bodies.take 1
          dofCount := 1
          revision := 1 } :=
    (Assembled.empty 0).grow 1 _ .world rfl rfl
      (by simp [Pose.allFinite, Vec3.allFinite, Quaternion.allFinite])
      (Joint.normalize?_of_unit (unit _ (.head _)).axis_unit)
  exact
    arm.grow 2 _ ⟨1⟩ rfl rfl
      (by simp [Pose.allFinite, Vec3.allFinite, Quaternion.allFinite])
      (Joint.normalize?_of_unit (unit _ (.tail _ (.head _))).axis_unit)

end Mechanism

end Linkage
