import Linkage.Proofs.Mechanism.Growth
import Linkage.Proofs.Mechanism.Orderly

namespace Linkage

/-!
# Which bodies are attached

A body is attached exactly when it fits: its parent is a frame, its name is
free, its axis has a direction, and its offset is finite.  These are looked at
in this order, so of several faults the first is the one reported.  One that is
attached adds itself, and its coordinate if it has one.
-/

/-- The axis, if there is one, has a finite length that is not tiny. -/
def Joint.HasDirection
    (joint : Joint Float) : Prop :=
  ∀ {axis : Vec3 Float},
    joint.axis? = some axis →
    axis.norm.isFinite = true ∧ 1e-12 < axis.norm

/-- The seven numbers of a pose. -/
def Pose.numbers
    {K : Type}
    (pose : Pose K) : List K :=
  pose.position.toList ++
    [pose.rotation.x, pose.rotation.y, pose.rotation.z, pose.rotation.w]

/-- A pose of doubles is finite if its numbers are. -/
theorem Pose.allFinite_iff
    {pose : Pose Float} :
    pose.allFinite = true ↔
      ∀ number ∈ pose.numbers, number.isFinite = true := by
  simp [allFinite, numbers, Vec3.allFinite, Vec3.toList,
    Quaternion.allFinite, Binary64.isFinite_eq]
  tauto

/-- An axis of doubles is scaled exactly when it has a direction. -/
theorem Joint.unitAxis?_isSome_iff
    {axis : Vec3 Float} :
    (unitAxis? axis).isSome = true ↔
      axis.norm.isFinite = true ∧ 1e-12 < axis.norm := by
  change
    (unitAxis? axis).isSome = true ↔
      axis.norm.isFinite = true ∧ axisThreshold < axis.norm
  simp [unitAxis?, Binary64.isFinite_eq]

/-- A joint of doubles is normalized exactly when it has a direction. -/
theorem Joint.normalize?_isSome_iff
    {joint : Joint Float} :
    joint.normalize?.isSome = true ↔ joint.HasDirection := by
  cases joint with
  | fixed =>
      simp [normalize?, HasDirection, axis?]
  | revolute axis =>
      rw [normalize?, Option.isSome_map, unitAxis?_isSome_iff]
      simp [HasDirection, axis?]
  | prismatic axis =>
      rw [normalize?, Option.isSome_map, unitAxis?_isSome_iff]
      simp [HasDirection, axis?]

section Order

variable {ε α : Type}

/--
How an attachment ends that looks at the parent, at the name, at the axis and at
the offset, in this order.  It names the first of them that is wrong, and
accepts if none is.  It ends in no other way.
-/
structure AttachesInOrder
    (wrap : Refusal Float → ε)
    (outcome : Except ε α)
    (mechanism : Mechanism Float)
    (name : String)
    (parent : FrameId)
    (joint : Joint Float)
    (offset : Pose Float) : Prop where
  parent_iff :
    outcome = .error (wrap (.frameNotFound parent)) ↔
      ¬ parent.index < mechanism.frameCount
  name_iff :
    outcome = .error (wrap (.duplicateFrameName name)) ↔
      parent.index < mechanism.frameCount ∧
        name ∈ mechanism.frameNames
  axis_iff :
    outcome = .error (wrap (.invalidAxis name)) ↔
      parent.index < mechanism.frameCount ∧
        name ∉ mechanism.frameNames ∧ ¬ joint.HasDirection
  offset_iff :
    outcome =
        .error (wrap (.invalidConfiguration (.offset name))) ↔
      parent.index < mechanism.frameCount ∧
        name ∉ mechanism.frameNames ∧ joint.HasDirection ∧
        ∃ number ∈ offset.numbers, number.isFinite = false
  accepted_iff :
    (∃ result, outcome = .ok result) ↔
      parent.index < mechanism.frameCount ∧
        name ∉ mechanism.frameNames ∧ joint.HasDirection ∧
        ∀ number ∈ offset.numbers, number.isFinite = true

/-- One look after the other decides how an attachment ends. -/
theorem AttachesInOrder.of_looks
    {wrap : Refusal Float → ε}
    (wraps : Function.Injective wrap)
    {outcome : Except ε α}
    {mechanism : Mechanism Float}
    {name : String}
    {parent : FrameId}
    {joint : Joint Float}
    {offset : Pose Float}
    (parentLook :
      ¬ parent.index < mechanism.frameCount →
      outcome = .error (wrap (.frameNotFound parent)))
    (nameLook :
      parent.index < mechanism.frameCount →
      name ∈ mechanism.frameNames →
      outcome = .error (wrap (.duplicateFrameName name)))
    (axisLook :
      parent.index < mechanism.frameCount →
      name ∉ mechanism.frameNames →
      ¬ joint.HasDirection →
      outcome = .error (wrap (.invalidAxis name)))
    (offsetLook :
      parent.index < mechanism.frameCount →
      name ∉ mechanism.frameNames →
      joint.HasDirection →
      (∃ number ∈ offset.numbers, number.isFinite = false) →
      outcome =
        .error (wrap (.invalidConfiguration (.offset name))))
    (accepted :
      parent.index < mechanism.frameCount →
      name ∉ mechanism.frameNames →
      joint.HasDirection →
      (∀ number ∈ offset.numbers, number.isFinite = true) →
      ∃ result, outcome = .ok result) :
    AttachesInOrder wrap outcome mechanism name parent joint offset := by
  -- In each of the five cases the outcome is known, which decides all lines.
  by_cases inside : parent.index < mechanism.frameCount
  · by_cases taken : name ∈ mechanism.frameNames
    · obtain rfl := nameLook inside taken
      constructor <;> simp [wraps.eq_iff, inside, taken]
    · by_cases direction : joint.HasDirection
      · by_cases finite :
            ∀ number ∈ offset.numbers, number.isFinite = true
        · obtain ⟨result, rfl⟩ := accepted inside taken direction finite
          constructor <;> simp [inside, taken, direction] <;>
            simpa using finite
        · have infinite :
              ∃ number ∈ offset.numbers, number.isFinite = false := by
            simpa using finite
          obtain rfl := offsetLook inside taken direction infinite
          constructor <;>
            simp [wraps.eq_iff, inside, taken, direction] <;>
            simpa using infinite
      · obtain rfl := axisLook inside taken direction
        constructor <;> simp [wraps.eq_iff, inside, taken, direction]
  · obtain rfl := parentLook inside
    constructor <;> simp [wraps.eq_iff, inside]

end Order

namespace Mechanism

/-- What a mechanism becomes when a body is attached to it. -/
structure EnlargedBy
    (mechanism larger : Mechanism Float)
    (name : String)
    (parent : FrameId)
    (joint : Joint Float)
    (offset : Pose Float) : Prop where
  bodies :
    ∃ unitJoint,
      joint.normalize? = some unitJoint ∧
        larger.bodies =
          mechanism.bodies ++
            [{ name, parent, offset
               joint := unitJoint
               dof :=
                 if 0 < joint.freedom then
                   some mechanism.dofCount
                 else
                   none }]
  dofCount : larger.dofCount = mechanism.dofCount + joint.freedom

/-- An attachment adds the body, and its coordinate if it has one. -/
theorem enlargedBy_of_attach
    {mechanism larger : Mechanism Float}
    {freshRevision : Nat}
    {name : String}
    {parent frame : FrameId}
    {joint : Joint Float}
    {offset : Pose Float}
    (accepted :
      mechanism.attach freshRevision name parent joint offset =
        .ok (larger, frame)) :
    mechanism.EnlargedBy larger name parent joint offset ∧
      frame.index = mechanism.frameCount := by
  obtain ⟨_, _, _, unitJoint, normalized, rfl, rfl⟩ :=
    attach_eq_ok_iff.mp accepted
  have sameFreedom := Joint.freedom_of_normalize? normalized
  refine ⟨⟨⟨unitJoint, normalized, ?_⟩, ?_⟩, rfl⟩
  · simp only [newBody, sameFreedom]
  · simp only [sameFreedom]

/-- A mechanism looks at a body in order. -/
theorem attach_inOrder
    (mechanism : Mechanism Float)
    (freshRevision : Nat)
    (name : String)
    (parent : FrameId)
    (joint : Joint Float)
    (offset : Pose Float) :
    AttachesInOrder id
      (mechanism.attach freshRevision name parent joint offset)
      mechanism name parent joint offset := by
  have parentShape :
      parent.index < mechanism.frameCount ↔
        mechanism.contains parent = true := by
    simp [contains]
  have nameShape :
      name ∉ mechanism.frameNames ↔ mechanism.nameTaken name = false :=
    nameTaken_eq_false_iff.symm
  have offsetShape :
      (∃ number ∈ offset.numbers, number.isFinite = false) ↔
        offset.allFinite = false := by
    rw [← Bool.not_eq_true, Pose.allFinite_iff]
    simp
  refine .of_looks Function.injective_id ?_ ?_ ?_ ?_ ?_ <;>
    rw [parentShape]
  · intro outside
    simp [attach, outside]
  · intro inside taken
    rw [← not_not (a := name ∈ _), nameShape] at taken
    simp [attach, inside, taken]
  · intro inside free noDirection
    rw [nameShape] at free
    rw [← Joint.normalize?_isSome_iff, Option.not_isSome_iff_eq_none]
      at noDirection
    simp [attach, inside, free, noDirection]
  · intro inside free direction infinite
    rw [nameShape] at free
    rw [← Joint.normalize?_isSome_iff] at direction
    rw [offsetShape] at infinite
    obtain ⟨unitJoint, normalized⟩ := Option.isSome_iff_exists.mp direction
    simp [attach, inside, free, normalized, infinite]
  · intro inside free direction finite
    rw [nameShape] at free
    rw [← Joint.normalize?_isSome_iff] at direction
    rw [← Pose.allFinite_iff] at finite
    obtain ⟨unitJoint, normalized⟩ := Option.isSome_iff_exists.mp direction
    exact
      ⟨_, attach_eq_ok_iff.mpr
        ⟨inside, free, finite, unitJoint, normalized, rfl, rfl⟩⟩

end Mechanism

end Linkage
