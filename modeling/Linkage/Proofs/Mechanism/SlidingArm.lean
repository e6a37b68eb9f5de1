import Mathlib.Tactic.NormNum
import Linkage.Proofs.Mechanism.Rigidity
import Linkage.Proofs.Mechanism.Structure
import Linkage.Proofs.Number.LawfulScalar

namespace Linkage

/-!
# Building over the real numbers

Over the real numbers nothing but the shape of a mechanism can be refused:
every number is finite, and an axis of unit length is kept as it is.  A
mechanism that turns and slides is built that way, and one that also holds
something rigidly, to exhibit what is stated about all mechanisms.
-/

/-- Every real number is finite. -/
@[simp] theorem isFinite_real (value : ℝ) : isFinite value = true := by
  simp [isFinite]

/-- A joint of unit axis is kept as it is. -/
theorem Joint.normalize?_of_unit
    {joint : Joint ℝ}
    (unit : joint.HasUnitAxis) :
    joint.normalize? = some joint := by
  have kept :
      ∀ {axis : Vec3 ℝ},
        axis.normSquared = 1 → Joint.unitAxis? axis = some axis := by
    intro axis unit
    have length : axis.norm = 1 := by
      rw [Vec3.norm, unit]
      exact Real.sqrt_one
    have whole : axis.divide 1 = axis := by
      ext <;> simp [Vec3.divide]
    have long : Joint.axisThreshold < (1 : ℝ) := by
      norm_num [Joint.axisThreshold]
    simp [Joint.unitAxis?, length, long, whole]
  cases joint with
  | fixed =>
      rfl
  | revolute axis =>
      rw [Joint.normalize?, kept (unit rfl)]
      rfl
  | prismatic axis =>
      rw [Joint.normalize?, kept (unit rfl)]
      rfl

/-- A slide straight up has a unit axis. -/
theorem Joint.hasUnitAxis_upward :
    (prismatic (⟨0, 0, 1⟩ : Vec3 ℝ)).HasUnitAxis := by
  rintro axis found
  cases found
  simp [Vec3.normSquared, Vec3.dot]

namespace Mechanism

/-- A body with a new name and a joint of unit axis can be attached. -/
theorem Built.grow
    {mechanism : Mechanism ℝ}
    (built : mechanism.Built)
    (freshRevision : Nat)
    (name : String)
    (parent : FrameId)
    {joint : Joint ℝ}
    (unit : joint.HasUnitAxis)
    (offset : Pose ℝ)
    (inside : mechanism.contains parent = true)
    (fresh : mechanism.nameTaken name = false) :
    Built
      { bodies :=
          mechanism.bodies ++
            [mechanism.newBody name parent joint offset]
        dofCount := mechanism.dofCount + joint.freedom
        revision := freshRevision } := by
  have finite : offset.allFinite = true := by
    simp [Pose.allFinite, Vec3.allFinite, Quaternion.allFinite]
  exact
    .attach built
      (attach_eq_ok_iff.mpr
        ⟨inside, fresh, finite, joint, Joint.normalize?_of_unit unit,
          rfl, rfl⟩)

/-- An arm that turns about the vertical and carries a slider. -/
noncomputable def slidingArm : Mechanism ℝ where
  bodies :=
    [{ name := "arm"
       parent := .world
       joint := .revolute ⟨0, 0, 1⟩
       offset := ⟨⟨1, 0, 0⟩, .identity⟩
       dof := some 0 },
     { name := "slider"
       parent := ⟨1⟩
       joint := .prismatic ⟨1, 0, 0⟩
       offset := ⟨⟨0, 2, 0⟩, ⟨0, 1, 0, 0⟩⟩
       dof := some 1 }]
  dofCount := 2
  revision := 2

theorem slidingArm_normalized : slidingArm.Normalized := by
  intro body member
  simp only [slidingArm, List.mem_cons, List.not_mem_nil, or_false]
    at member
  rcases member with rfl | rfl
  · constructor
    · rintro axis found
      cases found
      simp [Vec3.normSquared, Vec3.dot]
    · simp [Quaternion.normSquared, Quaternion.identity]
  · constructor
    · rintro axis found
      cases found
      simp [Vec3.normSquared, Vec3.dot]
    · simp [Quaternion.normSquared]

theorem slidingArm_built : slidingArm.Built := by
  have unit := slidingArm_normalized
  have arm :=
    (Built.empty 0).grow 1 "arm" .world
      (unit _ (.head _)).axis_unit ⟨⟨1, 0, 0⟩, .identity⟩ rfl rfl
  exact
    arm.grow 2 "slider" ⟨1⟩
      (unit _ (.tail _ (.head _))).axis_unit
      ⟨⟨0, 2, 0⟩, ⟨0, 1, 0, 0⟩⟩ rfl rfl

/-- The sliding arm with a hook that is attached rigidly to its slider. -/
noncomputable def hookedArm : Mechanism ℝ where
  bodies :=
    slidingArm.bodies ++
      [slidingArm.newBody "hook" ⟨2⟩ .fixed ⟨⟨0, 0, 1⟩, .identity⟩]
  dofCount := slidingArm.dofCount + Joint.freedom (.fixed : Joint ℝ)
  revision := 3

theorem hookedArm_built : hookedArm.Built :=
  slidingArm_built.grow 3 "hook" ⟨2⟩
    (by rintro axis ⟨⟩) ⟨⟨0, 0, 1⟩, .identity⟩ rfl rfl

theorem hookedArm_normalized : hookedArm.Normalized := by
  intro body member
  rcases List.mem_append.mp member with earlier | last
  · exact slidingArm_normalized body earlier
  · cases List.mem_singleton.mp last
    constructor
    · rintro axis ⟨⟩
    · simp [newBody, Quaternion.normSquared, Quaternion.identity]

end Mechanism

end Linkage
