import Linkage.Proofs.Constraint.Stacking

namespace Linkage

/-!
# Constraints that were made on a model

A constructor checks the frames, and every mask is checked when it is set.  No
later change loses what was checked, so whatever was made on a model can be
evaluated at every snapshot of its mechanism, and so can any set of it,
whichever members are enabled.
-/

variable {K T : Type}

/-- A mask that was made for a given number of rows. -/
structure RowMask.Selects
    (mask : RowMask)
    (length : Nat) : Prop where
  length_eq : mask.length = length
  made : mask.Made

namespace RowMask

theorem Selects.fits
    {mask : RowMask}
    {length : Nat}
    (selects : mask.Selects length) :
    mask.Fits :=
  Or.inr selects.made.inRange

theorem selects_all (length : Nat) : (all length).Selects length :=
  ⟨rfl, .all length⟩

/-- An accepted mask is made for the rows it was accepted for. -/
theorem selects_of_ofIndices
    {length : Nat}
    {indices : List Nat}
    {mask : RowMask}
    (accepted :
      (ofIndices length indices : Except (Refusal K) RowMask) =
        .ok mask) :
    mask.Selects length := by
  obtain ⟨_, _, rfl⟩ := ofIndices_eq_ok_iff.mp accepted
  exact ⟨rfl, .ofIndices accepted⟩

/-- What is made of an accepted mask is made of one for its rows. -/
theorem selects_of_bind
    {α : Type}
    {length : Nat}
    {indices : List Nat}
    {use : RowMask → α}
    {result : α}
    (accepted :
      (ofIndices length indices : Except (Refusal K) RowMask) >>=
          (fun rows => pure (use rows)) =
        .ok result) :
    ∃ rows : RowMask, rows.Selects length ∧ result = use rows := by
  cases selected :
      (ofIndices length indices : Except (Refusal K) RowMask) with
  | error refusal =>
      rw [selected] at accepted
      cases accepted
  | ok rows =>
      rw [selected] at accepted
      cases accepted
      exact ⟨rows, selects_of_ofIndices selected, rfl⟩

end RowMask

namespace Distance

variable {model : Model K}
variable {distance : Distance K}

/-- Everything that the constructor has checked and made. -/
theorem create_eq_ok_iff
    [Zero K] [Sub K] [BEq K]
    {pointA pointB : Vec3 K}
    {frameA frameB : FrameId}
    {target : K} :
    create model pointA frameA pointB frameB target = .ok distance ↔
      model.mechanism.contains frameA = true ∧
        model.mechanism.contains frameB = true ∧
        isFinite target = true ∧
        (pointA.allFinite && pointB.allFinite) = true ∧
        distance =
          { name := "distance"
            model, pointA, frameA, pointB, frameB, target
            rows := .all 1 } := by
  unfold create
  cases model.mechanism.contains frameA <;>
    cases model.mechanism.contains frameB <;>
      cases isFinite target <;>
        cases (pointA.allFinite && pointB.allFinite) <;>
          simp [eq_comm]

/-- Distance constraints made on a model. -/
inductive Made
    [Zero K] [Sub K] [BEq K]
    (model : Model K) : Distance K → Prop where
  | create
      {pointA pointB : Vec3 K}
      {frameA frameB : FrameId}
      {target : K}
      {distance : Distance K} :
      create model pointA frameA pointB frameB target = .ok distance →
      Made model distance
  | withName
      {distance : Distance K}
      (name : String) :
      Made model distance →
      Made model (distance.withName name)
  | withActiveRows
      {distance masked : Distance K}
      {indices : List Nat} :
      Made model distance →
      distance.withActiveRows indices = .ok masked →
      Made model masked

/-- Both frames are those of the model, and the mask is one of one row. -/
structure Sound
    (model : Model K)
    (distance : Distance K) : Prop where
  model_eq : distance.model = model
  insideA : model.mechanism.contains distance.frameA = true
  insideB : model.mechanism.contains distance.frameB = true
  rows : distance.rows.Selects 1

/-- Whatever was made on a model is sound. -/
theorem Made.sound
    [Zero K] [Sub K] [BEq K]
    (made : distance.Made model) :
    distance.Sound model := by
  induction made with
  | create accepted =>
      obtain ⟨insideA, insideB, _, _, rfl⟩ :=
        create_eq_ok_iff.mp accepted
      exact ⟨rfl, insideA, insideB, RowMask.selects_all 1⟩
  | withName name _ sound =>
      exact ⟨sound.model_eq, sound.insideA, sound.insideB, sound.rows⟩
  | withActiveRows _ accepted sound =>
      obtain ⟨rows, selects, rfl⟩ := RowMask.selects_of_bind accepted
      exact ⟨sound.model_eq, sound.insideA, sound.insideB, selects⟩

end Distance

namespace Anchor

variable {model : Model K}
variable {anchor : Anchor K}

/-- Everything that the constructor has checked and made. -/
theorem create_eq_ok_iff
    [Zero K] [One K] [Sub K] [BEq K]
    {point : Vec3 K}
    {frame : FrameId} :
    create model point frame = .ok anchor ↔
      model.mechanism.contains frame = true ∧
        point.allFinite = true ∧
        anchor =
          { name := "world_point"
            model, point, frame
            target := 0
            view := .identity
            rows := .all 3 } := by
  unfold create
  cases model.mechanism.contains frame <;>
    cases point.allFinite <;>
      simp [eq_comm]

/-- Anchors made on a model. -/
inductive Made
    [Zero K] [One K] [Sub K] [BEq K]
    (model : Model K) : Anchor K → Prop where
  | create
      {point : Vec3 K}
      {frame : FrameId}
      {anchor : Anchor K} :
      create model point frame = .ok anchor →
      Made model anchor
  | withName
      {anchor : Anchor K}
      (name : String) :
      Made model anchor →
      Made model (anchor.withName name)
  | withTarget
      {anchor moved : Anchor K}
      {target : Vec3 K} :
      Made model anchor →
      anchor.withTarget target = .ok moved →
      Made model moved
  | withView
      {anchor : Anchor K}
      (view : Quaternion K) :
      Made model anchor →
      Made model (anchor.withView view)
  | withActiveRows
      {anchor masked : Anchor K}
      {indices : List Nat} :
      Made model anchor →
      anchor.withActiveRows indices = .ok masked →
      Made model masked

/-- The frame is one of the model, and the mask is one of three rows. -/
structure Sound
    (model : Model K)
    (anchor : Anchor K) : Prop where
  model_eq : anchor.model = model
  inside : model.mechanism.contains anchor.frame = true
  rows : anchor.rows.Selects 3

/-- Whatever was made on a model is sound. -/
theorem Made.sound
    [Zero K] [One K] [Sub K] [BEq K]
    (made : anchor.Made model) :
    anchor.Sound model := by
  induction made with
  | create accepted =>
      obtain ⟨inside, _, rfl⟩ := create_eq_ok_iff.mp accepted
      exact ⟨rfl, inside, RowMask.selects_all 3⟩
  | withName name _ sound =>
      exact ⟨sound.model_eq, sound.inside, sound.rows⟩
  | withTarget _ accepted sound =>
      unfold Anchor.withTarget at accepted
      split at accepted
      · cases accepted
        exact ⟨sound.model_eq, sound.inside, sound.rows⟩
      · cases accepted
  | withView view _ sound =>
      exact ⟨sound.model_eq, sound.inside, sound.rows⟩
  | withActiveRows _ accepted sound =>
      obtain ⟨rows, selects, rfl⟩ := RowMask.selects_of_bind accepted
      exact ⟨sound.model_eq, sound.inside, selects⟩

end Anchor

section Evaluation

variable [Zero K] [One K] [Add K] [Sub K] [Mul K] [BEq K]
variable [Zero T] [One T] [Add T] [Sub T] [Neg T] [Mul T] [Div T]
variable [Elementary T] [Constant K T]

/-- Constraints made on a model. -/
inductive Constraint.Made
    (model : Model K) : Constraint K T → Prop where
  | distance
      {distance : Distance K} :
      distance.Made model →
      Made model distance.toConstraint
  | anchor
      {anchor : Anchor K} :
      anchor.Made model →
      Made model anchor.toConstraint

/-- Sets of constraints made on a model; any of them may be enabled. -/
structure ConstraintSet.Made
    (model : Model K)
    (set : ConstraintSet K T) : Prop where
  model_eq : set.model = model
  members : ∀ member ∈ set.members, member.constraint.Made model

variable {model : Model K}
variable {positions velocities : List T}
variable {snapshot : Snapshot T}

/-- Whatever was made on a model answers as announced. -/
theorem Constraint.Made.answers
    {constraint : Constraint K T}
    (made : constraint.Made model)
    (wellFormed : model.mechanism.WellFormed)
    (taken : model.mechanism.Taken positions velocities snapshot)
    (velocityCount : velocities.length = model.mechanism.dofCount) :
    constraint.Answers snapshot model.mechanism.dofCount ∧
      constraint.rows.Fits := by
  cases made with
  | distance made =>
      obtain ⟨rfl, insideA, insideB, rows⟩ := made.sound
      exact
        ⟨Distance.answers wellFormed taken velocityCount insideA insideB
            rows.length_eq,
          rows.fits⟩
  | anchor made =>
      obtain ⟨rfl, inside, rows⟩ := made.sound
      exact
        ⟨Anchor.answers wellFormed taken inside rows.length_eq,
          rows.fits⟩

omit [Neg T] in
/-- The mask of a constraint was made by a constructor. -/
theorem Constraint.Made.rows_made
    {constraint : Constraint K T}
    (made : constraint.Made model) :
    constraint.rows.Made := by
  cases made with
  | distance made => exact made.sound.rows.made
  | anchor made => exact made.sound.rows.made

omit [Neg T] in
/-- A constraint keeps the model it was made on. -/
theorem Constraint.Made.model_eq
    {constraint : Constraint K T}
    (made : constraint.Made model) :
    constraint.model = model := by
  cases made with
  | distance made => exact made.sound.model_eq
  | anchor made => exact made.sound.model_eq

/-- All six outputs of a constraint are found, in the announced shapes. -/
theorem Constraint.Made.shaped
    {constraint : Constraint K T}
    (made : constraint.Made model)
    (wellFormed : model.mechanism.WellFormed)
    (taken : model.mechanism.Taken positions velocities snapshot)
    (velocityCount : velocities.length = model.mechanism.dofCount) :
    (constraint.outputs snapshot).Shaped constraint.length
        model.mechanism.dofCount ∧
      (constraint.activeOutputs snapshot).Shaped constraint.activeCount
        model.mechanism.dofCount := by
  obtain ⟨answers, fits⟩ := made.answers wellFormed taken velocityCount
  exact ⟨answers, answers.activeShaped fits⟩

/-- All six outputs of a set are found, in the shapes of its layouts. -/
theorem ConstraintSet.Made.shaped
    {set : ConstraintSet K T}
    (made : set.Made model)
    (wellFormed : model.mechanism.WellFormed)
    (taken : model.mechanism.Taken positions velocities snapshot)
    (velocityCount : velocities.length = model.mechanism.dofCount) :
    (set.outputs snapshot).Shaped set.fullCount
        model.mechanism.dofCount ∧
      (set.activeOutputs snapshot).Shaped set.activeCount
        model.mechanism.dofCount := by
  obtain ⟨rfl, members⟩ := made
  have shaped :
      ∀ constraint ∈ enabledConstraints set.members,
        (constraint.outputs snapshot).Shaped constraint.length
            set.model.mechanism.dofCount ∧
          (constraint.activeOutputs snapshot).Shaped
            constraint.activeCount set.model.mechanism.dofCount := by
    intro constraint inside
    obtain ⟨member, found, _, rfl⟩ := mem_enabledConstraints.mp inside
    exact
      (members member found).shaped wellFormed taken velocityCount
  exact
    ⟨(follows_rowsOf fun constraint inside =>
        (shaped constraint inside).1).shaped,
      (follows_rowsOf fun constraint inside =>
        (shaped constraint inside).2).shaped⟩

end Evaluation

theorem Distance.armSpan_made :
    Distance.armSpan.Made ⟨0, Mechanism.slidingArm⟩ := by
  have created :
      Distance.create ⟨0, Mechanism.slidingArm⟩ ⟨0, 0, 5⟩ ⟨2⟩ 0 ⟨1⟩ 1 =
        .ok { Distance.armSpan with name := "distance" } :=
    Distance.create_eq_ok_iff.mpr
      ⟨rfl, rfl, isFinite_real _, by simp [Vec3.allFinite], rfl⟩
  exact .withName "span" (.create created)

theorem Anchor.sliderPin_made :
    Anchor.sliderPin.Made ⟨0, Mechanism.slidingArm⟩ := by
  have created :
      Anchor.create ⟨0, Mechanism.slidingArm⟩ ⟨7, 6, 4⟩ ⟨2⟩ =
        .ok
          { Anchor.sliderPin with
            name := "world_point"
            target := 0
            view := .identity } :=
    Anchor.create_eq_ok_iff.mpr ⟨rfl, by simp [Vec3.allFinite], rfl⟩
  have placed :
      Anchor.withTarget
          { Anchor.sliderPin with
            name := "world_point"
            target := 0
            view := .identity } ⟨1, 3, 6⟩ =
        .ok
          { Anchor.sliderPin with
            name := "world_point"
            view := .identity } :=
    if_pos (by simp [Vec3.allFinite])
  exact
    .withName "pin"
      (.withView ⟨1 / 7, 4 / 7, 4 / 7, 4 / 7⟩
        (.withTarget (.create created) placed))

theorem ConstraintSet.armConstraints_made :
    ConstraintSet.armConstraints.Made ⟨0, Mechanism.slidingArm⟩ := by
  refine ⟨rfl, ?_⟩
  intro member inside
  rw [armConstraints, List.mem_cons, List.mem_cons, List.mem_singleton]
    at inside
  rcases inside with rfl | rfl | rfl
  · exact .distance Distance.armSpan_made
  · exact .anchor Anchor.sliderPin_made
  · have facing := Anchor.Made.withView .identity Anchor.sliderPin_made
    have masked :
        (Anchor.sliderPin.withView .identity).withActiveRows [2] =
          .ok
            { Anchor.sliderPin.withView .identity with
              rows := ⟨3, [2]⟩ } :=
      rfl
    exact .anchor (.withActiveRows facing masked)

end Linkage
