import Linkage.Proofs.Constraint.Stacking
import Linkage.Proofs.Mechanism.ScalarMap

namespace Linkage

/-!
# Changing the scalars of constraints

What a constraint computes from a snapshot it computes in the same way from the
mapped snapshot, if the map keeps the operations that are used.  An anchor uses
no more than the readings of its point do.  A distance is a root, and its
derivatives divide by it.  A set only puts the rows of its members in place, so
it passes on whatever its members pass on.
-/

variable {K S T : Type} {α β : Type}

/-- Outputs with every number replaced by its image. -/
def Outputs.map
    (f : S → T)
    (outputs : Outputs S) : Outputs T where
  residual := List.map f <$> outputs.residual
  jacobian := List.map (List.map f) <$> outputs.jacobian
  bias := List.map f <$> outputs.bias

/-- Rows are selected by their place, whatever they contain. -/
theorem RowMask.trySelect_map
    (mask : RowMask)
    (change : α → β)
    (rows : List α) :
    mask.trySelect (rows.map change) =
      List.map change <$> mask.trySelect rows := by
  unfold RowMask.trySelect
  rw [List.length_map]
  split
  · refine congrArg Except.ok ?_
    unfold RowMask.select
    split
    · rfl
    · simp [List.map_filterMap]
  · rfl

namespace Constraint

/--
The image of a constraint: it announces the same rows, and computes from a
mapped snapshot what the constraint computes, mapped.
-/
structure MapsTo
    (f : S → T)
    (constraint : Constraint K S)
    (image : Constraint K T) : Prop where
  rows_eq : image.rows = constraint.rows
  outputs_eq :
    ∀ snapshot : Snapshot S,
      image.outputs (snapshot.map f) =
        (constraint.outputs snapshot).map f

variable {f : S → T}
variable {constraint : Constraint K S}
variable {image : Constraint K T}

/-- The rows that take part are mapped as well. -/
theorem MapsTo.activeOutputs_eq
    (mapsTo : constraint.MapsTo f image)
    (snapshot : Snapshot S) :
    image.activeOutputs (snapshot.map f) =
      (constraint.activeOutputs snapshot).map f := by
  obtain ⟨residual, jacobian, bias⟩ :=
    Outputs.mk.inj (mapsTo.outputs_eq snapshot)
  simp only [Constraint.activeOutputs, Constraint.activeResidual,
    Constraint.activeJacobian, Constraint.activeBias, Outputs.map, residual,
    jacobian, bias, mapsTo.rows_eq, bind_map_left, map_bind,
    RowMask.trySelect_map]
  rfl

end Constraint

section Kinds

variable [Zero S] [One S] [Add S] [Sub S] [Neg S] [Mul S] [Constant K S]
variable [Zero T] [One T] [Add T] [Sub T] [Neg T] [Mul T] [Constant K T]
variable (f : S → T) [PreservesArithmetic f] [PreservesConstants K f]

/-- An anchor uses nothing but sums and products. -/
theorem Anchor.mapsTo
    [One K] [Add K] [Sub K] [Mul K]
    (anchor : Anchor K) :
    anchor.toConstraint.MapsTo f anchor.toConstraint where
  rows_eq := rfl
  outputs_eq snapshot := by
    have point := Vec3.map_constant (S := S) (T := T) f anchor.point
    have target := Vec3.map_constant (S := S) (T := T) f anchor.target
    have view :
        (anchor.viewMatrix : Mat3 S).map f = anchor.viewMatrix :=
      Mat3.map_constant f _
    have residual :
        anchor.residual (snapshot.map f) =
          List.map f <$> anchor.residual snapshot := by
      rw [Anchor.residual, ← point, Mechanism.pointPosition_map,
        bind_map_left, Anchor.residual, map_bind]
      refine bind_congr fun position => congrArg Except.ok ?_
      rw [← target, ← view, ← Vec3.map_sub, ← Mat3.map_apply]
      rfl
    have jacobian :
        anchor.jacobian (snapshot.map f) =
          List.map (List.map f) <$> anchor.jacobian snapshot := by
      rw [Anchor.jacobian, ← point, Mechanism.pointJacobian_map,
        bind_map_left, Anchor.jacobian, map_bind]
      refine bind_congr fun columns => congrArg Except.ok ?_
      rw [Columns.map_toRows, Columns.map_rotate, view]
    have bias :
        anchor.bias (snapshot.map f) =
          List.map f <$> anchor.bias snapshot := by
      rw [Anchor.bias, ← point, Mechanism.pointBias_map, bind_map_left,
        Anchor.bias, map_bind]
      refine bind_congr fun acceleration => congrArg Except.ok ?_
      rw [← view, ← Mat3.map_apply]
      rfl
    simp only [Constraint.outputs, Anchor.toConstraint, Outputs.map,
      residual, jacobian, bias]

variable [Div S] [Elementary S] [Div T] [Elementary T]
variable [PreservesSqrt f] [PreservesDivision f]

/-- The bias of a distance is computed from mapped vectors as the mapped one. -/
theorem Distance.apply_biasOf
    (separation velocity acceleration : Vec3 S) :
    f (Distance.biasOf separation velocity acceleration) =
      Distance.biasOf (separation.map f) (velocity.map f)
        (acceleration.map f) := by
  simp only [Distance.biasOf, Vec3.normSquared, Vec3.apply_norm f,
    Vec3.apply_dot f, PreservesArithmetic.map_add (f := f),
    PreservesArithmetic.map_sub (f := f),
    PreservesArithmetic.map_mul (f := f),
    PreservesDivision.map_div (f := f)]

/-- A distance also takes a root and divides by it. -/
theorem Distance.mapsTo
    (distance : Distance K) :
    distance.toConstraint.MapsTo f distance.toConstraint where
  rows_eq := rfl
  outputs_eq snapshot := by
    have pointA := Vec3.map_constant (S := S) (T := T) f distance.pointA
    have pointB := Vec3.map_constant (S := S) (T := T) f distance.pointB
    have separation :
        distance.separation (snapshot.map f) =
          Vec3.map f <$> distance.separation snapshot := by
      rw [Distance.separation, ← pointA, Mechanism.pointPosition_map,
        bind_map_left, Distance.separation, map_bind]
      refine bind_congr fun position => congrArg Except.ok ?_
      rw [← pointB, ← Vec3.map_sub]
    have residual :
        distance.residual (snapshot.map f) =
          List.map f <$> distance.residual snapshot := by
      rw [Distance.residual, separation, bind_map_left, Distance.residual,
        map_bind]
      refine bind_congr fun separation => congrArg Except.ok ?_
      rw [List.map_singleton, PreservesArithmetic.map_sub (f := f),
        Vec3.apply_norm f, PreservesConstants.map_constant (f := f)]
    have jacobian :
        distance.jacobian (snapshot.map f) =
          List.map (List.map f) <$> distance.jacobian snapshot := by
      rw [Distance.jacobian, separation, bind_map_left, Distance.jacobian,
        map_bind]
      refine bind_congr fun separation => ?_
      rw [← pointA, Mechanism.pointJacobian_map, bind_map_left, map_bind]
      refine bind_congr fun columns => congrArg Except.ok ?_
      rw [List.map_singleton, map_divideVector, Columns.map_project,
        Vec3.apply_norm f]
    have bias :
        distance.bias (snapshot.map f) =
          List.map f <$> distance.bias snapshot := by
      have velocities :
          (snapshot.map f).velocities = snapshot.velocities.map f := rfl
      simp only [Distance.bias, ← pointA, ← pointB,
        Mechanism.pointPosition_map, Mechanism.pointJacobian_map,
        Mechanism.pointBias_map, velocities, ← Columns.map_subtract,
        Columns.timesVector_map, bind_map_left, map_bind, ← Vec3.map_sub,
        ← Distance.apply_biasOf f]
      rfl
    simp only [Constraint.outputs, Distance.toConstraint, Outputs.map,
      residual, jacobian, bias]

end Kinds

namespace ConstraintSet

/-- A member and its image, which are both enabled or both disabled. -/
structure MemberMapsTo
    (f : S → T)
    (member : Member K S)
    (image : Member K T) : Prop where
  enabled_eq : image.enabled = member.enabled
  constraint : member.constraint.MapsTo f image.constraint

/-- The image of a set has the images of its members. -/
structure MapsTo
    (f : S → T)
    (set : ConstraintSet K S)
    (image : ConstraintSet K T) : Prop where
  model_eq : image.model = set.model
  members : List.Forall₂ (MemberMapsTo f) set.members image.members

section Stack

variable {rows : Constraint K S → Except Misuse (List α)}
variable {changed : Constraint K T → Except Misuse (List β)}

theorem writeRows_map
    (change : α → β)
    (table : List α)
    (row : Nat)
    (block : List α) :
    writeRows (table.map change) row (block.map change) =
      List.map change <$> writeRows table row block := by
  simp only [writeRows, List.length_map]
  split
  · refine congrArg Except.ok ?_
    simp
  · rfl

/-- Rows that are changed one by one are stacked as the changed table. -/
theorem stackFrom_map
    (change : α → β)
    {constraints : List (Constraint K S)}
    {images : List (Constraint K T)}
    (same :
      List.Forall₂ (fun constraint image =>
          changed image = List.map change <$> rows constraint)
        constraints images)
    (row : Nat)
    (table : List (Option α)) :
    stackFrom changed row (table.map (Option.map change)) images =
      List.map (Option.map change) <$>
        stackFrom rows row table constraints := by
  induction same generalizing row table with
  | nil =>
      rfl
  | cons first _ inductionHypothesis =>
      rw [stackFrom, stackFrom, first, bind_map_left, map_bind]
      refine bind_congr fun block => ?_
      have block_map :
          (block.map change).map some =
            (block.map some).map (Option.map change) := by
        simp
      rw [block_map, writeRows_map, bind_map_left, map_bind,
        List.length_map]
      exact bind_congr fun written => inductionHypothesis _ written

/-- The stack of changed rows is the changed stack. -/
theorem stack_map
    (change : α → β)
    {set : ConstraintSet K S}
    {image : ConstraintSet K T}
    (same :
      List.Forall₂ (fun constraint image =>
          changed image = List.map change <$> rows constraint)
        (enabledConstraints set.members)
        (enabledConstraints image.members))
    (count : Nat) :
    image.stack count changed =
      List.map (Option.map change) <$> set.stack count rows := by
  have stacked :=
    stackFrom_map change same 0 (List.replicate count none)
  rwa [List.map_replicate] at stacked

/-- What was never written is filled in after the change as before. -/
theorem map_getD_map
    (change : α → β)
    {blank : α}
    {changedBlank : β}
    (same : change blank = changedBlank)
    (table : List (Option α)) :
    (table.map (Option.map change)).map (·.getD changedBlank) =
      (table.map (·.getD blank)).map change := by
  rw [List.map_map, List.map_map]
  refine List.map_congr_left fun written _ => ?_
  cases written with
  | none => exact same.symm
  | some _ => rfl

end Stack

variable {f : S → T}

/-- The enabled members of a set and of its image correspond in order. -/
theorem enabledConstraints_mapsTo
    {members : List (Member K S)}
    {images : List (Member K T)}
    (mapsTo : List.Forall₂ (MemberMapsTo f) members images) :
    List.Forall₂ (Constraint.MapsTo f) (enabledConstraints members)
      (enabledConstraints images) := by
  induction mapsTo with
  | nil =>
      exact .nil
  | @cons member image _ _ first _ inductionHypothesis =>
      have sameFlag := first.enabled_eq
      cases enabled : member.enabled with
      | true =>
          rw [enabledConstraints_cons enabled,
            enabledConstraints_cons (sameFlag.trans enabled)]
          exact .cons first.constraint inductionHypothesis
      | false =>
          rw [enabled] at sameFlag
          simpa [enabledConstraints, enabled, sameFlag] using
            inductionHypothesis

/-- As many rows are counted in the image of a set. -/
theorem rowTotal_mapsTo
    {count : Constraint K S → Nat}
    {imageCount : Constraint K T → Nat}
    (same :
      ∀ {constraint : Constraint K S} {image : Constraint K T},
        constraint.MapsTo f image → imageCount image = count constraint)
    {members : List (Member K S)}
    {images : List (Member K T)}
    (mapsTo : List.Forall₂ (MemberMapsTo f) members images) :
    rowTotal imageCount images = rowTotal count members := by
  induction mapsTo with
  | nil =>
      rfl
  | cons first _ inductionHypothesis =>
      rw [rowTotal_cons, rowTotal_cons, first.enabled_eq,
        same first.constraint, inductionHypothesis]

theorem checkWidth_map
    (f : S → T)
    (width : Nat)
    (rows : List (List S)) :
    checkWidth width (rows.map (List.map f)) =
      List.map (List.map f) <$> checkWidth width rows := by
  simp only [checkWidth, List.all_map, Function.comp_def,
    List.length_map]
  split <;> rfl

variable [Zero S] [Zero T]
variable {set : ConstraintSet K S}
variable {image : ConstraintSet K T}

/-- Stacked values are mapped if zero stays zero. -/
theorem stackValues_map
    (zero : f 0 = 0)
    {values : Constraint K S → Except Misuse (List S)}
    {imageValues : Constraint K T → Except Misuse (List T)}
    (same :
      List.Forall₂ (fun constraint image =>
          imageValues image = List.map f <$> values constraint)
        (enabledConstraints set.members)
        (enabledConstraints image.members))
    (count : Nat) :
    image.stackValues count imageValues =
      List.map f <$> set.stackValues count values := by
  rw [stackValues, stack_map f same, stackValues, Functor.map_map,
    Functor.map_map]
  exact
    congrArg (· <$> set.stack _ _) (funext fun table =>
      map_getD_map f zero table)

/-- Stacked rows are mapped as well, and so is the reason to refuse them. -/
theorem stackTable_map
    (zero : f 0 = 0)
    (sameModel : image.model = set.model)
    {rows : Constraint K S → Except Misuse (List (List S))}
    {imageRows : Constraint K T → Except Misuse (List (List T))}
    (same :
      List.Forall₂ (fun constraint image =>
          imageRows image = List.map (List.map f) <$> rows constraint)
        (enabledConstraints set.members)
        (enabledConstraints image.members))
    (count : Nat) :
    image.stackTable count imageRows =
      List.map (List.map f) <$> set.stackTable count rows := by
  have checked (width : Nat) :
      List.Forall₂ (fun constraint image =>
          (imageRows image >>= checkWidth width) =
            List.map (List.map f) <$>
              (rows constraint >>= checkWidth width))
        (enabledConstraints set.members)
        (enabledConstraints image.members) :=
    same.imp fun constraint image found => by
      simp only [found, bind_map_left, map_bind, checkWidth_map]
  rw [stackTable, sameModel, stack_map (List.map f) (checked _),
    stackTable]
  cases set.stack count fun constraint =>
      rows constraint >>= checkWidth set.model.mechanism.dofCount with
  | error misuse =>
      rfl
  | ok table =>
      have blank :
          (List.replicate set.model.mechanism.dofCount (0 : S)).map f =
            List.replicate set.model.mechanism.dofCount 0 := by
        rw [List.map_replicate, zero]
      exact congrArg Except.ok (map_getD_map (List.map f) blank table)

/-- Outputs that correspond member by member are stacked to mapped outputs. -/
theorem stacked_map
    (zero : f 0 = 0)
    (sameModel : image.model = set.model)
    {own : Constraint K S → Outputs S}
    {imageOwn : Constraint K T → Outputs T}
    (same :
      List.Forall₂ (fun constraint image =>
          imageOwn image = (own constraint).map f)
        (enabledConstraints set.members)
        (enabledConstraints image.members))
    {count imageCount : Nat}
    (sameCount : imageCount = count) :
    ({ residual := image.stackValues imageCount (imageOwn · |>.residual)
       jacobian := image.stackTable imageCount (imageOwn · |>.jacobian)
       bias := image.stackValues imageCount (imageOwn · |>.bias) } :
        Outputs T) =
      Outputs.map f
        { residual := set.stackValues count (own · |>.residual)
          jacobian := set.stackTable count (own · |>.jacobian)
          bias := set.stackValues count (own · |>.bias) } := by
  subst sameCount
  have residual :=
    stackValues_map zero
      (same.imp fun _ _ found => congrArg Outputs.residual found)
      imageCount
  have jacobian :=
    stackTable_map zero sameModel
      (same.imp fun _ _ found => congrArg Outputs.jacobian found)
      imageCount
  have bias :=
    stackValues_map zero
      (same.imp fun _ _ found => congrArg Outputs.bias found)
      imageCount
  rw [residual, jacobian, bias]
  rfl

/-- What a set stacks is stacked by its image, mapped. -/
theorem MapsTo.outputs_eq
    (zero : f 0 = 0)
    (mapsTo : set.MapsTo f image)
    (snapshot : Snapshot S) :
    image.outputs (snapshot.map f) = (set.outputs snapshot).map f := by
  have same :
      List.Forall₂ (fun constraint image =>
          image.outputs (snapshot.map f) =
            (constraint.outputs snapshot).map f)
        (enabledConstraints set.members)
        (enabledConstraints image.members) :=
    (enabledConstraints_mapsTo mapsTo.members).imp fun _ _ same =>
      same.outputs_eq snapshot
  have sameCount : image.fullCount = set.fullCount :=
    rowTotal_mapsTo (fun same => congrArg RowMask.length same.rows_eq)
      mapsTo.members
  exact stacked_map zero mapsTo.model_eq same sameCount

/-- The same of the rows that take part. -/
theorem MapsTo.activeOutputs_eq
    (zero : f 0 = 0)
    (mapsTo : set.MapsTo f image)
    (snapshot : Snapshot S) :
    image.activeOutputs (snapshot.map f) =
      (set.activeOutputs snapshot).map f := by
  have same :
      List.Forall₂ (fun constraint image =>
          image.activeOutputs (snapshot.map f) =
            (constraint.activeOutputs snapshot).map f)
        (enabledConstraints set.members)
        (enabledConstraints image.members) :=
    (enabledConstraints_mapsTo mapsTo.members).imp fun _ _ same =>
      same.activeOutputs_eq snapshot
  have sameCount : image.activeCount = set.activeCount :=
    rowTotal_mapsTo (fun same => congrArg RowMask.count same.rows_eq)
      mapsTo.members
  exact stacked_map zero mapsTo.model_eq same sameCount

end ConstraintSet

end Linkage
