import Linkage.Proofs.Constraint.AnchorDerivative

namespace Linkage

/-!
# The view of an anchor

The view says along which axes the rows of an anchor are taken.  Another view
turns all rows alike, so it is a change of basis: the length of the residual
stays the distance of the point from its target, and so do the products that a
solver of least squares forms of the Jacobian, the residual and the bias.
-/

namespace Columns

variable {T : Type} [CommRing T]

/-- The transposed matrix times a vector: its product with each column. -/
def transposeTimes
    (columns : Columns T)
    (v : Vec3 T) : List T :=
  columns.map (·.dot v)

/-- The transposed matrix times the matrix, column by column. -/
def gram
    (columns : Columns T) : List (List T) :=
  columns.map columns.transposeTimes

variable {matrix : Mat3 T}

/-- Turning a matrix and a vector does not change what they give. -/
theorem transposeTimes_rotate
    (rotation : matrix.IsRotation)
    (columns : Columns T)
    (v : Vec3 T) :
    (columns.rotate matrix).transposeTimes (matrix.apply v) =
      columns.transposeTimes v := by
  rw [transposeTimes, rotate, List.map_map]
  exact List.map_congr_left fun column _ => rotation.dot_apply column v

/-- Turning a matrix does not change the products of its columns. -/
theorem gram_rotate
    (rotation : matrix.IsRotation)
    (columns : Columns T) :
    (columns.rotate matrix).gram = columns.gram := by
  rw [gram, gram]
  conv_lhs => arg 2; rw [rotate]
  rw [List.map_map]
  exact
    List.map_congr_left fun column _ =>
      transposeTimes_rotate rotation columns column

end Columns

/-- Listed, the components of a vector have the length of the vector. -/
theorem vectorNorm_toList
    {T : Type} [CommRing T] [Elementary T]
    (v : Vec3 T) :
    vectorNorm v.toList = v.norm := by
  have squares : vectorNormSquared v.toList = v.normSquared := by
    rw [vectorNormSquared, sumInLanes]
    simp [laneCount, Vec3.toList, Vec3.normSquared, Vec3.dot]
  rw [vectorNorm, squares, Vec3.norm]

section Turn

variable {K T : Type}
variable [CommRing K] [CommRing T] [Constant K T]

/-- The matrix that turns rows along one view into rows along another. -/
def Quaternion.turnInto
    (first second : Quaternion K) : Mat3 T :=
  (second.toMatrix.transpose.times first.toMatrix).map Constant.constant

variable [PreservesArithmetic (Constant.constant : K → T)]
variable {first second : Quaternion K}

/-- Views of unit length are turned into each other by a rotation. -/
theorem Quaternion.isRotation_turnInto
    (firstUnit : first.normSquared = 1)
    (secondUnit : second.normSquared = 1) :
    (first.turnInto second : Mat3 T).IsRotation :=
  ((isRotation_toMatrix secondUnit).transpose.times
    (isRotation_toMatrix firstUnit)).map Constant.constant

namespace Anchor

/-- Along a view of unit length, the rows are those of the world, turned. -/
theorem isRotation_viewMatrix
    {anchor : Anchor K}
    (unit : anchor.view.normSquared = 1) :
    (anchor.viewMatrix : Mat3 T).IsRotation :=
  (Quaternion.isRotation_toMatrix unit).transpose.map Constant.constant

/-- The turn leads from the matrix of one view to that of the other. -/
theorem turnInto_times_viewMatrix
    (anchor : Anchor K)
    (firstUnit : first.normSquared = 1) :
    (first.turnInto second : Mat3 T).times
        (anchor.withView first).viewMatrix =
      (anchor.withView second).viewMatrix := by
  have back :=
    (Quaternion.isRotation_toMatrix firstUnit).times_transpose_self
  rw [Quaternion.turnInto, viewMatrix, viewMatrix, ← Mat3.map_times,
    Mat3.times_assoc]
  exact
    congrArg (Mat3.map Constant.constant)
      ((congrArg _ back).trans (Mat3.times_identity _))

end Anchor

end Turn

namespace Anchor

section Views

variable {K T : Type}
variable [CommRing K] [CommRing T] [Elementary T] [Constant K T]
variable {anchor : Anchor K}
variable {positions velocities : List T}
variable {snapshot : Snapshot T}

/--
At one state there are a place, a bias and a matrix in the world that give the
outputs along every view.
-/
theorem outputs_withView
    (wellFormed : anchor.model.mechanism.WellFormed)
    (taken :
      anchor.model.mechanism.Taken positions velocities snapshot)
    (inside : anchor.model.mechanism.contains anchor.frame = true) :
    ∃ (position acceleration : Vec3 T) (columns : Columns T),
      anchor.model.mechanism.pointPosition snapshot anchor.frame
          (anchor.point.map Constant.constant) .world = .ok position ∧
        columns.length = anchor.model.mechanism.dofCount ∧
        ∀ view : Quaternion K,
          (anchor.withView view).residual snapshot =
              .ok
                ((anchor.withView view).viewMatrix.apply
                  (position -
                    anchor.target.map Constant.constant)).toList ∧
            (anchor.withView view).jacobian snapshot =
              .ok
                (columns.rotate (anchor.withView view).viewMatrix).toRows ∧
            (anchor.withView view).bias snapshot =
              .ok
                ((anchor.withView view).viewMatrix.apply
                  acceleration).toList := by
  obtain ⟨motion, found⟩ := taken.motion_of_contains inside
  obtain ⟨columns, columnsFound, width, _⟩ :=
    Mechanism.pointJacobian_world_columns wellFormed taken inside
      (anchor.point.map Constant.constant)
  refine
    ⟨_, anchor.acceleration motion, columns,
      taken.pointPosition_world found _, width, fun view => ⟨?_, ?_, ?_⟩⟩
  · exact residual_eq taken found
  · unfold jacobian
    exact congrArg (· >>= _) columnsFound
  · exact bias_eq taken found

variable [PreservesArithmetic (Constant.constant : K → T)]

/-- Along any view of unit length the residual is as long as the way. -/
theorem vectorNorm_viewMatrix_apply
    (anchor : Anchor K)
    (unit : anchor.view.normSquared = 1)
    (way : Vec3 T) :
    vectorNorm (anchor.viewMatrix.apply way).toList = way.norm := by
  rw [vectorNorm_toList, (isRotation_viewMatrix unit).norm_apply]

end Views

variable {K T : Type}
variable [Field K] [LinearOrder K] [IsStrictOrderedRing K]
variable [Elementary K] [LawfulSqrt K] [LawfulRootOfZero K]

/-- Along any view of unit length the residual vanishes at the target only. -/
theorem vectorNorm_viewMatrix_apply_eq_zero_iff
    {anchor : Anchor K}
    (unit : anchor.view.normSquared = 1)
    {position : Vec3 K} :
    vectorNorm
          (anchor.viewMatrix.apply (position - anchor.target)).toList =
        0 ↔
      position = anchor.target := by
  rw [vectorNorm_viewMatrix_apply anchor unit, Vec3.norm_eq_zero_iff]
  constructor
  · exact Vec3.eq_of_sub_eq_zero
  · rintro rfl
    exact Vec3.sub_self _

variable [BEq K]
variable [CommRing T] [Elementary T] [Constant K T]
variable [PreservesArithmetic (Constant.constant : K → T)]

/--
Another view turns the residual, the columns of the Jacobian and the bias by
one rotation, so the length of the residual stays the distance of the point
from its target, and the products of a least squares problem stay as they are.
Where lengths are numbers, the residual has length zero at the target only.
-/
theorem view_changes_only_the_basis
    {anchor : Anchor K}
    (built : anchor.model.mechanism.Built)
    (inside : anchor.model.mechanism.contains anchor.frame = true)
    {first second : Quaternion K}
    (firstUnit : first.normSquared = 1)
    (secondUnit : second.normSquared = 1) :
    (∀ positions velocities : List T,
        positions.length = anchor.model.mechanism.dofCount →
        velocities.length = anchor.model.mechanism.dofCount →
        ∃ (snapshot : Snapshot T) (position residual bias : Vec3 T)
          (columns : Columns T),
          let turn : Mat3 T := first.turnInto second
          let target : Vec3 T := anchor.target.map Constant.constant
          anchor.model.mechanism.snapshot positions velocities =
              .ok snapshot ∧
            anchor.model.mechanism.pointPosition snapshot anchor.frame
              (anchor.point.map Constant.constant) .world =
                .ok position ∧
            (anchor.withView first).residual snapshot =
              .ok residual.toList ∧
            (anchor.withView second).residual snapshot =
              .ok (turn.apply residual).toList ∧
            (anchor.withView first).jacobian snapshot =
              .ok columns.toRows ∧
            (anchor.withView second).jacobian snapshot =
              .ok (columns.rotate turn).toRows ∧
            (anchor.withView first).bias snapshot = .ok bias.toList ∧
            (anchor.withView second).bias snapshot =
              .ok (turn.apply bias).toList ∧
            columns.length = anchor.model.mechanism.dofCount ∧
            vectorNorm residual.toList = (position - target).norm ∧
            vectorNorm (turn.apply residual).toList =
              (position - target).norm ∧
            (columns.rotate turn).gram = columns.gram ∧
            (columns.rotate turn).transposeTimes (turn.apply residual) =
              columns.transposeTimes residual ∧
            (columns.rotate turn).transposeTimes (turn.apply bias) =
              columns.transposeTimes bias) ∧
      ∀ positions velocities : List K,
        positions.length = anchor.model.mechanism.dofCount →
        velocities.length = anchor.model.mechanism.dofCount →
        ∃ (snapshot : Snapshot K) (position residual : Vec3 K),
          anchor.model.mechanism.snapshot positions velocities =
              .ok snapshot ∧
            anchor.model.mechanism.pointPosition snapshot anchor.frame
              anchor.point .world = .ok position ∧
            (anchor.withView first).residual snapshot =
              .ok residual.toList ∧
            (vectorNorm residual.toList = 0 ↔
              position = anchor.target) := by
  have wellFormed := built.wellFormed
  constructor
  · intro positions velocities positionCount velocityCount
    obtain ⟨snapshot, snapshotFound, taken⟩ :=
      wellFormed.snapshot_ok positionCount velocityCount
    obtain ⟨position, acceleration, world, placed, width, outputs⟩ :=
      outputs_withView wellFormed taken inside
    obtain ⟨residual, jacobian, bias⟩ := outputs first
    obtain ⟨turnedResidual, turnedJacobian, turnedBias⟩ := outputs second
    have rotation :=
      Quaternion.isRotation_turnInto (T := T) firstUnit secondUnit
    have turned :
        (first.turnInto second : Mat3 T).times
            (anchor.withView first).viewMatrix =
          (anchor.withView second).viewMatrix :=
      anchor.turnInto_times_viewMatrix firstUnit
    have long :=
      vectorNorm_viewMatrix_apply (anchor.withView first) firstUnit
        (position - anchor.target.map Constant.constant)
    rw [← turned, Mat3.times_apply] at turnedResidual turnedBias
    rw [← turned, ← Columns.rotate_rotate] at turnedJacobian
    refine
      ⟨snapshot, position, _, _, world.rotate _, snapshotFound, placed,
        residual, turnedResidual, jacobian, turnedJacobian, bias,
        turnedBias, (Columns.length_rotate _ _).trans width, long, ?_,
        Columns.gram_rotate rotation _,
        Columns.transposeTimes_rotate rotation _ _,
        Columns.transposeTimes_rotate rotation _ _⟩
    rw [vectorNorm_toList, rotation.norm_apply, ← vectorNorm_toList, long]
  · intro positions velocities positionCount velocityCount
    obtain ⟨snapshot, snapshotFound, taken⟩ :=
      wellFormed.snapshot_ok positionCount velocityCount
    obtain ⟨position, _, _, placed, _, outputs⟩ :=
      outputs_withView wellFormed taken inside
    obtain ⟨residual, _⟩ := outputs first
    rw [Vec3.constant_self] at placed
    rw [Vec3.constant_self] at residual
    exact
      ⟨snapshot, position, _, snapshotFound, placed, residual,
        vectorNorm_viewMatrix_apply_eq_zero_iff firstUnit⟩

/--
The pinned point of the slider, along axes turned about the diagonal and along
axes turned about another direction.
-/
theorem view_changes_only_the_basis_sliderPin :
    Mechanism.slidingArm.Built ∧
      Mechanism.slidingArm.contains sliderPin.frame = true ∧
      sliderPin.view.normSquared = 1 ∧
      (⟨0, 3 / 5, 4 / 5, 0⟩ : Quaternion ℝ).normSquared = 1 ∧
      (∃ (snapshot : Snapshot (Dual ℝ))
          (position residual bias : Vec3 (Dual ℝ))
          (columns : Columns (Dual ℝ)),
        let turn : Mat3 (Dual ℝ) :=
          sliderPin.view.turnInto ⟨0, 3 / 5, 4 / 5, 0⟩
        let second := sliderPin.withView ⟨0, 3 / 5, 4 / 5, 0⟩
        let target : Vec3 (Dual ℝ) :=
          sliderPin.target.map Constant.constant
        Mechanism.slidingArm.snapshot
              (Dual.seed [1, 2] [3, 4]) (Dual.seed [3, 4] [5, 6]) =
            .ok snapshot ∧
          Mechanism.slidingArm.pointPosition snapshot sliderPin.frame
            (sliderPin.point.map Constant.constant) .world =
              .ok position ∧
          sliderPin.residual snapshot = .ok residual.toList ∧
          second.residual snapshot = .ok (turn.apply residual).toList ∧
          sliderPin.jacobian snapshot = .ok columns.toRows ∧
          second.jacobian snapshot = .ok (columns.rotate turn).toRows ∧
          sliderPin.bias snapshot = .ok bias.toList ∧
          second.bias snapshot = .ok (turn.apply bias).toList ∧
          columns.length = 2 ∧
          vectorNorm residual.toList = (position - target).norm ∧
          vectorNorm (turn.apply residual).toList =
            (position - target).norm ∧
          (columns.rotate turn).gram = columns.gram ∧
          (columns.rotate turn).transposeTimes (turn.apply residual) =
            columns.transposeTimes residual ∧
          (columns.rotate turn).transposeTimes (turn.apply bias) =
            columns.transposeTimes bias) ∧
      ∃ (snapshot : Snapshot ℝ) (position residual : Vec3 ℝ),
        Mechanism.slidingArm.snapshot [1, 2] [3, 4] = .ok snapshot ∧
          Mechanism.slidingArm.pointPosition snapshot sliderPin.frame
            sliderPin.point .world = .ok position ∧
          sliderPin.residual snapshot = .ok residual.toList ∧
          (vectorNorm residual.toList = 0 ↔
            position = sliderPin.target) := by
  have built : sliderPin.model.mechanism.Built :=
    Mechanism.slidingArm_built
  have firstUnit : sliderPin.view.normSquared = 1 := by
    norm_num [sliderPin, Quaternion.normSquared]
  have secondUnit :
      (⟨0, 3 / 5, 4 / 5, 0⟩ : Quaternion ℝ).normSquared = 1 := by
    norm_num [Quaternion.normSquared]
  obtain ⟨turned, zero⟩ :=
    view_changes_only_the_basis (T := Dual ℝ) built rfl firstUnit
      secondUnit
  exact
    ⟨built, rfl, firstUnit, secondUnit, turned _ _ rfl rfl,
      zero _ _ rfl rfl⟩

end Anchor

end Linkage
