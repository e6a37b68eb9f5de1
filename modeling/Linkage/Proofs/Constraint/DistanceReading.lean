import Linkage.Constraint.Distance
import Linkage.Proofs.Mechanism.Reading
import Linkage.Proofs.Mechanism.Rigidity

namespace Linkage.Distance

/-!
# Distance constraints in world coordinates

Value and Jacobian of a distance constraint are computed in the second frame,
its bias in the world.  Turning both points into the world changes no length
and no projection, and the turning of the second frame moves a point across the
separation only.  So all three are determined by the gap between the points,
its rate and its bias in world coordinates.
-/

variable {K T : Type}

section Gap

variable [CommRing T] [Constant K T]

/-- The way from the second point to the first, in the world. -/
def gap
    (distance : Distance K)
    (motionA motionB : FrameMotion T) : Vec3 T :=
  motionA.pointPosition (distance.pointA.map Constant.constant) -
    motionB.pointPosition (distance.pointB.map Constant.constant)

/-- The velocity of the first point relative to the second, in the world. -/
def gapRate
    (distance : Distance K)
    (motionA motionB : FrameMotion T) : Vec3 T :=
  motionA.pointVelocity
      (motionA.pointPosition (distance.pointA.map Constant.constant)) -
    motionB.pointVelocity
      (motionB.pointPosition (distance.pointB.map Constant.constant))

/-- The bias acceleration of the first point relative to the second. -/
def gapBias
    (distance : Distance K)
    (motionA motionB : FrameMotion T) : Vec3 T :=
  motionA.pointBias
      (motionA.pointPosition (distance.pointA.map Constant.constant)) -
    motionB.pointBias
      (motionB.pointPosition (distance.pointB.map Constant.constant))

/-- The rate at which the gap grows longer. -/
def lengthRate
    [Div T] [Elementary T]
    (distance : Distance K)
    (motionA motionB : FrameMotion T) : T :=
  (distance.gap motionA motionB).dot
      (distance.gapRate motionA motionB) /
    (distance.gap motionA motionB).norm

/-- Between points at different places there is a gap. -/
theorem gap_ne_zero
    {distance : Distance K}
    {motionA motionB : FrameMotion T}
    (apart :
      motionA.pointPosition (distance.pointA.map Constant.constant) ≠
        motionB.pointPosition
          (distance.pointB.map Constant.constant)) :
    distance.gap motionA motionB ≠ 0 :=
  fun isZero => apart (Vec3.eq_of_sub_eq_zero isZero)

/-- At the same places the gap is the same. -/
theorem gap_eq_of_samePlace
    (distance : Distance K)
    {motionA motionB otherA otherB : FrameMotion T}
    (sameA : motionA.SamePlace otherA)
    (sameB : motionB.SamePlace otherB) :
    distance.gap motionA motionB = distance.gap otherA otherB := by
  rw [gap, gap, sameA.pointPosition, sameB.pointPosition]

/--
Along the gap, the velocity of the first point relative to the second frame is
its velocity relative to the second point: the two differ by a turning of the
gap.
-/
theorem gap_dot_relativeVelocity
    (distance : Distance K)
    (motionA motionB : FrameMotion T) :
    let positionA :=
      motionA.pointPosition (distance.pointA.map Constant.constant)
    (distance.gap motionA motionB).dot
        (motionA.pointVelocity positionA -
          motionB.pointVelocity positionA) =
      (distance.gap motionA motionB).dot
        (distance.gapRate motionA motionB) := by
  intro positionA
  have turning :=
    Vec3.dot_cross_self motionB.angularVelocity
      (distance.gap motionA motionB)
  have split :
      motionA.pointVelocity positionA - motionB.pointVelocity positionA =
        distance.gapRate motionA motionB -
          motionB.angularVelocity.cross
            (distance.gap motionA motionB) := by
    ext <;>
      simp [positionA, gapRate, gap, FrameMotion.pointVelocity,
        Vec3.cross] <;>
      ring
  rw [split, Vec3.dot_sub, turning, sub_zero]

end Gap

section Reading

variable [CommRing K] [CommRing T] [Elementary T] [Constant K T]

variable {distance : Distance K}
variable {positions velocities rates : List T}
variable {snapshot moving : Snapshot T}
variable {motionA motionB : FrameMotion T}

/-- The bias is the formula of the gap, its rate and its bias. -/
theorem bias_eq
    [Div T]
    (wellFormed : distance.model.mechanism.WellFormed)
    (taken :
      distance.model.mechanism.Taken positions velocities snapshot)
    (velocityCount :
      velocities.length = distance.model.mechanism.dofCount)
    (foundA : snapshot.motion? distance.frameA = some motionA)
    (foundB : snapshot.motion? distance.frameB = some motionB) :
    distance.bias snapshot =
      .ok
        [biasOf (distance.gap motionA motionB)
          (distance.gapRate motionA motionB)
          (distance.gapBias motionA motionB)] := by
  obtain ⟨columnsA, columnsFoundA, widthA, velocityA⟩ :=
    Mechanism.pointJacobian_world_velocity wellFormed taken taken
      foundA (distance.pointA.map Constant.constant)
  obtain ⟨columnsB, columnsFoundB, widthB, velocityB⟩ :=
    Mechanism.pointJacobian_world_velocity wellFormed taken taken
      foundB (distance.pointB.map Constant.constant)
  have sameWidth : columnsA.length = columnsB.length :=
    widthA.trans widthB.symm
  have productFound :
      (Columns.subtract columnsA columnsB).timesVector
          snapshot.velocities =
        .ok (distance.gapRate motionA motionB) := by
    rw [taken.velocities_eq, Columns.timesVector_eq,
      Columns.combine_subtract sameWidth, velocityA, velocityB, gapRate]
    simp [Columns.subtract, widthA, widthB, velocityCount]
  unfold bias
  simp only [taken.pointPosition_world foundA,
    taken.pointPosition_world foundB, taken.pointBias_world foundA,
    taken.pointBias_world foundB, columnsFoundA, columnsFoundB]
  change Columns.timesVector _ _ >>= _ = _
  rw [productFound]
  rfl

variable [PreservesArithmetic (Constant.constant : K → T)]
variable [LawfulTrigonometry T]

/-- The separation is the gap, turned into the second frame. -/
theorem separation_eq
    (wellFormed : distance.model.mechanism.WellFormed)
    (normalized : distance.model.mechanism.Normalized)
    (taken :
      distance.model.mechanism.Taken positions velocities snapshot)
    (foundA : snapshot.motion? distance.frameA = some motionA)
    (foundB : snapshot.motion? distance.frameB = some motionB) :
    distance.separation snapshot =
      .ok
        (motionB.rotation.transpose.apply
          (distance.gap motionA motionB)) := by
  have rotation := taken.isRotation wellFormed normalized foundB
  have turnedBack :
      motionB.rotation.transpose.apply
            (motionA.pointPosition
                (distance.pointA.map Constant.constant) -
              motionB.origin) -
          distance.pointB.map Constant.constant =
        motionB.rotation.transpose.apply
          (distance.gap motionA motionB) := by
    rw [← rotation.apply_transpose_apply
      (distance.pointB.map Constant.constant), ← Mat3.apply_sub]
    congr 1
    ext <;> simp [gap, FrameMotion.pointPosition] <;> ring
  unfold separation
  rw [taken.pointPosition_eq foundA foundB]
  exact congrArg Except.ok turnedBack

/-- The residual is the length of the gap less the target. -/
theorem residual_eq
    (wellFormed : distance.model.mechanism.WellFormed)
    (normalized : distance.model.mechanism.Normalized)
    (taken :
      distance.model.mechanism.Taken positions velocities snapshot)
    (foundA : snapshot.motion? distance.frameA = some motionA)
    (foundB : snapshot.motion? distance.frameB = some motionB) :
    distance.residual snapshot =
      .ok
        [(distance.gap motionA motionB).norm -
          Constant.constant distance.target] := by
  have rotation := taken.isRotation wellFormed normalized foundB
  unfold residual
  rw [separation_eq wellFormed normalized taken foundA foundB]
  change Except.ok [_ - _] = _
  rw [rotation.norm_transpose_apply]

/--
The row of the Jacobian, multiplied by rates, is the rate at which the gap
grows longer.
-/
theorem jacobian_velocity
    [Div T] [LawfulDivision T]
    (wellFormed : distance.model.mechanism.WellFormed)
    (normalized : distance.model.mechanism.Normalized)
    (taken :
      distance.model.mechanism.Taken positions velocities snapshot)
    (moved : distance.model.mechanism.Taken positions rates moving)
    (foundA : moving.motion? distance.frameA = some motionA)
    (foundB : moving.motion? distance.frameB = some motionB) :
    ∃ row,
      distance.jacobian snapshot = .ok [row] ∧
        row.length = distance.model.mechanism.dofCount ∧
        sumProducts (row.zip rates) =
          distance.lengthRate motionA motionB := by
  obtain ⟨ownA, ownFoundA⟩ :=
    taken.motion_of_contains (moved.contains_of_motion foundA)
  obtain ⟨ownB, ownFoundB⟩ :=
    taken.motion_of_contains (moved.contains_of_motion foundB)
  have sameA := taken.samePlace wellFormed moved ownFoundA foundA
  have sameB := taken.samePlace wellFormed moved ownFoundB foundB
  have rotation := moved.isRotation wellFormed normalized foundB
  have separationFound :=
    separation_eq wellFormed normalized taken ownFoundA ownFoundB
  rw [distance.gap_eq_of_samePlace sameA sameB, sameB.rotation]
    at separationFound
  obtain ⟨columns, columnsFound, width, velocity⟩ :=
    Mechanism.pointJacobian_velocity wellFormed taken moved
      foundA foundB foundB (distance.pointA.map Constant.constant)
  refine
    ⟨divideVector
        (columns.project
          (motionB.rotation.transpose.apply
            (distance.gap motionA motionB)))
        (motionB.rotation.transpose.apply
          (distance.gap motionA motionB)).norm, ?_, ?_, ?_⟩
  · unfold jacobian
    rw [separationFound]
    change distance.model.mechanism.pointJacobian _ _ _ _ _ >>= _ = _
    rw [columnsFound]
    rfl
  · simp [divideVector, width]
  · rw [sumProducts_divideVector, Columns.sumProducts_project, velocity,
      rotation.dot_transpose_apply, gap_dot_relativeVelocity,
      rotation.norm_transpose_apply, lengthRate]

end Reading

end Linkage.Distance
