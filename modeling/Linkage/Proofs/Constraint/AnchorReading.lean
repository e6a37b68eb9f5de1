import Linkage.Constraint.Anchor
import Linkage.Proofs.Mechanism.Reading

namespace Linkage.Anchor

/-!
# Anchors in closed form

Every output of an anchor is a vector of the world, turned by the matrix of the
view: the displacement of the point from its target, the point's velocity, and
its bias acceleration.  The matrix is constant, so whatever relates these three
vectors also relates the three outputs, row by row.
-/

variable {K T : Type}

section Displacement

variable [CommRing T] [Constant K T]

/-- The way from the target to the point, in the world. -/
def displacement
    (anchor : Anchor K)
    (motion : FrameMotion T) : Vec3 T :=
  motion.pointPosition (anchor.point.map Constant.constant) -
    anchor.target.map Constant.constant

/-- The velocity of the point, in the world. -/
def velocity
    (anchor : Anchor K)
    (motion : FrameMotion T) : Vec3 T :=
  motion.pointVelocity
    (motion.pointPosition (anchor.point.map Constant.constant))

/-- The bias acceleration of the point, in the world. -/
def acceleration
    (anchor : Anchor K)
    (motion : FrameMotion T) : Vec3 T :=
  motion.pointBias
    (motion.pointPosition (anchor.point.map Constant.constant))

/-- At the same place the point has the same displacement. -/
theorem displacement_eq_of_samePlace
    (anchor : Anchor K)
    {motion other : FrameMotion T}
    (same : motion.SamePlace other) :
    anchor.displacement motion = anchor.displacement other := by
  rw [displacement, displacement, same.pointPosition]

end Displacement

section Reading

variable [One K] [Add K] [Sub K] [Mul K]
variable [CommRing T] [Elementary T] [Constant K T]

variable {anchor : Anchor K}
variable {positions velocities : List T}
variable {snapshot : Snapshot T}
variable {motion : FrameMotion T}

/-- The residual is the displacement, along the view. -/
theorem residual_eq
    (taken :
      anchor.model.mechanism.Taken positions velocities snapshot)
    (found : snapshot.motion? anchor.frame = some motion) :
    anchor.residual snapshot =
      .ok (anchor.viewMatrix.apply (anchor.displacement motion)).toList := by
  unfold residual
  rw [taken.pointPosition_world found]
  rfl

/-- The bias is the bias acceleration, along the view. -/
theorem bias_eq
    (taken :
      anchor.model.mechanism.Taken positions velocities snapshot)
    (found : snapshot.motion? anchor.frame = some motion) :
    anchor.bias snapshot =
      .ok (anchor.viewMatrix.apply (anchor.acceleration motion)).toList := by
  unfold bias
  rw [taken.pointBias_world found]
  rfl

/--
At one state, one matrix gives the velocities of the point at all rates, along
the view.
-/
theorem jacobian_columns
    (wellFormed : anchor.model.mechanism.WellFormed)
    (taken :
      anchor.model.mechanism.Taken positions velocities snapshot)
    (inside : anchor.model.mechanism.contains anchor.frame = true) :
    ∃ columns : Columns T,
      anchor.jacobian snapshot = .ok columns.toRows ∧
        columns.length = anchor.model.mechanism.dofCount ∧
        ∀ {rates : List T} {moving : Snapshot T} {motion : FrameMotion T},
          anchor.model.mechanism.Taken positions rates moving →
          moving.motion? anchor.frame = some motion →
          Columns.combine (columns.zip rates) =
            anchor.viewMatrix.apply (anchor.velocity motion) := by
  obtain ⟨world, worldFound, width, product⟩ :=
    Mechanism.pointJacobian_world_columns wellFormed taken inside
      (anchor.point.map Constant.constant)
  refine ⟨world.rotate anchor.viewMatrix, ?_, ?_, ?_⟩
  · unfold jacobian
    rw [worldFound]
    rfl
  · rw [Columns.length_rotate, width]
  · intro rates moving motion moved found
    rw [Columns.combine_rotate, product moved found, velocity]

end Reading

end Linkage.Anchor
