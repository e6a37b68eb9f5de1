import Linkage.Constraint.Anchor
import Linkage.Constraint.Distance
import Linkage.Proofs.Constraint.RowMask
import Linkage.Proofs.Mechanism.Totality

namespace Linkage

/-!
# Constraints that answer as announced

A constraint announces its rows by its mask before it computes any of them, and
whoever stacks constraints relies on that.  Constraints made elsewhere have to
keep this promise; anchors and distance constraints keep it on every snapshot of
their mechanism, whatever kind of number it holds.
-/

variable {K T : Type}

/-- What is read off at one snapshot. -/
structure Outputs (T : Type) where
  residual : Except Misuse (List T)
  jacobian : Except Misuse (List (List T))
  bias : Except Misuse (List T)

/-- All three are found, with as many rows; the Jacobian has the given width. -/
structure Outputs.Shaped
    (outputs : Outputs T)
    (count width : Nat) : Prop where
  residual :
    ∃ values, outputs.residual = .ok values ∧ values.length = count
  jacobian :
    ∃ rows,
      outputs.jacobian = .ok rows ∧
        rows.length = count ∧ ∀ row ∈ rows, row.length = width
  bias :
    ∃ values, outputs.bias = .ok values ∧ values.length = count

namespace Constraint

/-- All rows of a constraint. -/
def outputs
    (constraint : Constraint K T)
    (snapshot : Snapshot T) : Outputs T where
  residual := constraint.residual snapshot
  jacobian := constraint.jacobian snapshot
  bias := constraint.bias snapshot

/-- The rows of a constraint that take part. -/
def activeOutputs
    (constraint : Constraint K T)
    (snapshot : Snapshot T) : Outputs T where
  residual := constraint.activeResidual snapshot
  jacobian := constraint.activeJacobian snapshot
  bias := constraint.activeBias snapshot

/--
What a constraint promises at a snapshot: it returns as many rows as it says,
and its Jacobian has the given width.
-/
def Answers
    (constraint : Constraint K T)
    (snapshot : Snapshot T)
    (width : Nat) : Prop :=
  (constraint.outputs snapshot).Shaped constraint.length width

/-- If its mask fits, it returns as many of the rows that take part. -/
theorem Answers.activeShaped
    {constraint : Constraint K T}
    {snapshot : Snapshot T}
    {width : Nat}
    (answers : constraint.Answers snapshot width)
    (fits : constraint.rows.Fits) :
    (constraint.activeOutputs snapshot).Shaped
      constraint.activeCount width := by
  obtain ⟨values, valuesFound, valuesLength⟩ := answers.residual
  obtain ⟨rows, rowsFound, rowsLength, widths⟩ := answers.jacobian
  obtain ⟨biases, biasesFound, biasesLength⟩ := answers.bias
  exact
    { residual :=
        ⟨_, RowMask.bind_trySelect fits valuesFound valuesLength,
          RowMask.length_select fits valuesLength⟩
      jacobian :=
        ⟨_, RowMask.bind_trySelect fits rowsFound rowsLength,
          RowMask.length_select fits rowsLength,
          fun row selected =>
            widths row (RowMask.mem_of_mem_select selected)⟩
      bias :=
        ⟨_, RowMask.bind_trySelect fits biasesFound biasesLength,
          RowMask.length_select fits biasesLength⟩ }

end Constraint

variable [One K] [Add K] [Sub K] [Mul K]
variable [Zero T] [One T] [Add T] [Sub T] [Neg T] [Mul T]
variable [Elementary T] [Constant K T]
variable {positions velocities : List T}
variable {snapshot : Snapshot T}

namespace Anchor

variable {anchor : Anchor K}

/-- An anchor has three values. -/
theorem residual_ok
    (taken :
      anchor.model.mechanism.Taken positions velocities snapshot)
    (inside : anchor.model.mechanism.contains anchor.frame = true) :
    ∃ values,
      anchor.residual snapshot = .ok values ∧ values.length = 3 := by
  obtain ⟨position, found⟩ :=
    taken.pointPosition_ok inside (Mechanism.contains_world _)
      (anchor.point.map Constant.constant)
  unfold residual
  rw [found]
  exact ⟨_, rfl, rfl⟩

/-- The Jacobian of an anchor has three rows. -/
theorem jacobian_ok
    (wellFormed : anchor.model.mechanism.WellFormed)
    (taken :
      anchor.model.mechanism.Taken positions velocities snapshot)
    (inside : anchor.model.mechanism.contains anchor.frame = true) :
    ∃ rows,
      anchor.jacobian snapshot = .ok rows ∧
        rows.length = 3 ∧
        ∀ row ∈ rows, row.length = anchor.model.mechanism.dofCount := by
  obtain ⟨columns, found, width⟩ :=
    taken.pointJacobian_ok wellFormed.grounded inside
      (Mechanism.contains_world _) (Mechanism.contains_world _)
      (anchor.point.map Constant.constant)
  unfold jacobian
  rw [found]
  refine ⟨_, rfl, rfl, ?_⟩
  simp [Columns.toRows, width]

/-- The bias of an anchor has three entries. -/
theorem bias_ok
    (taken :
      anchor.model.mechanism.Taken positions velocities snapshot)
    (inside : anchor.model.mechanism.contains anchor.frame = true) :
    ∃ values,
      anchor.bias snapshot = .ok values ∧ values.length = 3 := by
  obtain ⟨acceleration, found⟩ :=
    taken.pointBias_ok inside (Mechanism.contains_world _)
      (anchor.point.map Constant.constant)
  unfold bias
  rw [found]
  exact ⟨_, rfl, rfl⟩

/-- An anchor of three rows returns them. -/
theorem answers
    (wellFormed : anchor.model.mechanism.WellFormed)
    (taken :
      anchor.model.mechanism.Taken positions velocities snapshot)
    (inside : anchor.model.mechanism.contains anchor.frame = true)
    (rowCount : anchor.rows.length = 3) :
    (anchor.toConstraint : Constraint K T).Answers snapshot
      anchor.model.mechanism.dofCount := by
  rw [Constraint.Answers, Constraint.length, toConstraint, rowCount]
  exact
    { residual := residual_ok taken inside
      jacobian := jacobian_ok wellFormed taken inside
      bias := bias_ok taken inside }

end Anchor

namespace Distance

variable {distance : Distance K}

/-- The separation of the points is found. -/
theorem separation_ok
    (taken :
      distance.model.mechanism.Taken positions velocities snapshot)
    (insideA : distance.model.mechanism.contains distance.frameA = true)
    (insideB : distance.model.mechanism.contains distance.frameB = true) :
    ∃ separation, distance.separation snapshot = .ok separation := by
  obtain ⟨position, found⟩ :=
    taken.pointPosition_ok insideA insideB
      (distance.pointA.map Constant.constant)
  unfold separation
  rw [found]
  exact ⟨_, rfl⟩

/-- A distance constraint has one value. -/
theorem residual_ok
    (taken :
      distance.model.mechanism.Taken positions velocities snapshot)
    (insideA : distance.model.mechanism.contains distance.frameA = true)
    (insideB : distance.model.mechanism.contains distance.frameB = true) :
    ∃ values,
      distance.residual snapshot = .ok values ∧ values.length = 1 := by
  obtain ⟨separation, found⟩ := separation_ok taken insideA insideB
  unfold residual
  rw [found]
  exact ⟨_, rfl, rfl⟩

variable [Div T]

/-- The Jacobian of a distance constraint has one row. -/
theorem jacobian_ok
    (wellFormed : distance.model.mechanism.WellFormed)
    (taken :
      distance.model.mechanism.Taken positions velocities snapshot)
    (insideA : distance.model.mechanism.contains distance.frameA = true)
    (insideB : distance.model.mechanism.contains distance.frameB = true) :
    ∃ rows,
      distance.jacobian snapshot = .ok rows ∧
        rows.length = 1 ∧
        ∀ row ∈ rows, row.length = distance.model.mechanism.dofCount := by
  obtain ⟨separation, separationFound⟩ :=
    separation_ok taken insideA insideB
  obtain ⟨columns, columnsFound, width⟩ :=
    taken.pointJacobian_ok wellFormed.grounded insideA insideB insideB
      (distance.pointA.map Constant.constant)
  unfold jacobian
  rw [separationFound, columnsFound]
  refine ⟨_, rfl, rfl, ?_⟩
  simp [divideVector, width]

/-- The bias of a distance constraint has one entry. -/
theorem bias_ok
    (wellFormed : distance.model.mechanism.WellFormed)
    (taken :
      distance.model.mechanism.Taken positions velocities snapshot)
    (velocityCount :
      velocities.length = distance.model.mechanism.dofCount)
    (insideA : distance.model.mechanism.contains distance.frameA = true)
    (insideB : distance.model.mechanism.contains distance.frameB = true) :
    ∃ values,
      distance.bias snapshot = .ok values ∧ values.length = 1 := by
  have worldInside := Mechanism.contains_world distance.model.mechanism
  obtain ⟨placeA, placeFoundA⟩ :=
    taken.pointPosition_ok insideA worldInside
      (distance.pointA.map Constant.constant)
  obtain ⟨placeB, placeFoundB⟩ :=
    taken.pointPosition_ok insideB worldInside
      (distance.pointB.map Constant.constant)
  obtain ⟨columnsA, columnsFoundA, widthA⟩ :=
    taken.pointJacobian_ok wellFormed.grounded insideA worldInside worldInside
      (distance.pointA.map Constant.constant)
  obtain ⟨columnsB, columnsFoundB, widthB⟩ :=
    taken.pointJacobian_ok wellFormed.grounded insideB worldInside worldInside
      (distance.pointB.map Constant.constant)
  obtain ⟨biasA, biasFoundA⟩ :=
    taken.pointBias_ok insideA worldInside
      (distance.pointA.map Constant.constant)
  obtain ⟨biasB, biasFoundB⟩ :=
    taken.pointBias_ok insideB worldInside
      (distance.pointB.map Constant.constant)
  have sameWidth :
      (Columns.subtract columnsA columnsB).length =
        snapshot.velocities.length := by
    simp [Columns.subtract, widthA, widthB, taken.velocities_eq,
      velocityCount]
  obtain ⟨velocity, velocityFound⟩ :
      ∃ velocity,
        (Columns.subtract columnsA columnsB).timesVector
            snapshot.velocities =
          .ok velocity :=
    ⟨_, if_pos sameWidth⟩
  unfold bias
  simp only [placeFoundA, placeFoundB, columnsFoundA, columnsFoundB,
    biasFoundA, biasFoundB]
  refine
    ⟨[biasOf (placeA - placeB) velocity (biasA - biasB)], ?_, rfl⟩
  change Columns.timesVector _ _ >>= _ = _
  rw [velocityFound]
  rfl

/-- A distance constraint of one row returns it. -/
theorem answers
    (wellFormed : distance.model.mechanism.WellFormed)
    (taken :
      distance.model.mechanism.Taken positions velocities snapshot)
    (velocityCount :
      velocities.length = distance.model.mechanism.dofCount)
    (insideA : distance.model.mechanism.contains distance.frameA = true)
    (insideB : distance.model.mechanism.contains distance.frameB = true)
    (rowCount : distance.rows.length = 1) :
    (distance.toConstraint : Constraint K T).Answers snapshot
      distance.model.mechanism.dofCount := by
  rw [Constraint.Answers, Constraint.length, toConstraint, rowCount]
  exact
    { residual := residual_ok taken insideA insideB
      jacobian := jacobian_ok wellFormed taken insideA insideB
      bias := bias_ok wellFormed taken velocityCount insideA insideB }

end Distance

end Linkage
