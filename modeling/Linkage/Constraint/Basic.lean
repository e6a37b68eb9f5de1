import Linkage.Constraint.RowMask
import Linkage.Mechanism.Query

namespace Linkage

/-!
# Constraints

A constraint demands that some functions of the coordinates vanish, one per
row.  Besides their values it gives their Jacobian, which maps rates of
coordinates to rates of the rows, and their bias: what remains of the second
derivative of the rows while no coordinate accelerates.

A constraint is made on one model and keeps no state of its own: everything is
computed from the snapshot it is given.
-/

/-- A mechanism that constraints refer to, and the identity they share. -/
structure Model (K : Type) where
  identity : Nat
  mechanism : Mechanism K
  deriving Repr

/-- A constraint over states with scalars of type `T`. -/
structure Constraint (K T : Type) where
  /-- Name in messages and logs. -/
  name : String
  /-- The model it was made on. -/
  model : Model K
  /-- The rows that take part. -/
  rows : RowMask
  /-- Values of all rows; they vanish where the constraint holds. -/
  residual : Snapshot T → Except Misuse (List T)
  /-- Jacobian of all rows, row by row. -/
  jacobian : Snapshot T → Except Misuse (List (List T))
  /-- Bias of all rows. -/
  bias : Snapshot T → Except Misuse (List T)

namespace Constraint

variable {K T : Type}

/-- Number of rows. -/
def length
    (constraint : Constraint K T) : Nat :=
  constraint.rows.length

/-- Number of rows that take part. -/
def activeCount
    (constraint : Constraint K T) : Nat :=
  constraint.rows.count

/-- Values of the rows that take part. -/
def activeResidual
    (constraint : Constraint K T)
    (snapshot : Snapshot T) : Except Misuse (List T) :=
  constraint.residual snapshot >>= constraint.rows.trySelect

/-- Jacobian of the rows that take part. -/
def activeJacobian
    (constraint : Constraint K T)
    (snapshot : Snapshot T) : Except Misuse (List (List T)) :=
  constraint.jacobian snapshot >>= constraint.rows.trySelect

/-- Bias of the rows that take part. -/
def activeBias
    (constraint : Constraint K T)
    (snapshot : Snapshot T) : Except Misuse (List T) :=
  constraint.bias snapshot >>= constraint.rows.trySelect

/-- The same constraint under a name, with other derivatives. -/
def withDerivatives
    (constraint : Constraint K T)
    (name : String)
    (changeJacobian : List (List T) → List (List T))
    (changeBias : List T → List T) : Constraint K T :=
  { constraint with
    name
    jacobian := fun snapshot =>
      changeJacobian <$> constraint.jacobian snapshot
    bias := fun snapshot =>
      changeBias <$> constraint.bias snapshot }

end Constraint

end Linkage
