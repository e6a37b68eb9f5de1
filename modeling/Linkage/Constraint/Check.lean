import Linkage.Constraint.Set

namespace Linkage

/-!
# Checking derivatives by differences

The derivatives of a constraint are compared with central differences along the
current velocity: the rate of the residual with the Jacobian times the
velocity, and the rate of the latter with the bias.  A check reports the
largest gap of either kind.

A gap that is not a number counts as larger than any other, so a check that
meets one does not pass.
-/

/-- Step and tolerance of a check. -/
structure CheckSettings (K : Type) where
  step : K
  tolerance : K
  deriving Repr, BEq, DecidableEq

namespace CheckSettings

variable {K : Type}

/-- The usual settings. -/
def standard
    [OfScientific K] : CheckSettings K :=
  ⟨1e-5, 1e-6⟩

/-- Settings for smooth, well-scaled mechanisms. -/
def tight
    [OfScientific K] : CheckSettings K :=
  ⟨1e-5, 1e-8⟩

/-- Settings for mechanisms of large extent. -/
def loose
    [OfScientific K] : CheckSettings K :=
  ⟨1e-4, 1e-4⟩

/-- Step and tolerance have to be positive and finite, the step first. -/
def validate
    [Zero K] [Sub K] [BEq K] [LT K] [DecidableLT K]
    (settings : CheckSettings K) : Except (Refusal K) Unit :=
  if !isPositiveFinite settings.step then
    .error (.invalidConfiguration (.step settings.step))
  else if !isPositiveFinite settings.tolerance then
    .error (.invalidConfiguration (.tolerance settings.tolerance))
  else
    .ok ()

end CheckSettings

/-- Outcome of a check. -/
structure CheckReport (K : Type) where
  /-- Largest gap between the residual's rate and the Jacobian's. -/
  jacobianError : K
  /-- Largest gap between the rate of the Jacobian's and the bias. -/
  biasError : K
  /-- What both gaps are compared with. -/
  tolerance : K
  deriving Repr, BEq, DecidableEq

namespace CheckReport

variable {K : Type}

/-- The larger of the two errors. -/
def maxError
    [BEq K] [LT K] [DecidableLT K]
    (report : CheckReport K) : K :=
  larger report.jacobianError report.biasError

/-- Whether both errors are within the tolerance. -/
def passed
    [BEq K] [LT K] [DecidableLT K] [LE K] [DecidableLE K]
    (report : CheckReport K) : Bool :=
  decide (report.maxError ≤ report.tolerance)

end CheckReport

/-- Largest magnitude in a list of numbers; zero if there is none. -/
def largestMagnitude
    {K : Type} [Zero K] [Neg K] [BEq K] [LT K] [DecidableLT K]
    (numbers : List K) : K :=
  numbers.foldl (fun largest number => larger largest (magnitude number)) 0

section Check

variable {K : Type}
variable [Zero K] [One K] [Add K] [Sub K] [Neg K] [Mul K] [Div K]
variable [BEq K] [LT K] [DecidableLT K] [Elementary K]

/-- Compare given derivatives of a mechanism's rows with central differences. -/
def centralDifference
    (mechanism : Mechanism K)
    (residual : Snapshot K → Except Misuse (List K))
    (jacobian : Snapshot K → Except Misuse (List (List K)))
    (bias : Snapshot K → Except Misuse (List K))
    (settings : CheckSettings K)
    (positions velocities : List K) :
    Except (Failure K) (CheckReport K) := do
  settings.validate
  let step := settings.step
  let here ← mechanism.snapshot positions velocities
  let ahead ←
    mechanism.snapshot
      (← Mechanism.advance positions velocities step) velocities
  let behind ←
    mechanism.snapshot
      (← Mechanism.advance positions velocities (-step)) velocities
  let residualRate :=
    divideVector
      (← subtractVectors (← residual ahead) (← residual behind))
      (two * step)
  let jacobianGap ←
    subtractVectors residualRate
      (← rowsTimesVector (← jacobian here) velocities)
  let jacobianRate :=
    divideVector
      (← subtractVectors
        (← rowsTimesVector (← jacobian ahead) velocities)
        (← rowsTimesVector (← jacobian behind) velocities))
      (two * step)
  let biasGap ← subtractVectors jacobianRate (← bias here)
  .ok
    { jacobianError := largestMagnitude jacobianGap
      biasError := largestMagnitude biasGap
      tolerance := settings.tolerance }

/-- Check one constraint. -/
def Constraint.checkDerivatives
    (constraint : Constraint K K)
    (settings : CheckSettings K)
    (positions velocities : List K) :
    Except (Failure K) (CheckReport K) :=
  centralDifference constraint.model.mechanism
    constraint.residual constraint.jacobian constraint.bias
    settings positions velocities

/-- Check the stacked rows of the enabled members of a set. -/
def ConstraintSet.checkDerivatives
    (set : ConstraintSet K K)
    (settings : CheckSettings K)
    (positions velocities : List K) :
    Except (Failure K) (CheckReport K) :=
  centralDifference set.model.mechanism
    set.residual set.jacobian set.bias
    settings positions velocities

end Check

end Linkage
