import Linkage.Mechanism.Joint
import Linkage.Number.Shortest

namespace Linkage

/-!
# Refusals and misuse

An operation that cannot do what it is asked *refuses*, and says why: the
caller is expected to handle that.  Reading a mechanism with a snapshot or a
frame that does not belong to it is a *misuse*: the caller broke a promise.
The two never mix, so the type of a function tells which it can meet.
-/

/-- Which vector of a state has the wrong length. -/
inductive StateVector where
  | positions
  | velocities
  | state
  deriving Repr, DecidableEq

/-- Name of a state vector in messages. -/
def StateVector.text : StateVector → String
  | .positions => "positions"
  | .velocities => "velocities"
  | .state => "state"

/-- What makes a configuration unusable. -/
inductive ConfigurationFault (K : Type) where
  /-- The difference step is not a positive finite number. -/
  | step (value : K)
  /-- The tolerance is not a positive finite number. -/
  | tolerance (value : K)
  /-- The offset of a body holds a number that is not finite. -/
  | offset (name : String)
  /-- A target distance is not finite. -/
  | distance (value : K)
  /-- A point of a distance constraint is not finite. -/
  | distancePoints
  /-- The point of a contact is not finite. -/
  | contactPoint
  /-- The target of a contact is not finite. -/
  | contactTarget
  /-- A fault stated in words. -/
  | stated (reason : String)
  deriving Repr, DecidableEq, BEq

/-- The fault in words. -/
def ConfigurationFault.text
    {K : Type} [PlainText K] :
    ConfigurationFault K → String
  | .step value =>
      "finite-difference step must be positive and finite, got " ++
        PlainText.plainText value
  | .tolerance value =>
      "tolerance must be positive and finite, got " ++
        PlainText.plainText value
  | .offset name => "offset of frame " ++ name ++ " is not finite"
  | .distance value =>
      "target distance must be finite, got " ++
        PlainText.plainText value
  | .distancePoints => "distance points must be finite"
  | .contactPoint => "contact point must be finite"
  | .contactTarget => "world point target must be finite"
  | .stated reason => reason

/-- Why an operation refuses. -/
inductive Refusal (K : Type) where
  /-- No frame has the given number. -/
  | frameNotFound (frame : FrameId)
  /-- No frame has the given name. -/
  | frameNameNotFound (name : String)
  /-- Another frame has the given name. -/
  | duplicateFrameName (name : String)
  /-- A joint axis has no direction. -/
  | invalidAxis (name : String)
  /-- A state vector has the wrong length. -/
  | dimensionMismatch (vector : StateVector) (expected actual : Nat)
  /-- A constraint was made on another model. -/
  | modelMismatch (name : String)
  /-- A set has no constraint at the given index. -/
  | constraintNotFound (index size : Nat)
  /-- Row indices repeat, go down, or leave the range. -/
  | invalidActiveRows (indices : List Nat) (length : Nat)
  /-- A configuration is unusable. -/
  | invalidConfiguration (fault : ConfigurationFault K)
  deriving Repr, DecidableEq, BEq

namespace Refusal

variable {K : Type}

/-- The refusal in words. -/
def message
    [PlainText K] :
    Refusal K → String
  | .frameNotFound frame => "frame not found: " ++ frame.text
  | .frameNameNotFound name => "frame not found: " ++ name
  | .duplicateFrameName name => "duplicate frame name: " ++ name
  | .invalidAxis name =>
      "invalid joint axis for frame " ++ name ++
        ": axis must be finite and non-zero"
  | .dimensionMismatch vector expected actual =>
      vector.text ++ " has length " ++ toString actual ++
        ", expected " ++ toString expected
  | .modelMismatch name =>
      "evaluator '" ++ name ++
        "' was built on a different model than this set"
  | .constraintNotFound index size =>
      "evaluator " ++ toString index ++ " not found (set has " ++
        toString size ++ ")"
  | .invalidActiveRows indices length =>
      "invalid active rows [" ++
        ", ".intercalate (indices.map toString) ++
        "] for evaluator of length " ++ toString length
  | .invalidConfiguration fault =>
      "invalid configuration: " ++ fault.text

/-- Whether a configuration is to blame. -/
def isConfiguration : Refusal K → Bool
  | .invalidConfiguration _ => true
  | _ => false

/-- Whether a missing frame is to blame. -/
def isMissingFrame : Refusal K → Bool
  | .frameNotFound _ => true
  | .frameNameNotFound _ => true
  | _ => false

end Refusal

/-- How a caller can break a promise. -/
inductive Misuse where
  /-- The snapshot was taken of another mechanism, or of an earlier shape. -/
  | foreignSnapshot
  /-- The mechanism has no such frame. -/
  | unknownFrame (frame : FrameId) (count : Nat)
  /-- A parent, a coordinate or a row is named that does not exist. -/
  | indexOutOfRange
  /-- A body does not come after its parent, so its chain has no end. -/
  | brokenChain
  /-- Two vectors that are combined differ in length. -/
  | lengthsDiffer
  /-- A table would have more entries than can be laid out. -/
  | tableTooLarge
  deriving Repr, DecidableEq

/-- The misuse in words, for those that have a message of their own. -/
def Misuse.message? : Misuse → Option String
  | .foreignSnapshot =>
      some "context was created for a different kinematic tree"
  | .unknownFrame frame count =>
      some (frame.text ++ " is not part of this kinematic tree (" ++
        toString count ++ " frames)")
  | .indexOutOfRange => none
  | .brokenChain => none
  | .lengthsDiffer => none
  | .tableTooLarge => none

/-- A table has fewer entries than this. -/
def entryLimit : Nat :=
  1 <<< 59

/-- The entry of a list at an index that has to exist. -/
def entry
    {α : Type}
    (items : List α)
    (index : Nat) : Except Misuse α :=
  match items[index]? with
  | some item => .ok item
  | none => .error .indexOutOfRange

/-- An entry below the length exists. -/
theorem entry_of_lt
    {α : Type}
    {items : List α}
    {index : Nat}
    (inside : index < items.length) :
    entry items index = .ok items[index] := by
  simp [entry, inside]

/-- An entry was found exactly when it is at that index. -/
theorem entry_eq_ok_iff
    {α : Type}
    {items : List α}
    {index : Nat}
    {item : α} :
    entry items index = .ok item ↔ items[index]? = some item := by
  unfold entry
  cases items[index]? <;> simp

/-- Either way in which an operation can fail. -/
inductive Failure (K : Type) where
  | refused (refusal : Refusal K)
  | misused (misuse : Misuse)
  deriving Repr, DecidableEq

/-- A computation that can only be misused, where refusals are possible too. -/
instance {K : Type} : MonadLift (Except Misuse) (Except (Failure K)) where
  monadLift computation := computation.mapError .misused

/-- A computation that can only refuse, where misuse is possible too. -/
instance {K : Type} : MonadLift (Except (Refusal K)) (Except (Failure K)) where
  monadLift computation := computation.mapError .refused

namespace Failure

variable {K α β : Type}

/-- What follows a result goes on with its value. -/
theorem ok_bind
    (value : α)
    (next : α → Except (Failure K) β) :
    Except.ok value >>= next = next value :=
  rfl

/-- A result of a computation that can only be misused stays a result. -/
theorem liftM_ok_of_misuse
    (value : α) :
    (liftM (Except.ok value : Except Misuse α) : Except (Failure K) α) =
      .ok value :=
  rfl

/-- A result of a computation that can only refuse stays a result. -/
theorem liftM_ok_of_refusal
    (value : α) :
    (liftM (Except.ok value : Except (Refusal K) α) :
        Except (Failure K) α) =
      .ok value :=
  rfl

end Failure

end Linkage
