import Linkage.Constraint.Check
import Linkage.Constraint.Distance

namespace Linkage

/-!
# Journal

Operations that change a mechanism or a set, and those that find something
suspicious, leave an event in the journal.  Events are values: an operation
returns them, and the caller decides where they go.
-/

/-- How much attention an event asks for. -/
inductive EventLevel where
  | warning
  | detail
  deriving Repr, DecidableEq

/-- Something that happened. -/
inductive Event (K : Type) where
  /-- A body was attached to a mechanism. -/
  | bodyAttached
      (frame : FrameId) (name : String)
      (parent : FrameId) (dof : Option Nat)
  /-- A distance constraint asks for a negative distance. -/
  | negativeDistance (target : K) (frameA frameB : FrameId)
  /-- A constraint set was changed. -/
  | setChanged (change : SetChange)
  /-- A constraint did not pass its check. -/
  | checkFailed (name : String) (report : CheckReport K)
  /-- A set of `members` with `rows` enabled rows did not pass its check. -/
  | setCheckFailed (members rows : Nat) (report : CheckReport K)
  deriving Repr

namespace Event

variable {K : Type}

/-- How much attention an event asks for. -/
def level : Event K → EventLevel
  | .bodyAttached .. => .detail
  | .negativeDistance .. => .warning
  | .setChanged _ => .detail
  | .checkFailed .. => .warning
  | .setCheckFailed .. => .warning

/-- The event in words. -/
def message : Event K → String
  | .bodyAttached .. => "added body"
  | .negativeDistance .. =>
      "negative target distance can never be satisfied"
  | .setChanged (.added ..) => "added kinematic evaluator"
  | .setChanged (.toggled ..) => "kinematic evaluator toggled"
  | .checkFailed .. => "derivative check failed"
  | .setCheckFailed .. => "derivative check failed"

end Event

variable {K : Type}

/-- The event of attaching a body as a frame. -/
def Body.attachedEvent
    (body : Body K)
    (frame : FrameId) : Event K :=
  .bodyAttached frame body.name body.parent body.dof

/-- Events of making a distance constraint. -/
def Distance.events
    [Zero K] [LT K] [DecidableLT K]
    (distance : Distance K) : List (Event K) :=
  if distance.isUnsatisfiable then
    [.negativeDistance distance.target distance.frameA distance.frameB]
  else
    []

section Checks

variable [BEq K] [LT K] [DecidableLT K] [LE K] [DecidableLE K]

/-- Events of checking a constraint. -/
def Constraint.checkEvents
    (constraint : Constraint K K)
    (report : CheckReport K) : List (Event K) :=
  if report.passed then
    []
  else
    [.checkFailed constraint.name report]

/-- Events of checking a set. -/
def ConstraintSet.checkEvents
    (set : ConstraintSet K K)
    (report : CheckReport K) : List (Event K) :=
  if report.passed then
    []
  else
    [.setCheckFailed set.size set.fullCount report]

end Checks

end Linkage
