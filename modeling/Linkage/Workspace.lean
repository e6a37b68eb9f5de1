import Linkage.Document.Mechanism
import Linkage.Journal

namespace Linkage

/-!
# Workspaces

A workspace owns mechanisms and hands out their revisions.  Every mechanism
that is created, enlarged or read from a document draws the next revision; a
copy shares the revision of what it was copied from.  Revisions start again
after the last, so one comes back only when all others were drawn since.

Each mechanism has an identity, its place in the workspace, that tells it from
its copies.  A mechanism that constraints were made on is *pinned*: it keeps
its shape from then on.
-/

/-- A mechanism in a workspace. -/
structure Slot (K : Type) where
  mechanism : Mechanism K
  /-- Whether constraints may refer to it. -/
  pinned : Bool
  deriving Repr

/-- Mechanisms and the supply of revisions. -/
structure Workspace (K : Type) where
  slots : List (Slot K)
  /-- How many revisions were drawn. -/
  drawn : Nat
  deriving Repr

/-- Why a workspace does not attach a body. -/
inductive AttachFailure (K : Type) where
  /-- There is no such mechanism. -/
  | noMechanism
  /-- Constraints refer to the mechanism. -/
  | pinned
  /-- The mechanism refuses the body. -/
  | refused (refusal : Refusal K)
  /-- The coordinates of the mechanism would become too many to count. -/
  | tooManyCoordinates
  deriving Repr

namespace Workspace

variable {K : Type}

/-- A mechanism has fewer coordinates than this. -/
def coordinateLimit : Nat :=
  1 <<< 64

/-- Revisions are below this; the one after the last is zero. -/
def revisionLimit : Nat :=
  1 <<< 64

/-- The workspace without mechanisms. -/
def empty : Workspace K :=
  ⟨[], 0⟩

/-- The revision that is drawn next.  The first of all is one. -/
def freshRevision
    (workspace : Workspace K) : Nat :=
  (workspace.drawn + 1) % revisionLimit

/-- The mechanism with a given identity. -/
def mechanism?
    (workspace : Workspace K)
    (identity : Nat) : Option (Mechanism K) :=
  (workspace.slots[identity]?).map (·.mechanism)

/-- Whether constraints may refer to a mechanism. -/
def isPinned
    (workspace : Workspace K)
    (identity : Nat) : Bool :=
  (workspace.slots[identity]?).any (·.pinned)

/-- Add a mechanism that draws no revision; it starts unpinned. -/
def place
    (workspace : Workspace K)
    (mechanism : Mechanism K) : Workspace K × Nat :=
  ({ workspace with slots := workspace.slots ++ [⟨mechanism, false⟩] },
    workspace.slots.length)

/-- The mechanism added last is found under its identity. -/
theorem mechanism?_place
    (workspace : Workspace K)
    (mechanism : Mechanism K) :
    (workspace.place mechanism).1.mechanism?
        (workspace.place mechanism).2 =
      some mechanism := by
  simp [place, mechanism?]

/-- Add a mechanism that consists of the world alone. -/
def create
    (workspace : Workspace K) : Workspace K × Nat :=
  { workspace with drawn := workspace.drawn + 1 }.place
    (.empty workspace.freshRevision)

/-- Add a copy of a mechanism; it shares the revision. -/
def copy
    (workspace : Workspace K)
    (identity : Nat) : Option (Workspace K × Nat) :=
  (workspace.mechanism? identity).map workspace.place

/-- Add a mechanism read from a document. -/
def load
    [NatCast K]
    (workspace : Workspace K)
    (document : Document K) : Option (Workspace K × Nat) :=
  (Mechanism.ofDocument? workspace.freshRevision document).map
    { workspace with drawn := workspace.drawn + 1 }.place

/--
Attach a body to a mechanism that is not pinned.  The coordinates are counted
last, so the mechanism's own reasons to refuse the body come first.
-/
def attach
    [Zero K] [Add K] [Sub K] [Mul K] [Div K] [OfScientific K]
    [BEq K] [LT K] [DecidableLT K] [Elementary K]
    (workspace : Workspace K)
    (identity : Nat)
    (name : String)
    (parent : FrameId)
    (joint : Joint K)
    (offset : Pose K) :
    Except (AttachFailure K) (Workspace K × FrameId) :=
  match workspace.slots[identity]? with
  | none => .error .noMechanism
  | some slot =>
      if slot.pinned then
        .error .pinned
      else
        match slot.mechanism.attach workspace.freshRevision
            name parent joint offset with
        | .error refusal => .error (.refused refusal)
        | .ok (mechanism, frame) =>
            if mechanism.dofCount < coordinateLimit then
              .ok
                ({ slots :=
                    workspace.slots.set identity { slot with mechanism }
                   drawn := workspace.drawn + 1 },
                  frame)
            else
              .error .tooManyCoordinates

/-- Pin a mechanism, so that constraints can refer to it. -/
def pin
    (workspace : Workspace K)
    (identity : Nat) : Option (Workspace K × Model K) :=
  (workspace.slots[identity]?).map fun slot =>
    ({ workspace with
        slots := workspace.slots.set identity { slot with pinned := true } },
      ⟨identity, slot.mechanism⟩)

end Workspace

end Linkage
