import Linkage.Proofs.Mechanism.Orderly
import Linkage.Proofs.Number.LawfulScalar
import Linkage.Proofs.Workspace.Run

namespace Linkage.Workspace

/-!
# Mechanisms that no document brought

A document may hold any bodies.  Without documents every mechanism of a
workspace was grown from the world, by attachments of its own or by those of
the mechanism it was copied from.  So it has the structure of a mechanism that
was built, and whatever attachments pass on holds of it.
-/

section Runs

variable {K : Type}
variable [Zero K] [Add K] [Sub K] [Mul K] [Div K] [OfScientific K]
variable [NatCast K] [BEq K] [LT K] [DecidableLT K] [Elementary K]

/-- Every mechanism has a property, given how many revisions were drawn. -/
def Everywhere
    (Holds : Nat → Mechanism K → Prop)
    (workspace : Workspace K) : Prop :=
  ∀ mechanism ∈ workspace.mechanisms, Holds workspace.drawn mechanism

/--
A property that holds of the world alone, is not lost when another revision is
drawn, and passes to a mechanism from the one it was enlarged from.
-/
structure PassedByAttachments
    (Holds : Nat → Mechanism K → Prop) : Prop where
  world : ∀ drawn revision : Nat, Holds (drawn + 1) (.empty revision)
  later :
    ∀ {drawn : Nat} {mechanism : Mechanism K},
      Holds drawn mechanism →
      Holds (drawn + 1) mechanism
  enlarged :
    ∀ {drawn revision : Nat} {name : String} {parent frame : FrameId}
      {joint : Joint K} {offset : Pose K}
      {mechanism larger : Mechanism K},
      Holds drawn mechanism →
      mechanism.attach revision name parent joint offset =
        .ok (larger, frame) →
      Holds (drawn + 1) larger

namespace PassedByAttachments

variable {Holds : Nat → Mechanism K → Prop}

/-- An operation that reads no document keeps such a property everywhere. -/
theorem everywhere_of_change
    (passed : PassedByAttachments Holds)
    {before after : Workspace K}
    {operation : Operation K}
    (change : Change before after operation)
    (noDocument : ∀ document, operation ≠ .load document)
    (holds : before.Everywhere Holds) :
    after.Everywhere Holds := by
  intro mechanism member
  cases change with
  | kept same counted =>
      rw [same] at member
      rw [counted]
      exact holds mechanism member
  | copied found added counted =>
      rw [added] at member
      rw [counted]
      rcases List.mem_append.mp member with earlier | last
      · exact holds mechanism earlier
      · rw [List.mem_singleton.mp last]
        exact holds _ (List.mem_of_getElem? found)
  | created added counted =>
      rw [added] at member
      rw [counted]
      rcases List.mem_append.mp member with earlier | last
      · exact passed.later (holds mechanism earlier)
      · rw [List.mem_singleton.mp last]
        exact passed.world _ _
  | loaded _ _ _ =>
      exact absurd rfl (noDocument _)
  | grown found attached replaced counted =>
      rw [replaced] at member
      rw [counted]
      rcases List.mem_or_eq_of_mem_set member with earlier | rfl
      · exact passed.later (holds mechanism earlier)
      · exact
          passed.enlarged (holds _ (List.mem_of_getElem? found)) attached

/-- A run that reads no document keeps such a property everywhere. -/
theorem everywhere_run
    (passed : PassedByAttachments Holds)
    {workspace : Workspace K}
    (holds : workspace.Everywhere Holds)
    {operations : List (Operation K)}
    (noDocument : ∀ document, .load document ∉ operations) :
    (workspace.run operations).Everywhere Holds := by
  induction operations generalizing workspace with
  | nil =>
      exact holds
  | cons operation rest inductionHypothesis =>
      have change := change_perform workspace operation
      refine
        inductionHypothesis
          (passed.everywhere_of_change change ?_ holds) ?_
      · rintro document rfl
        exact noDocument document (.head rest)
      · intro document inRest
        exact noDocument document (.tail operation inRest)

/-- Without documents such a property holds of every mechanism. -/
theorem of_mem_run
    (passed : PassedByAttachments Holds)
    {operations : List (Operation K)}
    (noDocument : ∀ document, .load document ∉ operations)
    {mechanism : Mechanism K}
    (member : mechanism ∈ (empty.run operations).mechanisms) :
    Holds (empty.run operations).drawn mechanism := by
  have none : (empty : Workspace K).Everywhere Holds := by
    simp [Everywhere]
  exact passed.everywhere_run none noDocument mechanism member

end PassedByAttachments

/-- Without documents every mechanism was built. -/
theorem built_of_mem_run
    {operations : List (Operation K)}
    (noDocument : ∀ document, .load document ∉ operations)
    {mechanism : Mechanism K}
    (member : mechanism ∈ (empty.run operations).mechanisms) :
    mechanism.Built := by
  have passed :
      PassedByAttachments
        (fun _ (mechanism : Mechanism K) => mechanism.Built) :=
    { world := fun _ revision => .empty revision
      later := id
      enlarged := .attach }
  exact passed.of_mem_run noDocument member

/-- Without documents, coordinates are fewer than the revisions drawn. -/
theorem dofCount_lt_drawn_of_mem_run
    {operations : List (Operation K)}
    (noDocument : ∀ document, .load document ∉ operations)
    {mechanism : Mechanism K}
    (member : mechanism ∈ (empty.run operations).mechanisms) :
    mechanism.dofCount < (empty.run operations).drawn := by
  have passed :
      PassedByAttachments
        (fun drawn (mechanism : Mechanism K) =>
          mechanism.dofCount < drawn) :=
    { world := fun drawn _ => drawn.zero_lt_succ
      later := Nat.lt_succ_of_lt
      enlarged := by
        intro drawn revision name parent frame joint offset mechanism
          larger below attached
        obtain ⟨_, _, _, unitJoint, _, rfl, _⟩ :=
          Mechanism.attach_eq_ok_iff.mp attached
        exact
          Nat.add_lt_add_of_lt_of_le below unitJoint.freedom_le_one }
  exact passed.of_mem_run noDocument member

end Runs

section Axes

variable {K : Type} [Field K] [LinearOrder K] [IsStrictOrderedRing K]
variable [Elementary K] [LawfulSqrt K] [LawfulRootOfZero K]

/--
Whatever bodies are attached, accepted or refused, and whatever is copied, all
mechanisms are orderly.  Their axes are finite when numbers are doubles, and
have unit length when nothing is rounded.
-/
theorem run_leaves_orderly_mechanisms
    {operations : List (Operation Float)}
    {exactOperations : List (Operation K)}
    (noDocument : ∀ document, .load document ∉ operations)
    (noExactDocument : ∀ document, .load document ∉ exactOperations) :
    (∀ mechanism ∈ (empty.run operations).mechanisms,
        mechanism.Orderly ∧
          ∀ body ∈ mechanism.bodies, body.joint.HasFiniteAxis) ∧
      ∀ mechanism ∈ (empty.run exactOperations).mechanisms,
        mechanism.Orderly ∧
          ∀ body ∈ mechanism.bodies, body.joint.HasUnitAxis := by
  constructor
  · intro mechanism member
    have built := built_of_mem_run noDocument member
    exact ⟨built.orderly, built.hasFiniteAxis⟩
  · intro mechanism member
    have built := built_of_mem_run noExactDocument member
    exact ⟨built.orderly, built.hasUnitAxis⟩

end Axes

/--
A lift with an oblique axis, a body that is refused because of its name, and a
copy that gets a hook.
-/
def liftAndTwin
    {K : Type} [Zero K] [One K] : List (Operation K) :=
  [.create,
    .attach 0 "lift" .world (.prismatic ⟨0, 1, 1⟩) .identity,
    .attach 0 "world" ⟨1⟩ .fixed .identity,
    .copy 0,
    .attach 1 "hook" ⟨1⟩ (.revolute ⟨1, 0, 1⟩) .identity]

/-- The two lifts are orderly; the copy has one body more. -/
theorem run_leaves_orderly_mechanisms_liftAndTwin :
    (empty.run (liftAndTwin (K := Float))).mechanisms.map (·.dofCount) =
        [1, 2] ∧
      (∀ mechanism ∈ (empty.run (liftAndTwin (K := Float))).mechanisms,
        mechanism.Orderly ∧
          ∀ body ∈ mechanism.bodies, body.joint.HasFiniteAxis) ∧
      ∀ mechanism ∈ (empty.run (liftAndTwin (K := ℝ))).mechanisms,
        mechanism.Orderly ∧
          ∀ body ∈ mechanism.bodies, body.joint.HasUnitAxis := by
  have counts :
      (empty.run (liftAndTwin (K := Float))).mechanisms.map
          (·.dofCount) =
        [1, 2] := by
    decide +kernel
  exact
    ⟨counts,
      run_leaves_orderly_mechanisms (by simp [liftAndTwin])
        (by simp [liftAndTwin])⟩

end Linkage.Workspace
