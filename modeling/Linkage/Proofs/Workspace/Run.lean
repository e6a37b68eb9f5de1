import Mathlib.Data.List.Basic
import Linkage.Proofs.Mechanism.Structure
import Linkage.Workspace

namespace Linkage.Workspace

/-!
# Runs of a workspace

A run performs operations one after another; one that is refused leaves the
workspace as it is.  Whatever the operation, only a few things can happen to
the mechanisms, and `Change` lists them with all they say about the mechanisms
and the revisions drawn.  Every invariant of runs is proved from that list.
-/

variable {K : Type}

/-- The mechanisms, in the order of their identities. -/
def mechanisms
    (workspace : Workspace K) : List (Mechanism K) :=
  workspace.slots.map (·.mechanism)

/-- An identity is a place among the mechanisms. -/
theorem mechanism?_eq_getElem?
    (workspace : Workspace K)
    (identity : Nat) :
    workspace.mechanism? identity = workspace.mechanisms[identity]? := by
  simp [mechanism?, mechanisms]

/-- What is found under an identity is one of the mechanisms. -/
theorem mem_mechanisms_of_found
    {workspace : Workspace K}
    {identity : Nat}
    {mechanism : Mechanism K}
    (found : workspace.mechanism? identity = some mechanism) :
    mechanism ∈ workspace.mechanisms := by
  rw [mechanism?_eq_getElem?] at found
  exact List.mem_of_getElem? found

@[simp] theorem mechanisms_empty :
    (empty : Workspace K).mechanisms = [] := rfl

@[simp] theorem drawn_empty :
    (empty : Workspace K).drawn = 0 := rfl

@[simp] theorem mechanisms_place
    (workspace : Workspace K)
    (mechanism : Mechanism K) :
    (workspace.place mechanism).1.mechanisms =
      workspace.mechanisms ++ [mechanism] := by
  simp [place, mechanisms]

@[simp] theorem drawn_place
    (workspace : Workspace K)
    (mechanism : Mechanism K) :
    (workspace.place mechanism).1.drawn = workspace.drawn := rfl

/-- Writing the entry that is there changes nothing. -/
theorem set_of_getElem?
    {α : Type}
    {items : List α}
    {index : Nat}
    {item : α}
    (found : items[index]? = some item) :
    items.set index item = items := by
  obtain ⟨inside, rfl⟩ := List.getElem?_eq_some_iff.mp found
  exact List.set_getElem_self inside

/-- A slot that is replaced brings its mechanism. -/
theorem mechanisms_set
    (workspace : Workspace K)
    (identity : Nat)
    (slot : Slot K) :
    (workspace.slots.set identity slot).map (·.mechanism) =
      workspace.mechanisms.set identity slot.mechanism := by
  rw [List.map_set, mechanisms]

/-- An operation on a workspace, with what its caller provides. -/
inductive Operation (K : Type) where
  | create
  | copy (identity : Nat)
  | load (document : Document K)
  | attach
      (identity : Nat)
      (name : String)
      (parent : FrameId)
      (joint : Joint K)
      (offset : Pose K)
  | pin (identity : Nat)
  deriving Repr

section Operations

variable [Zero K] [Add K] [Sub K] [Mul K] [Div K] [OfScientific K]
variable [BEq K] [LT K] [DecidableLT K] [Elementary K]

/-- An accepted attachment enlarges the mechanism with that identity. -/
theorem attach_eq_ok
    {before after : Workspace K}
    {identity : Nat}
    {name : String}
    {parent frame : FrameId}
    {joint : Joint K}
    {offset : Pose K}
    (accepted :
      before.attach identity name parent joint offset =
        .ok (after, frame)) :
    ∃ mechanism larger,
      before.mechanisms[identity]? = some mechanism ∧
        mechanism.attach before.freshRevision name parent joint offset =
          .ok (larger, frame) ∧
        after.mechanisms = before.mechanisms.set identity larger ∧
        after.drawn = before.drawn + 1 := by
  unfold attach at accepted
  split at accepted
  · cases accepted
  · rename_i slot found
    split at accepted
    · cases accepted
    · split at accepted
      · cases accepted
      · rename_i larger newFrame enlarged
        split at accepted
        · cases accepted
          refine ⟨slot.mechanism, larger, ?_, enlarged, ?_, rfl⟩
          · simp [mechanisms, found]
          · exact mechanisms_set before identity _
        · cases accepted

variable [NatCast K]

/-- The workspace after an operation, if the operation is accepted. -/
def attempt
    (workspace : Workspace K) :
    Operation K → Option (Workspace K)
  | .create => some workspace.create.1
  | .copy identity => (workspace.copy identity).map (·.1)
  | .load document => (workspace.load document).map (·.1)
  | .attach identity name parent joint offset =>
      match workspace.attach identity name parent joint offset with
      | .ok (grown, _) => some grown
      | .error _ => none
  | .pin identity => (workspace.pin identity).map (·.1)

/-- Perform an operation.  One that is refused changes nothing. -/
def perform
    (workspace : Workspace K)
    (operation : Operation K) : Workspace K :=
  (workspace.attempt operation).getD workspace

/-- Perform operations in order. -/
def run
    (workspace : Workspace K)
    (operations : List (Operation K)) : Workspace K :=
  operations.foldl perform workspace

@[simp] theorem run_nil (workspace : Workspace K) :
    workspace.run [] = workspace := rfl

@[simp] theorem run_cons
    (workspace : Workspace K)
    (operation : Operation K)
    (rest : List (Operation K)) :
    workspace.run (operation :: rest) =
      (workspace.perform operation).run rest := rfl

/-- A run can be interrupted anywhere. -/
theorem run_append
    (workspace : Workspace K)
    (first rest : List (Operation K)) :
    workspace.run (first ++ rest) = (workspace.run first).run rest :=
  List.foldl_append

/-- What an operation can do to the mechanisms and the revisions drawn. -/
inductive Change
    (before after : Workspace K) : Operation K → Prop where
  /-- The operation was refused, or only pinned. -/
  | kept
      {operation : Operation K} :
      after.mechanisms = before.mechanisms →
      after.drawn = before.drawn →
      Change before after operation
  /-- A copy is added; it draws no revision. -/
  | copied
      {identity : Nat}
      {mechanism : Mechanism K} :
      before.mechanisms[identity]? = some mechanism →
      after.mechanisms = before.mechanisms ++ [mechanism] →
      after.drawn = before.drawn →
      Change before after (.copy identity)
  /-- The world alone is added under a new revision. -/
  | created :
      after.mechanisms =
        before.mechanisms ++ [.empty before.freshRevision] →
      after.drawn = before.drawn + 1 →
      Change before after .create
  /-- What a document says is added under a new revision. -/
  | loaded
      {document : Document K}
      {mechanism : Mechanism K} :
      Mechanism.ofDocument? before.freshRevision document =
        some mechanism →
      after.mechanisms = before.mechanisms ++ [mechanism] →
      after.drawn = before.drawn + 1 →
      Change before after (.load document)
  /-- A mechanism accepts a body and gets a new revision. -/
  | grown
      {identity : Nat}
      {name : String}
      {parent frame : FrameId}
      {joint : Joint K}
      {offset : Pose K}
      {mechanism larger : Mechanism K} :
      before.mechanisms[identity]? = some mechanism →
      mechanism.attach before.freshRevision name parent joint offset =
        .ok (larger, frame) →
      after.mechanisms = before.mechanisms.set identity larger →
      after.drawn = before.drawn + 1 →
      Change before after (.attach identity name parent joint offset)

/-- An operation that is accepted does one of the things listed. -/
theorem change_of_attempt
    {before after : Workspace K}
    {operation : Operation K}
    (accepted : before.attempt operation = some after) :
    Change before after operation := by
  cases operation with
  | create =>
      cases accepted
      exact .created (mechanisms_place _ _) rfl
  | copy identity =>
      obtain ⟨result, copied, rfl⟩ := Option.map_eq_some_iff.mp accepted
      obtain ⟨mechanism, found, rfl⟩ := Option.map_eq_some_iff.mp copied
      rw [mechanism?_eq_getElem?] at found
      exact .copied found (mechanisms_place _ _) rfl
  | load document =>
      obtain ⟨result, loaded, rfl⟩ := Option.map_eq_some_iff.mp accepted
      obtain ⟨mechanism, read, rfl⟩ := Option.map_eq_some_iff.mp loaded
      exact .loaded read (mechanisms_place _ _) rfl
  | attach identity name parent joint offset =>
      rw [attempt] at accepted
      split at accepted
      · rename_i grown frame attached
        cases accepted
        obtain ⟨mechanism, larger, found, enlarged, replaced, counted⟩ :=
          attach_eq_ok attached
        exact .grown found enlarged replaced counted
      · cases accepted
  | pin identity =>
      obtain ⟨result, pinned, rfl⟩ := Option.map_eq_some_iff.mp accepted
      obtain ⟨slot, found, rfl⟩ := Option.map_eq_some_iff.mp pinned
      have same : before.mechanisms[identity]? = some slot.mechanism := by
        simp [mechanisms, found]
      exact
        .kept ((mechanisms_set _ _ _).trans (set_of_getElem? same)) rfl

/-- Every operation does one of the things listed. -/
theorem change_perform
    (workspace : Workspace K)
    (operation : Operation K) :
    Change workspace (workspace.perform operation) operation := by
  unfold perform
  cases attempted : workspace.attempt operation with
  | none =>
      exact .kept rfl rfl
  | some after =>
      exact change_of_attempt attempted

/-- An identity keeps its mechanism, or the mechanism there accepts a body. -/
theorem Change.stays_or_grows
    {before after : Workspace K}
    {operation : Operation K}
    (change : Change before after operation)
    {identity : Nat}
    {mechanism : Mechanism K}
    (found : before.mechanisms[identity]? = some mechanism) :
    after.mechanisms[identity]? = some mechanism ∨
      ∃ (larger : Mechanism K) (name : String) (parent frame : FrameId)
        (joint : Joint K) (offset : Pose K),
        after.mechanisms[identity]? = some larger ∧
          mechanism.attach before.freshRevision name parent joint offset =
            .ok (larger, frame) ∧
          after.drawn = before.drawn + 1 := by
  have inside := (List.getElem?_eq_some_iff.mp found).1
  have kept :
      ∀ {added : List (Mechanism K)},
        after.mechanisms = before.mechanisms ++ added →
        after.mechanisms[identity]? = some mechanism := by
    intro added shape
    rw [shape, List.getElem?_append_left inside, found]
  cases change with
  | kept same _ =>
      exact .inl (by rw [same, found])
  | copied _ added _ =>
      exact .inl (kept added)
  | created added _ =>
      exact .inl (kept added)
  | loaded _ added _ =>
      exact .inl (kept added)
  | @grown grownIdentity _ _ _ _ _ _ larger grownFound enlarged replaced
      counted =>
      by_cases isGrown : grownIdentity = identity
      · subst isGrown
        rw [grownFound] at found
        obtain rfl := Option.some.inj found
        refine .inr ⟨larger, _, _, _, _, _, ?_, enlarged, counted⟩
        rw [replaced, List.getElem?_set_self inside]
      · refine .inl ?_
        rw [replaced, List.getElem?_set_ne isGrown, found]

end Operations

end Linkage.Workspace
