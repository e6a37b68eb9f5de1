import Linkage.Proofs.Mechanism.Attachment
import Linkage.Proofs.Workspace.Orderly
import Linkage.Proofs.Workspace.Revision

namespace Linkage.Workspace

/-!
# Attachments in a workspace

A workspace passes a body on to its mechanism and reports what that reports.  It
may also find that there are too many coordinates to count, but only after more
attachments than there are revisions.  A body that is refused leaves no trace;
one that is attached comes with a revision that no mechanism ever had.
-/

section Refused

variable {K : Type}
variable [Zero K] [Add K] [Sub K] [Mul K] [Div K] [OfScientific K]
variable [NatCast K] [BEq K] [LT K] [DecidableLT K] [Elementary K]

/-- An operation that is refused changes nothing. -/
theorem perform_attach_of_error
    {workspace : Workspace K}
    {identity : Nat}
    {name : String}
    {parent : FrameId}
    {joint : Joint K}
    {offset : Pose K}
    {failure : AttachFailure K}
    (refused :
      workspace.attach identity name parent joint offset =
        .error failure) :
    workspace.perform (.attach identity name parent joint offset) =
      workspace := by
  simp [perform, attempt, refused]

end Refused

variable {workspace : Workspace Float}
variable {identity : Nat}
variable {mechanism : Mechanism Float}

/-- A workspace looks at a body as its mechanism does. -/
theorem attach_inOrder
    (found : workspace.mechanism? identity = some mechanism)
    (free : workspace.isPinned identity = false)
    (countable : mechanism.dofCount + 1 < coordinateLimit)
    (name : String)
    (parent : FrameId)
    (joint : Joint Float)
    (offset : Pose Float) :
    AttachesInOrder AttachFailure.refused
      (workspace.attach identity name parent joint offset)
      mechanism name parent joint offset := by
  obtain ⟨slot, slotFound, rfl⟩ := Option.map_eq_some_iff.mp found
  have unpinned : slot.pinned = false := by
    simpa [isPinned, slotFound] using free
  have looks :=
    slot.mechanism.attach_inOrder workspace.freshRevision
      name parent joint offset
  have passedOn :
      ∀ {refusal : Refusal Float},
        slot.mechanism.attach workspace.freshRevision
            name parent joint offset =
          .error refusal →
        workspace.attach identity name parent joint offset =
          .error (.refused refusal) := by
    intro refusal refused
    simp [attach, slotFound, unpinned, refused]
  refine .of_looks (fun _ _ => AttachFailure.refused.inj) ?_ ?_ ?_ ?_ ?_
  · intro outside
    exact passedOn (looks.parent_iff.mpr outside)
  · intro inside taken
    exact passedOn (looks.name_iff.mpr ⟨inside, taken⟩)
  · intro inside free noDirection
    exact passedOn (looks.axis_iff.mpr ⟨inside, free, noDirection⟩)
  · intro inside free direction infinite
    exact
      passedOn (looks.offset_iff.mpr ⟨inside, free, direction, infinite⟩)
  · intro inside free direction finite
    obtain ⟨⟨larger, frame⟩, accepted⟩ :=
      looks.accepted_iff.mpr ⟨inside, free, direction, finite⟩
    have counted : larger.dofCount < coordinateLimit := by
      obtain ⟨_, _, _, unitJoint, _, rfl, _⟩ :=
        Mechanism.attach_eq_ok_iff.mp accepted
      exact
        Nat.lt_of_le_of_lt
          (Nat.add_le_add_left unitJoint.freedom_le_one _) countable
    let slots :=
      workspace.slots.set identity { slot with mechanism := larger }
    exact
      ⟨(⟨slots, workspace.drawn + 1⟩, frame), by
        simp [attach, slotFound, unpinned, accepted, counted, slots]⟩

/--
A mechanism that no document brought accepts exactly the bodies that fit.  If a
body does not fit, the first reason is reported and nothing changes.  If it
fits, it becomes the last frame; the bodies before it stay, the coordinate of
its joint is added, other mechanisms stay as they are, and the revision is one
that no mechanism ever had, as long as revisions do not start again.
-/
theorem attach_accepts_exactly_what_fits
    {operations : List (Operation Float)}
    (noDocument : ∀ document, .load document ∉ operations)
    (reached : workspace = empty.run operations)
    (found : workspace.mechanism? identity = some mechanism)
    (free : workspace.isPinned identity = false)
    (name : String)
    (parent : FrameId)
    (joint : Joint Float)
    (offset : Pose Float) :
    (∀ freshRevision,
      AttachesInOrder id
        (mechanism.attach freshRevision name parent joint offset)
        mechanism name parent joint offset) ∧
      (workspace.drawn < revisionLimit →
        AttachesInOrder AttachFailure.refused
          (workspace.attach identity name parent joint offset)
          mechanism name parent joint offset) ∧
      (∀ failure,
        workspace.attach identity name parent joint offset =
          .error failure →
        workspace.perform (.attach identity name parent joint offset) =
          workspace) ∧
      ∀ {grown : Workspace Float} {frame : FrameId},
        workspace.attach identity name parent joint offset =
          .ok (grown, frame) →
        workspace.perform (.attach identity name parent joint offset) =
            grown ∧
          frame.index = mechanism.frameCount ∧
          (∀ other, other ≠ identity →
            grown.mechanism? other = workspace.mechanism? other) ∧
          ∃ larger : Mechanism Float,
            grown.mechanism? identity = some larger ∧
              mechanism.EnlargedBy larger name parent joint offset ∧
              (grown.drawn < revisionLimit →
                ∀ earlier, earlier <+: operations →
                  ∀ old ∈ (empty.run earlier).mechanisms,
                    old.revision < larger.revision) := by
  refine ⟨?_, ?_, fun _ refused => perform_attach_of_error refused, ?_⟩
  · intro freshRevision
    exact mechanism.attach_inOrder freshRevision name parent joint offset
  · intro few
    have member := mem_mechanisms_of_found found
    rw [reached] at member few
    have below := dofCount_lt_drawn_of_mem_run noDocument member
    exact
      attach_inOrder found free (Nat.lt_of_le_of_lt below few)
        name parent joint offset
  · intro grown frame accepted
    obtain ⟨smaller, larger, smallerFound, enlarged, replaced, counted⟩ :=
      attach_eq_ok accepted
    rw [mechanism?_eq_getElem?, smallerFound] at found
    obtain rfl := Option.some.inj found
    obtain ⟨enlargedBy, last⟩ := Mechanism.enlargedBy_of_attach enlarged
    refine
      ⟨by simp [perform, attempt, accepted], last, ?_, larger, ?_,
        enlargedBy, ?_⟩
    · intro other elsewhere
      rw [mechanism?_eq_getElem?, mechanism?_eq_getElem?, replaced,
        List.getElem?_set_ne elsewhere.symm]
    · rw [mechanism?_eq_getElem?, replaced,
        List.getElem?_set_self
          (List.getElem?_eq_some_iff.mp smallerFound).1]
    · intro few earlier before old oldMember
      have stamp :=
        stamp_eq few counted (Mechanism.revision_of_attach enlarged)
      have drawnFew : (empty.run operations).drawn < revisionLimit := by
        rw [← reached]
        omega
      have bound := revision_le_of_earlier drawnFew before oldMember
      rw [← reached] at bound
      omega

/--
To the lift no body is attached that hangs from an unknown frame, or has the
name of the lift, or an axis too long to have a length, or an offset that is not
a number, in this order; a hook is.
-/
theorem attach_accepts_exactly_what_fits_lift :
    (empty.run liftMade).mechanism? 0 = some lift ∧
      (empty.run liftMade).isPinned 0 = false ∧
      (empty.run liftMade).attach 0 "lift" ⟨2⟩ (.revolute 0) .identity =
        .error (.refused (.frameNotFound ⟨2⟩)) ∧
      (empty.run liftMade).attach 0 "lift" ⟨1⟩ (.revolute 0) .identity =
        .error (.refused (.duplicateFrameName "lift")) ∧
      (empty.run liftMade).attach 0 "hook" ⟨1⟩
          (.revolute ⟨1e200, 0, 0⟩) ⟨⟨0 / 0, 0, 0⟩, .identity⟩ =
        .error (.refused (.invalidAxis "hook")) ∧
      (empty.run liftMade).attach 0 "hook" ⟨1⟩ .fixed
          ⟨⟨0 / 0, 0, 0⟩, .identity⟩ =
        .error (.refused (.invalidConfiguration (.offset "hook"))) ∧
      ∃ grown frame larger,
        (empty.run liftMade).attach 0 "hook" ⟨1⟩
            (.revolute ⟨0, 0, 3⟩) .identity =
          .ok (grown, frame) ∧
        frame.index = 2 ∧
        grown.mechanism? 0 = some larger ∧
        larger.dofCount = 2 ∧ lift.revision < larger.revision := by
  have noDocument : ∀ document, .load document ∉ liftMade := by
    simp [liftMade]
  have made : (empty.run liftMade).mechanism? 0 = some lift := by
    decide +kernel
  have free : (empty.run liftMade).isPinned 0 = false := by
    decide +kernel
  have few : (empty.run liftMade).drawn < revisionLimit := by
    decide +kernel
  have looks :=
    fun name parent joint offset =>
      (attach_accepts_exactly_what_fits noDocument rfl made free
        name parent joint offset).2.1 few
  have inside : (⟨1⟩ : FrameId).index < lift.frameCount := by decide
  have fresh : "hook" ∉ lift.frameNames := by decide +kernel
  have endless :
      ¬ (Joint.revolute (⟨1e200, 0, 0⟩ : Vec3 Float)).HasDirection := by
    intro direction
    have finite := (direction rfl).1
    revert finite
    decide +kernel
  have noAxis : (Joint.fixed : Joint Float).HasDirection := by
    rintro axis ⟨⟩
  have upward :
      (Joint.revolute (⟨0, 0, 3⟩ : Vec3 Float)).HasDirection := by
    rintro axis ⟨⟩
    decide +kernel
  have undefined :
      ∃ number ∈ (⟨⟨0 / 0, 0, 0⟩, .identity⟩ : Pose Float).numbers,
        number.isFinite = false :=
    ⟨0 / 0, .head _, by decide +kernel⟩
  have finite :
      ∀ number ∈ (.identity : Pose Float).numbers,
        number.isFinite = true := by
    decide +kernel
  obtain ⟨⟨grown, frame⟩, accepted⟩ :=
    (looks "hook" ⟨1⟩ (.revolute ⟨0, 0, 3⟩) .identity).accepted_iff.mpr
      ⟨inside, fresh, upward, finite⟩
  obtain ⟨_, last, _, larger, largerFound, enlarged, newer⟩ :=
    (attach_accepts_exactly_what_fits noDocument rfl made free
      "hook" ⟨1⟩ (.revolute ⟨0, 0, 3⟩) .identity).2.2.2 accepted
  have drawn : grown.drawn < revisionLimit := by
    obtain ⟨_, _, _, _, _, counted⟩ := attach_eq_ok accepted
    rw [counted]
    decide +kernel
  have member := mem_mechanisms_of_found made
  exact
    ⟨made, free,
      (looks "lift" ⟨2⟩ (.revolute 0) .identity).parent_iff.mpr
        (by decide),
      (looks "lift" ⟨1⟩ (.revolute 0) .identity).name_iff.mpr
        ⟨inside, by decide +kernel⟩,
      (looks "hook" ⟨1⟩ (.revolute ⟨1e200, 0, 0⟩)
          ⟨⟨0 / 0, 0, 0⟩, .identity⟩).axis_iff.mpr
        ⟨inside, fresh, endless⟩,
      (looks "hook" ⟨1⟩ .fixed
          ⟨⟨0 / 0, 0, 0⟩, .identity⟩).offset_iff.mpr
        ⟨inside, fresh, noAxis, undefined⟩,
      grown, frame, larger, accepted, last, largerFound,
      enlarged.dofCount,
      newer drawn liftMade (List.prefix_refl _) lift member⟩

end Linkage.Workspace
