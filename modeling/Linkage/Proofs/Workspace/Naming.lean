import Linkage.Proofs.Mechanism.Naming
import Linkage.Proofs.Workspace.Orderly
import Linkage.Proofs.Workspace.Revision

namespace Linkage.Workspace

/-!
# Names in a workspace

Frames and names stand for each other in every mechanism that no document
brought, because no attachment accepts a name twice.  What an attachment returns
stands for the body that was attached from then on: a mechanism only grows at
its end, and a copy starts as what it was copied from.
-/

variable {K : Type}
variable [Zero K] [Add K] [Sub K] [Mul K] [Div K] [OfScientific K]
variable [NatCast K] [BEq K] [LT K] [DecidableLT K] [Elementary K]

/-- An operation leaves the beginning of every mechanism as it was. -/
theorem Change.keeps_beginning
    {before after : Workspace K}
    {operation : Operation K}
    (change : Change before after operation)
    {identity : Nat}
    {mechanism : Mechanism K}
    (found : before.mechanisms[identity]? = some mechanism) :
    ∃ present,
      after.mechanisms[identity]? = some present ∧
        present.BeginsAs mechanism := by
  rcases change.stays_or_grows found with
    stays | ⟨larger, _, _, _, _, _, grows, enlarged, _⟩
  · exact ⟨mechanism, stays, .refl mechanism⟩
  · exact ⟨larger, grows, (Mechanism.attach_beginsAs enlarged).1⟩

/-- A run leaves the beginning of every mechanism as it was. -/
theorem keeps_beginning_run
    {workspace : Workspace K}
    (operations : List (Operation K))
    {identity : Nat}
    {mechanism : Mechanism K}
    (found : workspace.mechanisms[identity]? = some mechanism) :
    ∃ present,
      (workspace.run operations).mechanisms[identity]? = some present ∧
        present.BeginsAs mechanism := by
  induction operations generalizing workspace mechanism with
  | nil =>
      exact ⟨mechanism, found, .refl mechanism⟩
  | cons operation rest inductionHypothesis =>
      obtain ⟨larger, largerFound, begins⟩ :=
        (change_perform workspace operation).keeps_beginning found
      obtain ⟨present, presentFound, later⟩ :=
        inductionHypothesis largerFound
      exact ⟨present, presentFound, later.trans begins⟩

/--
The identities that stem from one after a run: that identity itself, and those
of the copies that were made on the way of whatever stemmed from it.
-/
inductive Stems
    (past : Workspace K)
    (identity : Nat) : List (Operation K) → Nat → Prop where
  | own (later : List (Operation K)) :
      Stems past identity later identity
  | copied
      {later : List (Operation K)}
      {source copy : Nat}
      {grown : Workspace K} :
      Stems past identity later source →
      (past.run later).copy source = some (grown, copy) →
      ∀ late : List (Operation K),
        Stems past identity (later ++ .copy source :: late) copy

/-- What stems from a mechanism begins as that mechanism was. -/
theorem Stems.beginsAs
    {past : Workspace K}
    {identity heir : Nat}
    {later : List (Operation K)}
    (stems : past.Stems identity later heir)
    {mechanism : Mechanism K}
    (found : past.mechanisms[identity]? = some mechanism) :
    ∃ present,
      (past.run later).mechanisms[heir]? = some present ∧
        present.BeginsAs mechanism := by
  induction stems with
  | own later =>
      exact keeps_beginning_run later found
  | @copied later source copy grown _ copied late inductionHypothesis =>
      obtain ⟨original, originalFound, begins⟩ := inductionHypothesis
      obtain ⟨other, otherFound, placed⟩ :=
        Option.map_eq_some_iff.mp copied
      rw [mechanism?_eq_getElem?, originalFound] at otherFound
      obtain rfl := Option.some.inj otherFound
      have performed :
          (past.run later).perform (.copy source) = grown := by
        simp [perform, attempt, copied]
      have copyFound : grown.mechanisms[copy]? = some original := by
        rw [← mechanism?_eq_getElem?]
        have last := mechanism?_place (past.run later) original
        rwa [placed] at last
      obtain ⟨present, presentFound, laterBegins⟩ :=
        keeps_beginning_run late copyFound
      refine ⟨present, ?_, laterBegins.trans begins⟩
      rw [run_append, run_cons, performed]
      exact presentFound

/--
After any attachments, accepted or refused, and any copies, names and frames are
inverse to each other: the frame that is found by a name is the one that has it;
no frame is found exactly if none has it, and this is the only refusal; and the
frames with a name are the frames there are.  A frame that an attachment has
returned keeps its name and its body in the mechanism and in all its copies.
-/
theorem names_and_frames_are_inverse
    {operations : List (Operation K)}
    (noDocument : ∀ document, .load document ∉ operations) :
    (∀ mechanism ∈ (empty.run operations).mechanisms,
        (∀ name frame,
          mechanism.frameNamed name = .ok frame ↔
            mechanism.frameName? frame = some name) ∧
          (∀ name refusal,
            mechanism.frameNamed name = .error refusal ↔
              refusal = .frameNameNotFound name ∧
                ∀ frame, mechanism.frameName? frame ≠ some name) ∧
          ∀ frame,
            (mechanism.frameName? frame).isSome = true ↔
              mechanism.contains frame = true) ∧
      ∀ {earlier later : List (Operation K)} {identity heir : Nat}
        {name : String} {parent frame : FrameId} {joint : Joint K}
        {offset : Pose K} {grown : Workspace K},
        operations =
          earlier ++ .attach identity name parent joint offset :: later →
        (empty.run earlier).attach identity name parent joint offset =
          .ok (grown, frame) →
        grown.Stems identity later heir →
        ∃ (larger mechanism : Mechanism K) (body : Body K),
          grown.mechanism? identity = some larger ∧
            larger.body? frame = some body ∧
            body.name = name ∧
            body.parent = parent ∧
            joint.normalize? = some body.joint ∧
            body.offset = offset ∧
            (empty.run operations).mechanism? heir = some mechanism ∧
            mechanism.body? frame = some body ∧
            mechanism.frameName? frame = some name ∧
            mechanism.frameNamed name = .ok frame := by
  have distinct :
      ∀ mechanism ∈ (empty.run operations).mechanisms,
        mechanism.frameNames.Nodup := by
    intro mechanism member
    exact (built_of_mem_run noDocument member).frameNames_nodup
  constructor
  · intro mechanism member
    refine ⟨?_, ?_, ?_⟩
    · intro name frame
      exact Mechanism.frameNamed_eq_ok_iff (distinct mechanism member)
    · intro name refusal
      exact Mechanism.frameNamed_eq_error_iff
    · intro frame
      exact Mechanism.isSome_frameName?_iff
  · intro earlier later identity heir name parent frame joint offset grown
      split attached stems
    obtain ⟨smaller, larger, smallerFound, enlarged, replaced, _⟩ :=
      attach_eq_ok attached
    have inside := (List.getElem?_eq_some_iff.mp smallerFound).1
    have largerFound : grown.mechanisms[identity]? = some larger := by
      rw [replaced, List.getElem?_set_self inside]
    obtain ⟨mechanism, found, begins⟩ := stems.beginsAs largerFound
    obtain ⟨body, bodyFound, rfl, hasParent, normalized, hasOffset⟩ :=
      Mechanism.body?_of_attach enlarged
    have performed :
        (empty.run earlier).perform
            (.attach identity body.name parent joint offset) =
          grown := by
      simp [perform, attempt, attached]
    have reached : empty.run operations = grown.run later := by
      rw [split, run_append, run_cons, performed]
    have bodyStays := begins.body? bodyFound
    have hasName := Mechanism.frameName?_of_body? bodyStays
    have member : mechanism ∈ (empty.run operations).mechanisms := by
      rw [reached]
      exact List.mem_of_getElem? found
    refine
      ⟨larger, mechanism, body, ?_, bodyFound, rfl, hasParent, normalized,
        hasOffset, ?_, bodyStays, hasName, ?_⟩
    · rw [mechanism?_eq_getElem?, largerFound]
    · rw [mechanism?_eq_getElem?, reached, found]
    · exact
        (Mechanism.frameNamed_eq_ok_iff (distinct mechanism member)).mpr
          hasName

/--
The lift is made, refuses a second world, is copied, and only then gets a hook.
-/
def liftHookedLate : List (Operation Float) :=
  liftMade ++ .attach 0 "world" .world .fixed .identity :: liftEnlarged

/-- The last call of those that make the lift returns its frame. -/
theorem attach_lift_eq_ok :
    ((empty : Workspace Float).run [.create]).attach 0 "lift" .world
        (.prismatic ⟨0, 0, 2⟩) .identity =
      .ok (empty.run liftMade, ⟨1⟩) := by
  have returned :
      (((empty : Workspace Float).run [.create]).attach 0 "lift" .world
          (.prismatic ⟨0, 0, 2⟩) .identity).toOption.map (·.2) =
        some ⟨1⟩ := by
    decide +kernel
  have calls :
      liftMade =
        [.create] ++
          [.attach 0 "lift" .world (.prismatic ⟨0, 0, 2⟩) .identity] := rfl
  cases attached :
      ((empty : Workspace Float).run [.create]).attach 0 "lift" .world
        (.prismatic ⟨0, 0, 2⟩) .identity with
  | error failure =>
      rw [attached] at returned
      cases returned
  | ok result =>
      obtain ⟨grown, frame⟩ := result
      rw [attached] at returned
      obtain rfl : frame = ⟨1⟩ := Option.some.inj returned
      have performed :
          ((empty : Workspace Float).run [.create]).perform
              (.attach 0 "lift" .world (.prismatic ⟨0, 0, 2⟩)
                .identity) =
            grown := by
        rw [perform, attempt, attached]
        rfl
      rw [calls, run_append, run_cons, run_nil, performed]

/--
The lift and its copy find the body of the lift by its name and by its frame;
the copy has no hook.
-/
theorem names_and_frames_are_inverse_liftHookedLate :
    (empty.run liftHookedLate).mechanism? 1 = some lift ∧
      (∀ name frame,
        lift.frameNamed name = .ok frame ↔
          lift.frameName? frame = some name) ∧
      lift.frameNamed "hook" = .error (.frameNameNotFound "hook") ∧
      (∀ frame, lift.frameName? frame ≠ some "hook") ∧
      (lift.frameName? ⟨1⟩).isSome = true ∧
      ¬ (lift.frameName? ⟨2⟩).isSome = true ∧
      ∃ (hooked : Mechanism Float) (body : Body Float),
        (empty.run liftHookedLate).mechanism? 0 = some hooked ∧
          hooked.body? ⟨1⟩ = some body ∧
          hooked.frameNamed "lift" = .ok ⟨1⟩ ∧
          lift.body? ⟨1⟩ = some body ∧
          lift.frameNamed "lift" = .ok ⟨1⟩ ∧
          body.name = "lift" := by
  have noDocument : ∀ document, .load document ∉ liftHookedLate := by
    simp [liftHookedLate, liftMade, liftEnlarged]
  have copied : (empty.run liftHookedLate).mechanism? 1 = some lift := by
    decide +kernel
  have twin :
      (((empty.run liftMade).run
          [.attach 0 "world" .world .fixed .identity]).copy 0).map (·.2) =
        some 1 := by
    decide +kernel
  obtain ⟨⟨_, copy⟩, copyMade, rfl⟩ := Option.map_eq_some_iff.mp twin
  have split :
      liftHookedLate =
        [.create] ++
          .attach 0 "lift" .world (.prismatic ⟨0, 0, 2⟩) .identity ::
            ([.attach 0 "world" .world .fixed .identity] ++
              .copy 0 :: [.attach 0 "hook" ⟨1⟩ .fixed .identity]) := rfl
  obtain ⟨inverse, stays⟩ := names_and_frames_are_inverse noDocument
  obtain ⟨found, notFound, isFrame⟩ :=
    inverse lift (mem_mechanisms_of_found copied)
  obtain ⟨larger, hooked, body, largerFound, bodyFound, isLift, _, _, _,
      hookedFound, hookedBody, _, hookedNamed⟩ :=
    stays split attach_lift_eq_ok (.own _)
  obtain ⟨sameLarger, copyLift, sameBody, sameFound, sameBodyFound, _, _,
      _, _, copyFound, copyBody, _, copyNamed⟩ :=
    stays split attach_lift_eq_ok (.copied (.own _) copyMade _)
  rw [largerFound] at sameFound
  obtain rfl := Option.some.inj sameFound
  rw [bodyFound] at sameBodyFound
  obtain rfl := Option.some.inj sameBodyFound
  rw [copied] at copyFound
  obtain rfl := Option.some.inj copyFound
  have noHook :
      lift.frameNamed "hook" = .error (.frameNameNotFound "hook") := by
    rfl
  exact
    ⟨copied, found, noHook, ((notFound _ _).mp noHook).2,
      (isFrame ⟨1⟩).mpr rfl, (isFrame ⟨2⟩).not.mpr (by decide),
      hooked, body, hookedFound, hookedBody, hookedNamed, copyBody,
      copyNamed, isLift⟩

end Linkage.Workspace
