import Linkage.Mechanism.Query
import Linkage.Number.Binary64
import Linkage.Proofs.Mechanism.Sweep
import Linkage.Proofs.Workspace.Run

namespace Linkage

/-!
# Revisions tell mechanisms apart

A snapshot remembers one number of the mechanism it was taken of, and a query
looks at nothing else before it trusts the snapshot.  That is enough as long as
no revision comes back: a revision then belongs to one shape, shared by copies
that were not enlarged since, and whatever is made or enlarged later has a
larger one.
-/

namespace Mechanism

variable {K T : Type}

/-- Every query about the snapshot is turned down as foreign. -/
structure Rejects
    [Zero T] [One T] [Add T] [Sub T] [Mul T]
    (mechanism : Mechanism K)
    (snapshot : Snapshot T) : Prop where
  pointPosition :
    ∀ (frame : FrameId) (point : Vec3 T) (expressedIn : FrameId),
      mechanism.pointPosition snapshot frame point expressedIn =
        .error .foreignSnapshot
  pointJacobian :
    ∀ (frame : FrameId) (point : Vec3 T)
      (measuredIn expressedIn : FrameId),
      mechanism.pointJacobian snapshot frame point measuredIn expressedIn =
        .error .foreignSnapshot
  pointBias :
    ∀ (frame : FrameId) (point : Vec3 T) (expressedIn : FrameId),
      mechanism.pointBias snapshot frame point expressedIn =
        .error .foreignSnapshot

/-- A snapshot is rejected exactly when it has another revision. -/
theorem rejects_iff
    [Zero T] [One T] [Add T] [Sub T] [Mul T]
    {mechanism : Mechanism K}
    {snapshot : Snapshot T} :
    mechanism.Rejects snapshot ↔
      snapshot.revision ≠ mechanism.revision := by
  constructor
  · intro rejects same
    -- A frame that does not exist is only noticed after the revision.
    have unknown :=
      rejects.pointPosition ⟨mechanism.frameCount⟩ 0 .world
    have accepted : mechanism.checkSnapshot snapshot = .ok () := by
      rw [checkSnapshot, if_pos same]
    have outside :
        mechanism.checkFrame ⟨mechanism.frameCount⟩ =
          .error
            (.unknownFrame ⟨mechanism.frameCount⟩
              mechanism.frameCount) := by
      simp [checkFrame, contains]
    rw [pointPosition, accepted, outside] at unknown
    cases unknown
  · intro other
    have refused :
        mechanism.checkSnapshot snapshot = .error .foreignSnapshot := by
      rw [checkSnapshot, if_neg other]
    refine ⟨?_, ?_, ?_⟩
    · intro frame point expressedIn
      rw [pointPosition, refused]
      rfl
    · intro frame point measuredIn expressedIn
      rw [pointJacobian, refused]
      rfl
    · intro frame point expressedIn
      rw [pointBias, refused]
      rfl

/-- An attachment stamps what it makes. -/
theorem revision_of_attach
    [Zero K] [Add K] [Sub K] [Mul K] [Div K] [OfScientific K]
    [BEq K] [LT K] [DecidableLT K] [Elementary K]
    {mechanism larger : Mechanism K}
    {freshRevision : Nat}
    {name : String}
    {parent frame : FrameId}
    {joint : Joint K}
    {offset : Pose K}
    (accepted :
      mechanism.attach freshRevision name parent joint offset =
        .ok (larger, frame)) :
    larger.revision = freshRevision := by
  obtain ⟨_, _, _, unitJoint, _, rfl, _⟩ := attach_eq_ok_iff.mp accepted
  rfl

/-- A document is read under the revision given. -/
theorem revision_of_document
    [NatCast K]
    {mechanism : Mechanism K}
    {freshRevision : Nat}
    {document : Document K}
    (read : ofDocument? freshRevision document = some mechanism) :
    mechanism.revision = freshRevision := by
  unfold ofDocument? at read
  split at read
  · rename_i bodies dofCount _
    obtain ⟨bodyList, _, read⟩ := Option.bind_eq_some_iff.mp read
    obtain ⟨count, _, read⟩ := Option.bind_eq_some_iff.mp read
    cases read
    rfl
  · cases read

end Mechanism

namespace Workspace

variable {K : Type}

/-- Until the revisions start again, the next one is new. -/
theorem freshRevision_eq
    {workspace : Workspace K}
    (few : workspace.drawn + 1 < revisionLimit) :
    workspace.freshRevision = workspace.drawn + 1 :=
  Nat.mod_eq_of_lt few

/-- What was stamped by an operation that drew a revision is new. -/
theorem stamp_eq
    {before after : Workspace K}
    (few : after.drawn < revisionLimit)
    (counted : after.drawn = before.drawn + 1)
    {mechanism : Mechanism K}
    (stamp : mechanism.revision = before.freshRevision) :
    mechanism.revision = before.drawn + 1 := by
  rw [counted] at few
  rw [stamp, freshRevision_eq few]

/-- Each revision drawn belongs to one mechanism and its copies. -/
structure Stamped
    (workspace : Workspace K) : Prop where
  revision_le :
    ∀ mechanism ∈ workspace.mechanisms,
      mechanism.revision ≤ workspace.drawn
  eq_of_revision_eq :
    ∀ first ∈ workspace.mechanisms, ∀ second ∈ workspace.mechanisms,
      first.revision = second.revision → first = second

/-- Where there is no mechanism, no revision is shared. -/
theorem stamped_empty :
    (empty : Workspace K).Stamped where
  revision_le := by simp
  eq_of_revision_eq := by simp

section Runs

variable [Zero K] [Add K] [Sub K] [Mul K] [Div K] [OfScientific K]
variable [NatCast K] [BEq K] [LT K] [DecidableLT K] [Elementary K]

namespace Change

variable {before after : Workspace K}
variable {operation : Operation K}

/--
An operation brings no mechanism that was not there, or else one, and it draws
the revision of that one.
-/
theorem none_or_one_new
    (change : Change before after operation) :
    (after.drawn = before.drawn ∧
        ∀ mechanism ∈ after.mechanisms,
          mechanism ∈ before.mechanisms) ∨
      (after.drawn = before.drawn + 1 ∧
        ∃ new : Mechanism K,
          new.revision = before.freshRevision ∧
            ∀ mechanism ∈ after.mechanisms,
              mechanism ∈ before.mechanisms ∨ mechanism = new) := by
  cases change with
  | kept same counted =>
      exact .inl ⟨counted, by simp [same]⟩
  | copied found added counted =>
      have old := List.mem_of_getElem? found
      refine .inl ⟨counted, ?_⟩
      intro mechanism member
      rw [added] at member
      rcases List.mem_append.mp member with earlier | last
      · exact earlier
      · rw [List.mem_singleton.mp last]
        exact old
  | created added counted =>
      refine .inr ⟨counted, .empty before.freshRevision, rfl, ?_⟩
      intro mechanism member
      rw [added] at member
      simpa using member
  | loaded read added counted =>
      refine .inr ⟨counted, _, Mechanism.revision_of_document read, ?_⟩
      intro mechanism member
      rw [added] at member
      simpa using member
  | grown found enlarged replaced counted =>
      refine
        .inr ⟨counted, _, Mechanism.revision_of_attach enlarged, ?_⟩
      intro mechanism member
      rw [replaced] at member
      exact List.mem_or_eq_of_mem_set member

/-- An identity keeps its mechanism or gets one with a later revision. -/
theorem keeps_or_renews
    (change : Change before after operation)
    (few : after.drawn < revisionLimit)
    {identity : Nat}
    {mechanism : Mechanism K}
    (found : before.mechanisms[identity]? = some mechanism) :
    ∃ present,
      after.mechanisms[identity]? = some present ∧
        (present = mechanism ∨ before.drawn < present.revision) := by
  rcases change.stays_or_grows found with
    stays | ⟨larger, _, _, _, _, _, grows, enlarged, counted⟩
  · exact ⟨mechanism, stays, .inl rfl⟩
  · refine ⟨larger, grows, .inr ?_⟩
    rw [stamp_eq few counted (Mechanism.revision_of_attach enlarged)]
    exact Nat.lt_succ_self _

/-- Revisions are only ever drawn. -/
theorem drawn_le
    (change : Change before after operation) :
    before.drawn ≤ after.drawn := by
  rcases change.none_or_one_new with ⟨counted, _⟩ | ⟨counted, _⟩
  · exact Nat.le_of_eq counted.symm
  · rw [counted]
    exact Nat.le_succ _

/-- A mechanism that was not there has a revision that was not drawn. -/
theorem old_or_newer
    (change : Change before after operation)
    (few : after.drawn < revisionLimit)
    {mechanism : Mechanism K}
    (member : mechanism ∈ after.mechanisms) :
    mechanism ∈ before.mechanisms ∨
      before.drawn < mechanism.revision := by
  rcases change.none_or_one_new with
    ⟨_, origin⟩ | ⟨counted, new, stamp, origin⟩
  · exact .inl (origin mechanism member)
  · rcases origin mechanism member with old | rfl
    · exact .inl old
    · rw [stamp_eq few counted stamp]
      exact .inr (Nat.lt_succ_self _)

/-- One operation keeps revisions and mechanisms in step. -/
theorem stamped
    (change : Change before after operation)
    (few : after.drawn < revisionLimit)
    (stamped : before.Stamped) :
    after.Stamped := by
  rcases change.none_or_one_new with
    ⟨counted, origin⟩ | ⟨counted, new, stamp, origin⟩
  · constructor
    · intro mechanism member
      rw [counted]
      exact stamped.revision_le _ (origin _ member)
    · intro first firstMember second secondMember
      exact
        stamped.eq_of_revision_eq _ (origin _ firstMember)
          _ (origin _ secondMember)
  · have newStamp := stamp_eq few counted stamp
    have notOld :
        ∀ mechanism ∈ before.mechanisms,
          mechanism.revision ≠ new.revision := by
      intro mechanism member same
      have bound := stamped.revision_le mechanism member
      omega
    constructor
    · intro mechanism member
      rcases origin mechanism member with old | rfl
      · have bound := stamped.revision_le mechanism old
        omega
      · omega
    · intro first firstMember second secondMember same
      rcases origin first firstMember with firstOld | rfl
      · rcases origin second secondMember with secondOld | rfl
        · exact stamped.eq_of_revision_eq _ firstOld _ secondOld same
        · exact absurd same (notOld first firstOld)
      · rcases origin second secondMember with secondOld | rfl
        · exact absurd same.symm (notOld second secondOld)
        · rfl

end Change

theorem drawn_le_run
    (workspace : Workspace K)
    (operations : List (Operation K)) :
    workspace.drawn ≤ (workspace.run operations).drawn := by
  induction operations generalizing workspace with
  | nil =>
      exact Nat.le_refl _
  | cons operation rest inductionHypothesis =>
      exact
        Nat.le_trans (change_perform workspace operation).drawn_le
          (inductionHypothesis (workspace.perform operation))

/-- A run keeps revisions and mechanisms in step. -/
theorem Stamped.run
    {workspace : Workspace K}
    (stamped : workspace.Stamped)
    (operations : List (Operation K))
    (few : (workspace.run operations).drawn < revisionLimit) :
    (workspace.run operations).Stamped := by
  induction operations generalizing workspace with
  | nil =>
      exact stamped
  | cons operation rest inductionHypothesis =>
      have change := change_perform workspace operation
      have fewNow :=
        Nat.lt_of_le_of_lt
          (drawn_le_run (workspace.perform operation) rest) few
      exact inductionHypothesis (change.stamped fewNow stamped) few

/-- No mechanism there ever was has a revision that was not drawn yet. -/
theorem revision_le_of_earlier
    {operations earlier : List (Operation K)}
    (few : (empty.run operations).drawn < revisionLimit)
    (before : earlier <+: operations)
    {mechanism : Mechanism K}
    (member : mechanism ∈ (empty.run earlier).mechanisms) :
    mechanism.revision ≤ (empty.run operations).drawn := by
  obtain ⟨later, rfl⟩ := before
  rw [run_append] at few ⊢
  have drawnMore := drawn_le_run (empty.run earlier) later
  have fewThen := Nat.lt_of_le_of_lt drawnMore few
  exact
    Nat.le_trans
      ((stamped_empty.run earlier fewThen).revision_le mechanism member)
      drawnMore

/-- What a run brings has a revision that was not drawn before the run. -/
theorem old_or_newer_run
    {workspace : Workspace K}
    {operations : List (Operation K)}
    (few : (workspace.run operations).drawn < revisionLimit)
    {mechanism : Mechanism K}
    (member : mechanism ∈ (workspace.run operations).mechanisms) :
    mechanism ∈ workspace.mechanisms ∨
      workspace.drawn < mechanism.revision := by
  induction operations generalizing workspace with
  | nil =>
      exact .inl member
  | cons operation rest inductionHypothesis =>
      have change := change_perform workspace operation
      have fewNow :=
        Nat.lt_of_le_of_lt
          (drawn_le_run (workspace.perform operation) rest) few
      rcases inductionHypothesis few member with recent | newer
      · exact change.old_or_newer fewNow recent
      · exact .inr (Nat.lt_of_le_of_lt change.drawn_le newer)

/-- A mechanism whose revision is late enough only gets later ones. -/
theorem newer_run
    {workspace : Workspace K}
    (operations : List (Operation K))
    (few : (workspace.run operations).drawn < revisionLimit)
    {bound identity : Nat}
    (drawn : bound ≤ workspace.drawn)
    {mechanism : Mechanism K}
    (found : workspace.mechanisms[identity]? = some mechanism)
    (newer : bound < mechanism.revision) :
    ∃ present,
      (workspace.run operations).mechanisms[identity]? = some present ∧
        bound < present.revision := by
  induction operations generalizing workspace mechanism with
  | nil =>
      exact ⟨mechanism, found, newer⟩
  | cons operation rest inductionHypothesis =>
      have change := change_perform workspace operation
      have fewNow :=
        Nat.lt_of_le_of_lt
          (drawn_le_run (workspace.perform operation) rest) few
      have drawnNow := Nat.le_trans drawn change.drawn_le
      obtain ⟨present, presentFound, rfl | renewed⟩ :=
        change.keeps_or_renews fewNow found
      · exact inductionHypothesis few drawnNow presentFound newer
      · exact
          inductionHypothesis few drawnNow presentFound
            (Nat.lt_of_le_of_lt drawn renewed)

variable {T : Type}
variable [Zero T] [One T] [Add T] [Sub T] [Mul T]

/--
Of the mechanisms after a run, those that accept a snapshot taken before it
are the one it was taken of and its copies.
-/
theorem Stamped.eq_of_accepted
    {past : Workspace K}
    (stamped : past.Stamped)
    {later : List (Operation K)}
    (few : (past.run later).drawn < revisionLimit)
    {origin mechanism : Mechanism K}
    {snapshot : Snapshot T}
    (originMember : origin ∈ past.mechanisms)
    (stamp : snapshot.revision = origin.revision)
    (member : mechanism ∈ (past.run later).mechanisms)
    (accepted : ¬ mechanism.Rejects snapshot) :
    mechanism = origin := by
  have same : snapshot.revision = mechanism.revision :=
    not_not.mp (fun other => accepted (Mechanism.rejects_iff.mpr other))
  have bound := stamped.revision_le origin originMember
  -- Nothing that the run brought has a revision of the past.
  rcases old_or_newer_run few member with old | newer
  · exact
      stamped.eq_of_revision_eq _ old _ originMember
        (same.symm.trans stamp)
  · omega

/--
Once a body was attached under an identity, the mechanism there rejects all
snapshots with an earlier revision.
-/
theorem rejects_after_attach
    {past grown : Workspace K}
    {identity : Nat}
    {name : String}
    {parent frame : FrameId}
    {joint : Joint K}
    {offset : Pose K}
    (attached :
      past.attach identity name parent joint offset = .ok (grown, frame))
    (late : List (Operation K))
    (few : (grown.run late).drawn < revisionLimit)
    {snapshot : Snapshot T}
    (early : snapshot.revision ≤ past.drawn) :
    ∃ mechanism,
      (grown.run late).mechanism? identity = some mechanism ∧
        mechanism.Rejects snapshot := by
  obtain ⟨mechanism, larger, found, enlarged, replaced, counted⟩ :=
    attach_eq_ok attached
  have inside := (List.getElem?_eq_some_iff.mp found).1
  have largerFound : grown.mechanisms[identity]? = some larger := by
    rw [replaced, List.getElem?_set_self inside]
  have fewGrown := Nat.lt_of_le_of_lt (drawn_le_run grown late) few
  have largerStamp :=
    stamp_eq fewGrown counted (Mechanism.revision_of_attach enlarged)
  have newer : past.drawn < larger.revision := by
    rw [largerStamp]
    exact Nat.lt_succ_self _
  have drawnMore : past.drawn ≤ grown.drawn := by
    rw [counted]
    exact Nat.le_succ _
  obtain ⟨present, presentFound, later⟩ :=
    newer_run late few drawnMore largerFound newer
  refine ⟨present, ?_, Mechanism.rejects_iff.mpr (by omega)⟩
  rw [mechanism?_eq_getElem?]
  exact presentFound

variable [One K] [Neg T] [Elementary T] [Constant K T]

/--
A snapshot that any query accepts is the one the mechanism would give now.

The snapshot was taken of a mechanism of the past.  At present mechanisms with
equal revisions have equal shapes, so whichever mechanism does not reject the
snapshot gives the same one at the same state; and the mechanism it was taken
of rejects it once a body was attached.
-/
theorem accepted_snapshots_are_current
    {earlier later : List (Operation K)}
    {past present : Workspace K}
    (toPast : past = empty.run earlier)
    (toPresent : present = past.run later)
    (few : present.drawn < revisionLimit) :
    (∀ first ∈ present.mechanisms, ∀ second ∈ present.mechanisms,
        first.revision = second.revision →
        first.bodies = second.bodies ∧
          first.dofCount = second.dofCount) ∧
      ∀ {identity : Nat} {origin : Mechanism K}
        {positions velocities : List T} {snapshot : Snapshot T},
        past.mechanism? identity = some origin →
        origin.snapshot positions velocities = .ok snapshot →
        (∀ mechanism ∈ present.mechanisms,
            ¬ mechanism.Rejects snapshot →
            mechanism.snapshot positions velocities = .ok snapshot) ∧
          ∀ {middle late : List (Operation K)}
            {name : String} {parent frame : FrameId} {joint : Joint K}
            {offset : Pose K} {grown : Workspace K},
            later =
              middle ++ .attach identity name parent joint offset :: late →
            (past.run middle).attach identity name parent joint offset =
              .ok (grown, frame) →
            ∃ mechanism,
              present.mechanism? identity = some mechanism ∧
                mechanism.Rejects snapshot := by
  subst toPresent
  have fewPast := Nat.lt_of_le_of_lt (drawn_le_run past later) few
  have pastStamped : past.Stamped := by
    subst toPast
    exact stamped_empty.run earlier fewPast
  have stamped := pastStamped.run later few
  refine ⟨?_, ?_⟩
  · intro first firstMember second secondMember same
    rw [stamped.eq_of_revision_eq _ firstMember _ secondMember same]
    exact ⟨rfl, rfl⟩
  intro identity origin positions velocities snapshot originFound taken
  have stamp := (Mechanism.grounded_of_snapshot taken).2.revision_eq
  rw [mechanism?_eq_getElem?] at originFound
  have originMember := List.mem_of_getElem? originFound
  refine ⟨?_, ?_⟩
  · intro mechanism member accepted
    rw [pastStamped.eq_of_accepted few originMember stamp member accepted]
    exact taken
  · intro middle late name parent frame joint offset grown split attached
    subst split
    have performed :
        (past.run middle).perform
            (.attach identity name parent joint offset) =
          grown := by
      simp [perform, attempt, attached]
    have early : snapshot.revision ≤ (past.run middle).drawn := by
      rw [stamp]
      exact
        Nat.le_trans (pastStamped.revision_le origin originMember)
          (drawn_le_run past middle)
    rw [run_append, run_cons, performed] at few ⊢
    exact rejects_after_attach attached late few early

end Runs

/-- A lift is made, with an axis that is not of unit length. -/
def liftMade : List (Operation Float) :=
  [.create, .attach 0 "lift" .world (.prismatic ⟨0, 0, 2⟩) .identity]

/-- The lift is copied and then enlarged. -/
def liftEnlarged : List (Operation Float) :=
  [.copy 0, .attach 0 "hook" ⟨1⟩ .fixed .identity]

/-- The lift before it is enlarged. -/
def lift : Mechanism Float where
  bodies :=
    [{ name := "lift"
       parent := .world
       joint := .prismatic ⟨0, 0, 1⟩
       offset := .identity
       dof := some 0 }]
  dofCount := 1
  revision := 2

/--
The copy of the lift accepts the snapshot taken before, and would give the same
one; the lift itself rejects it.
-/
theorem accepted_snapshots_are_current_lift :
    ((empty.run liftMade).run liftEnlarged).drawn < revisionLimit ∧
      (empty.run liftMade).mechanism? 0 = some lift ∧
      ((empty.run liftMade).run liftEnlarged).mechanism? 1 = some lift ∧
      ∃ snapshot : Snapshot Float,
        lift.snapshot [1.5] [0.5] = .ok snapshot ∧
          ¬ lift.Rejects snapshot ∧
          lift.snapshot [1.5] [0.5] = .ok snapshot ∧
          ∃ larger,
            ((empty.run liftMade).run liftEnlarged).mechanism? 0 =
                some larger ∧
              larger.Rejects snapshot := by
  have few :
      ((empty.run liftMade).run liftEnlarged).drawn < revisionLimit := by
    decide +kernel
  have made : (empty.run liftMade).mechanism? 0 = some lift := by
    decide +kernel
  have copied :
      ((empty.run liftMade).run liftEnlarged).mechanism? 1 =
        some lift := by
    decide +kernel
  obtain ⟨snapshot, taken⟩ :
      ∃ snapshot : Snapshot Float,
        lift.snapshot [1.5] [0.5] = .ok snapshot :=
    ⟨_, rfl⟩
  have accepted : ¬ lift.Rejects snapshot := by
    rw [Mechanism.rejects_iff,
      (Mechanism.grounded_of_snapshot taken).2.revision_eq]
    exact not_not.mpr rfl
  have twin := mem_mechanisms_of_found copied
  obtain ⟨_, current⟩ :=
    accepted_snapshots_are_current (T := Float) rfl rfl few
  obtain ⟨same, rejected⟩ := current made taken
  have hooked :
      (((empty.run liftMade).run [.copy 0]).attach
          0 "hook" ⟨1⟩ .fixed .identity).isOk = true := by
    decide +kernel
  cases attached :
      ((empty.run liftMade).run [.copy 0]).attach
        0 "hook" ⟨1⟩ .fixed .identity with
  | error failure =>
      rw [attached] at hooked
      cases hooked
  | ok result =>
      exact
        ⟨few, made, copied, snapshot, taken, accepted,
          same lift twin accepted, rejected rfl attached⟩

end Workspace

end Linkage
