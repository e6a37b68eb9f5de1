import Linkage.Proofs.Document.RoundTrip
import Linkage.Proofs.Workspace.Orderly
import Linkage.Proofs.Workspace.Revision

namespace Linkage

/-!
# Mechanisms that are stored and read back

An attachment lets no number in that is not finite, so whatever was built can be
stored without loss.  What is read back has the same bodies and the same number
of coordinates, so it answers alike about names and moves alike; but it is a new
mechanism, and rejects every snapshot that was taken of the old one.
-/

namespace Mechanism

/-- The revision of a mechanism passes into its snapshots and nowhere else. -/
theorem snapshot_withRevision
    {K T : Type}
    [One K] [Add K] [Sub K] [Mul K]
    [Zero T] [One T] [Add T] [Sub T] [Neg T] [Mul T]
    [Elementary T] [Constant K T]
    (mechanism : Mechanism K)
    (revision : Nat)
    (positions velocities : List T) :
    { mechanism with revision }.snapshot positions velocities =
      (mechanism.snapshot positions velocities).map
        fun snapshot => { snapshot with revision } := by
  unfold snapshot
  split
  · rfl
  · split
    · rfl
    · cases sweep positions velocities mechanism.bodies
        [FrameMotion.world] <;> rfl

end Mechanism

namespace Workspace

/-- The document of a mechanism with finite numbers is read as a new one. -/
theorem load_toDocument
    {K : Type}
    [Zero K] [Sub K] [BEq K] [NatCast K]
    (workspace : Workspace K)
    {mechanism : Mechanism K}
    (finite : ∀ body ∈ mechanism.bodies, body.Finite) :
    workspace.load mechanism.toDocument =
      some
        ({ workspace with drawn := workspace.drawn + 1 }.place
          { mechanism with revision := workspace.freshRevision }) := by
  rw [load, Mechanism.ofDocument?_toDocument finite]
  rfl

/-- A document that is read draws a revision. -/
theorem drawn_of_load
    {K : Type}
    [NatCast K]
    {workspace loaded : Workspace K}
    {document : Document K}
    {place : Nat}
    (read : workspace.load document = some (loaded, place)) :
    loaded.drawn = workspace.drawn + 1 := by
  obtain ⟨mechanism, _, placed⟩ := Option.map_eq_some_iff.mp read
  exact congrArg (·.1.drawn) placed.symm

/-- A lift is made and gets a hook. -/
def hookMade : List (Operation Float) :=
  liftMade ++ [.attach 0 "hook" ⟨1⟩ .fixed .identity]

/-- The lift with its hook. -/
def hookedLift : Mechanism Float where
  bodies := lift.bodies ++ [lift.newBody "hook" ⟨1⟩ .fixed .identity]
  dofCount := 1
  revision := 3

variable {T : Type}
variable [Zero T] [One T] [Add T] [Sub T] [Neg T] [Mul T]
variable [Elementary T] [Constant Float T]

/--
The document of a mechanism that no document brought has no number missing; at
most coordinates are.  It can be read back, and what comes back is equal to the
mechanism: it has the same bodies, coordinates and frames, and at each state the
same motion.  As long as revisions do not start again, its own is one that no
mechanism ever had, so it rejects the snapshots of the mechanism.
-/
theorem stored_mechanism_comes_back
    {operations : List (Operation Float)}
    (noDocument : ∀ document, .load document ∉ operations)
    {workspace : Workspace Float}
    (reached : workspace = empty.run operations)
    {identity : Nat}
    {mechanism : Mechanism Float}
    (found : workspace.mechanism? identity = some mechanism) :
    (∀ field ∈ mechanism.toDocument.nullFields "", field = "dof") ∧
      ∃ (loaded : Workspace Float) (place : Nat) (copy : Mechanism Float),
        workspace.load mechanism.toDocument = some (loaded, place) ∧
          loaded.mechanism? place = some copy ∧
          copy.sameShape mechanism = true ∧
          copy.bodies = mechanism.bodies ∧
          copy.dofCount = mechanism.dofCount ∧
          (∀ name, copy.frameNamed name = mechanism.frameNamed name) ∧
          (∀ frame,
            copy.contains frame = mechanism.contains frame ∧
              copy.body? frame = mechanism.body? frame ∧
              copy.frameName? frame = mechanism.frameName? frame) ∧
          (∀ positions velocities : List T,
            copy.snapshot positions velocities =
              (mechanism.snapshot positions velocities).map
                fun snapshot =>
                  { snapshot with revision := copy.revision }) ∧
          (loaded.drawn < revisionLimit →
            (∀ earlier, earlier <+: operations →
              ∀ old ∈ (empty.run earlier).mechanisms,
                old.revision < copy.revision) ∧
              ∀ {positions velocities : List T} {snapshot : Snapshot T},
                mechanism.snapshot positions velocities =
                  .ok snapshot →
                copy.Rejects snapshot) := by
  have member := mem_mechanisms_of_found found
  have finite : ∀ body ∈ mechanism.bodies, body.Finite := by
    rw [reached] at member
    exact (built_of_mem_run noDocument member).finite
  refine
    ⟨Mechanism.nullFields_toDocument finite "", _, _, _,
      workspace.load_toDocument finite, mechanism?_place _ _,
      Mechanism.sameShape_self finite, rfl, rfl, fun _ => rfl,
      fun _ => ⟨rfl, rfl, rfl⟩,
      fun positions velocities =>
        mechanism.snapshot_withRevision _ positions velocities, ?_⟩
  intro few
  have stamp : workspace.freshRevision = workspace.drawn + 1 :=
    freshRevision_eq few
  have drawnFew : (empty.run operations).drawn < revisionLimit := by
    rw [← reached]
    exact Nat.lt_of_succ_lt few
  have newer :
      ∀ earlier, earlier <+: operations →
        ∀ old ∈ (empty.run earlier).mechanisms,
          old.revision < workspace.freshRevision := by
    intro earlier before old oldMember
    have bound := revision_le_of_earlier drawnFew before oldMember
    rw [← reached] at bound
    omega
  refine ⟨newer, ?_⟩
  intro positions velocities snapshot taken
  rw [reached] at member
  have older := newer operations (List.prefix_refl _) mechanism member
  rw [Mechanism.rejects_iff,
    (Mechanism.grounded_of_snapshot taken).2.revision_eq]
  exact Nat.ne_of_lt older

/--
The lift is stored without a coordinate for its hook.  What is read back has a
hook as well, and does not accept a snapshot of the lift.
-/
theorem stored_mechanism_comes_back_hookedLift :
    (empty.run hookMade).mechanism? 0 = some hookedLift ∧
      hookedLift.toDocument.nullFields "" = ["dof"] ∧
      ∃ (loaded : Workspace Float) (place : Nat) (copy : Mechanism Float)
          (snapshot : Snapshot Float),
        (empty.run hookMade).load hookedLift.toDocument =
            some (loaded, place) ∧
          loaded.mechanism? place = some copy ∧
          copy.sameShape hookedLift = true ∧
          copy.frameNamed "hook" = .ok ⟨2⟩ ∧
          hookedLift.revision < copy.revision ∧
          hookedLift.snapshot [1.5] [0.5] = .ok snapshot ∧
          copy.Rejects snapshot := by
  have noDocument : ∀ document, .load document ∉ hookMade := by
    simp [hookMade, liftMade]
  have made : (empty.run hookMade).mechanism? 0 = some hookedLift := by
    decide +kernel
  have gaps : hookedLift.toDocument.nullFields "" = ["dof"] := by
    decide +kernel
  obtain ⟨snapshot, taken⟩ :
      ∃ snapshot : Snapshot Float,
        hookedLift.snapshot [1.5] [0.5] = .ok snapshot :=
    ⟨_, rfl⟩
  obtain ⟨_, loaded, place, copy, read, copyFound, same, _, _, named, _, _,
      renewed⟩ :=
    stored_mechanism_comes_back (T := Float) noDocument rfl made
  have few : loaded.drawn < revisionLimit := by
    rw [drawn_of_load read]
    decide +kernel
  obtain ⟨newer, rejected⟩ := renewed few
  have member := mem_mechanisms_of_found made
  exact
    ⟨made, gaps, loaded, place, copy, snapshot, read, copyFound, same,
      (named "hook").trans rfl,
      newer hookMade (List.prefix_refl _) hookedLift member, taken,
      rejected taken⟩

end Workspace

end Linkage
