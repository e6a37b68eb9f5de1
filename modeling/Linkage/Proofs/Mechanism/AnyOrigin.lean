import Linkage.Document.Mechanism
import Linkage.Proofs.Mechanism.Totality

namespace Linkage.Mechanism

/-!
# Mechanisms of any origin

A document may bring a mechanism whose bodies name any parents and any
coordinates, and a walk along such parents may go round in a circle.  Nobody
looks at them when the document is read.  The sweep of a snapshot does so in
passing: it reads the motion of a parent among the frames it has computed, and
a coordinate among those of the state.  So whoever has a snapshot of a mechanism
can walk down from any of its frames and reaches the end.
-/

variable {K T : Type}

/--
The bodies that a walk from a frame meets, each with its frame number.  A walk
goes from a body to its parent, wherever that is, and stops at a frame without a
body; one that never stops has no such list.
-/
inductive Walk
    (mechanism : Mechanism K) :
    FrameId → List (Nat × Body K) → Prop where
  | stop
      {frame : FrameId} :
      mechanism.body? frame = none →
      Walk mechanism frame []
  | next
      {frame : FrameId}
      {body : Body K}
      {chain : List (Nat × Body K)} :
      mechanism.body? frame = some body →
      Walk mechanism body.parent chain →
      Walk mechanism frame ((frame.index, body) :: chain)

/-- A body that hangs from itself is never walked past. -/
theorem not_walk_of_own_parent
    {mechanism : Mechanism K}
    {frame : FrameId}
    {body : Body K}
    (found : mechanism.body? frame = some body)
    (ownParent : body.parent = frame)
    (chain : List (Nat × Body K)) :
    ¬ mechanism.Walk frame chain := by
  intro walk
  induction walk with
  | stop missing =>
      rw [missing] at found
      cases found
  | next same _ inductionHypothesis =>
      rw [same] at found
      cases found
      rw [ownParent] at inductionHypothesis
      exact inductionHypothesis same rfl

/-- A chain that exists is what a walk meets. -/
theorem walk_of_chain
    {mechanism : Mechanism K}
    {frame : Nat}
    {chain : List (Nat × Body K)}
    (hasChain : mechanism.chain? frame = some chain) :
    mechanism.Walk ⟨frame⟩ chain := by
  induction frame using Nat.strongRecOn generalizing chain with
  | ind frame inductionHypothesis =>
      cases frame with
      | zero =>
          rw [chain?] at hasChain
          cases hasChain
          exact .stop rfl
      | succ index =>
          rw [chain?] at hasChain
          cases found : mechanism.bodies[index]? with
          | none =>
              rw [found] at hasChain
              cases hasChain
              exact .stop found
          | some body =>
              simp only [found] at hasChain
              split at hasChain
              · rename_i parentBefore
                obtain ⟨rest, parentChain, rfl⟩ :=
                  Option.map_eq_some_iff.mp hasChain
                exact
                  .next found
                    (inductionHypothesis _ parentBefore parentChain)
              · cases hasChain

variable [One K] [Add K] [Sub K] [Mul K]
variable [Zero T] [One T] [Add T] [Sub T] [Neg T] [Mul T]
variable [Elementary T] [Constant K T]

/--
Whatever the bodies of a mechanism name, if a snapshot can be taken of it then
every body comes after its parent and every coordinate exists.  The walk from
each frame stops, and it is the chain that Jacobians are read along; all queries
about frames of the mechanism are answered.
-/
theorem queries_end_where_snapshots_exist
    {mechanism : Mechanism K}
    {positions velocities : List T}
    {snapshot : Snapshot T}
    (found : mechanism.snapshot positions velocities = .ok snapshot) :
    (∀ {index : Nat} {body : Body K},
        mechanism.bodies[index]? = some body →
        body.parent.index ≤ index ∧
          ∀ dof, body.dof = some dof → dof < mechanism.dofCount) ∧
      ∀ {frame measuredIn expressedIn : FrameId},
        mechanism.contains frame = true →
        mechanism.contains measuredIn = true →
        mechanism.contains expressedIn = true →
        (∃ chain,
            mechanism.Walk frame chain ∧
              mechanism.chain? frame.index = some chain) ∧
          ∀ point : Vec3 T,
            (∃ position,
                mechanism.pointPosition snapshot frame point
                    expressedIn =
                  .ok position) ∧
              (∃ columns,
                mechanism.pointJacobian snapshot frame point
                    measuredIn expressedIn =
                  .ok columns ∧
                  columns.length = mechanism.dofCount) ∧
              ∃ bias,
                mechanism.pointBias snapshot frame point expressedIn =
                  .ok bias := by
  obtain ⟨grounded, taken⟩ := grounded_of_snapshot found
  refine ⟨?_, ?_⟩
  · intro index body bodyFound
    exact
      ⟨grounded.parentBefore bodyFound,
        fun dof hasDof => grounded.dof_lt bodyFound hasDof⟩
  intro frame measuredIn expressedIn inside referenceInside targetInside
  obtain ⟨chain, hasChain⟩ :=
    grounded.chain_exists (of_decide_eq_true inside)
  refine ⟨⟨chain, walk_of_chain hasChain, hasChain⟩, ?_⟩
  intro point
  exact
    ⟨taken.pointPosition_ok inside targetInside point,
      taken.pointJacobian_ok grounded inside referenceInside targetInside
        point,
      taken.pointBias_ok inside targetInside point⟩

/--
Two slides that share a coordinate with a plate between them, which does not
move; another coordinate belongs to no body.
-/
def crookedSlides : Mechanism Float where
  bodies :=
    [{ name := "rail"
       parent := .world
       joint := .prismatic ⟨0, 0, 1⟩
       offset := .identity
       dof := some 1 },
     { name := "plate"
       parent := ⟨1⟩
       joint := .fixed
       offset := .identity
       dof := some 1 },
     { name := "slide"
       parent := ⟨2⟩
       joint := .prismatic ⟨1, 0, 0⟩
       offset := .identity
       dof := some 1 }]
  dofCount := 3
  revision := 9

/-- No attachment makes such slides, but a document may hold them. -/
theorem queries_end_where_snapshots_exist_crookedSlides :
    Mechanism.ofDocument? 9 crookedSlides.toDocument =
        some crookedSlides ∧
      ∃ snapshot : Snapshot Float,
        crookedSlides.snapshot [1, 2, 3] [4, 5, 6] = .ok snapshot ∧
          (∃ chain,
            crookedSlides.Walk ⟨3⟩ chain ∧
              crookedSlides.chain? 3 = some chain) ∧
          ∃ columns,
            crookedSlides.pointJacobian snapshot ⟨3⟩ 0 ⟨1⟩ ⟨2⟩ =
                .ok columns ∧
              columns.length = 3 := by
  have stored :
      Mechanism.ofDocument? 9 crookedSlides.toDocument =
        some crookedSlides := by
    decide +kernel
  obtain ⟨snapshot, found⟩ :
      ∃ snapshot : Snapshot Float,
        crookedSlides.snapshot [1, 2, 3] [4, 5, 6] = .ok snapshot :=
    ⟨_, rfl⟩
  obtain ⟨_, answered⟩ := queries_end_where_snapshots_exist found
  obtain ⟨walk, queries⟩ := @answered ⟨3⟩ ⟨1⟩ ⟨2⟩ rfl rfl rfl
  exact ⟨stored, snapshot, found, walk, (queries 0).2.1⟩

end Linkage.Mechanism
