import Linkage.Proofs.Constraint.Made
import Linkage.Proofs.Workspace.Orderly

namespace Linkage.Workspace

/-!
# Evaluation never fails

Misuse is a promise that a caller broke.  A caller that attaches and copies
bodies through a workspace, and makes constraints on its mechanisms, breaks
none: states of the wrong size are refused, and at any other state everything
can be read, in the shape that was announced.  The numbers play no part in it;
they may be infinite, or not be numbers at all.
-/

section Runs

variable {K T : Type}
variable [Zero K] [One K] [Add K] [Sub K] [Mul K] [Div K]
variable [OfScientific K] [NatCast K] [BEq K] [LT K] [DecidableLT K]
variable [Elementary K]
variable [Zero T] [One T] [Add T] [Sub T] [Neg T] [Mul T] [Div T]
variable [Elementary T] [Constant K T]

/--
Whatever bodies are attached and whatever is copied, a mechanism refuses a state
of the wrong size, the positions first.  At any other state it has a snapshot
with a motion for each frame, and there all outputs of all constraints made on
the mechanism, and of all sets of them, are found with as many rows as announced
and a column for each coordinate.
-/
theorem evaluation_is_total
    {operations : List (Operation K)}
    (noDocument : ∀ document, .load document ∉ operations)
    {model : Model K}
    (member : model.mechanism ∈ (empty.run operations).mechanisms)
    (positions velocities : List T) :
    (positions.length ≠ model.mechanism.dofCount →
        (model.mechanism.snapshot positions velocities :
            Except (Failure K) (Snapshot T)) =
          .error
            (.refused
              (.dimensionMismatch .positions
                model.mechanism.dofCount positions.length))) ∧
      (positions.length = model.mechanism.dofCount →
        velocities.length ≠ model.mechanism.dofCount →
        (model.mechanism.snapshot positions velocities :
            Except (Failure K) (Snapshot T)) =
          .error
            (.refused
              (.dimensionMismatch .velocities
                model.mechanism.dofCount velocities.length))) ∧
      (positions.length = model.mechanism.dofCount →
        velocities.length = model.mechanism.dofCount →
        ∃ snapshot : Snapshot T,
          model.mechanism.snapshot positions velocities =
              .ok snapshot ∧
            snapshot.frames.length = model.mechanism.frameCount ∧
            (∀ constraint : Constraint K T,
              constraint.Made model →
              (constraint.outputs snapshot).Shaped
                  constraint.length model.mechanism.dofCount ∧
                (constraint.activeOutputs snapshot).Shaped
                  constraint.activeCount model.mechanism.dofCount) ∧
            (∀ set : ConstraintSet K T,
              set.Made model →
              (set.outputs snapshot).Shaped
                  set.fullCount model.mechanism.dofCount ∧
                (set.activeOutputs snapshot).Shaped
                  set.activeCount model.mechanism.dofCount)) := by
  refine
    ⟨Mechanism.snapshot_of_positionCount_ne,
      Mechanism.snapshot_of_velocityCount_ne, ?_⟩
  intro positionCount velocityCount
  have wellFormed := (built_of_mem_run noDocument member).wellFormed
  obtain ⟨snapshot, found, taken⟩ :=
    wellFormed.snapshot_ok positionCount velocityCount
  refine ⟨snapshot, found, taken.swept.count, ?_, ?_⟩
  · intro constraint made
    exact made.shaped wellFormed taken velocityCount
  · intro set made
    exact made.shaped wellFormed taken velocityCount

end Runs

/-- The copy of the lift, with its hook. -/
def twin : Model Float :=
  ⟨1, ((empty.run liftAndTwin).mechanism? 1).getD (.empty 0)⟩

theorem twin_mem :
    twin.mechanism ∈
      (empty.run (liftAndTwin (K := Float))).mechanisms := by
  have found :
      ((empty.run (liftAndTwin (K := Float))).mechanism? 1).isSome =
        true := by
    decide +kernel
  have shape :
      twin.mechanism =
        ((empty.run liftAndTwin).mechanism? 1).getD (.empty 0) := by
    rw [twin]
  rw [mechanism?_eq_getElem?] at found shape
  rw [shape]
  -- Nothing below depends on the run, and comparing two runs is slow.
  generalize (empty.run liftAndTwin).mechanisms = mechanisms at found ⊢
  obtain ⟨mechanism, found⟩ := Option.isSome_iff_exists.mp found
  rw [found]
  exact List.mem_of_getElem? found

/-- How far the hook is from the origin. -/
def twinSpan : Distance Float where
  name := "distance"
  model := twin
  pointA := ⟨0, 0, 1⟩
  frameA := ⟨2⟩
  pointB := 0
  frameB := .world
  target := 1
  rows := .all 1

/-- How high the hook is. -/
def twinHeight : Anchor Float where
  name := "world_point"
  model := twin
  point := ⟨0, 0, 1⟩
  frame := ⟨2⟩
  target := 0
  view := .identity
  rows := ⟨3, [2]⟩

theorem twinSpan_made : twinSpan.Made twin :=
  .create
    (Distance.create_eq_ok_iff.mpr
      ⟨by decide +kernel, Mechanism.contains_world _,
        by decide +kernel, by decide +kernel, rfl⟩)

theorem twinHeight_made : twinHeight.Made twin := by
  have whole : Anchor.Made twin { twinHeight with rows := .all 3 } :=
    .create
      (Anchor.create_eq_ok_iff.mpr
        ⟨by decide +kernel, by decide +kernel, rfl⟩)
  have masked :
      Anchor.withActiveRows { twinHeight with rows := .all 3 } [2] =
        .ok twinHeight :=
    rfl
  exact .withActiveRows whole masked

/-- The hook is held at a distance, then at a height; nothing else counts. -/
def twinConstraints : ConstraintSet Float Float where
  model := twin
  members :=
    [⟨twinSpan.toConstraint, true⟩, ⟨twinSpan.toConstraint, false⟩,
      ⟨twinHeight.toConstraint, true⟩]

theorem twinConstraints_made : twinConstraints.Made twin := by
  refine ⟨rfl, ?_⟩
  intro member inside
  rw [twinConstraints, List.mem_cons, List.mem_cons, List.mem_singleton]
    at inside
  rcases inside with rfl | rfl | rfl
  · exact .distance twinSpan_made
  · exact .distance twinSpan_made
  · exact .anchor twinHeight_made

/-- The twin at states of wrong sizes, and at one of the right size. -/
theorem evaluation_is_total_twin :
    twin.mechanism ∈
        (empty.run (liftAndTwin (K := Float))).mechanisms ∧
      twin.mechanism.dofCount = 2 ∧
      twinConstraints.Made twin ∧
      (twin.mechanism.snapshot [1] [1, 2, 3] :
          Except (Failure Float) (Snapshot Float)) =
        .error (.refused (.dimensionMismatch .positions 2 1)) ∧
      (twin.mechanism.snapshot [1, 2] [] :
          Except (Failure Float) (Snapshot Float)) =
        .error (.refused (.dimensionMismatch .velocities 2 0)) ∧
      ∃ snapshot : Snapshot Float,
        twin.mechanism.snapshot [1, 2] [3, 4] = .ok snapshot ∧
          snapshot.frames.length = 3 ∧
          (twinSpan.toConstraint.outputs snapshot).Shaped 1 2 ∧
          (twinHeight.toConstraint.activeOutputs snapshot).Shaped 1 2 ∧
          (twinConstraints.outputs snapshot).Shaped 4 2 ∧
          (twinConstraints.activeOutputs snapshot).Shaped 2 2 := by
  have noDocument :
      ∀ document, .load document ∉ liftAndTwin (K := Float) := by
    simp [liftAndTwin]
  have dofCount : twin.mechanism.dofCount = 2 := by
    decide +kernel
  have frameCount : twin.mechanism.frameCount = 3 := by
    decide +kernel
  have fewPositions :=
    (evaluation_is_total (T := Float) noDocument twin_mem [1] [1, 2, 3]).1
  have fewVelocities :=
    (evaluation_is_total (T := Float) noDocument twin_mem [1, 2] []).2.1
  have evaluated :=
    (evaluation_is_total (T := Float) noDocument twin_mem
      [1, 2] [3, 4]).2.2
  rw [dofCount] at fewPositions fewVelocities evaluated
  obtain ⟨snapshot, found, count, constraints, sets⟩ :=
    evaluated rfl rfl
  have span := constraints _ (.distance twinSpan_made)
  have height := constraints _ (.anchor twinHeight_made)
  have set := sets _ twinConstraints_made
  exact
    ⟨twin_mem, dofCount, twinConstraints_made, fewPositions (by decide),
      fewVelocities rfl (by decide), snapshot, found,
      count.trans frameCount, span.1, height.2, set⟩

end Linkage.Workspace
