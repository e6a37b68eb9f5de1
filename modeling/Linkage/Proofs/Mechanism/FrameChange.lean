import Linkage.Proofs.Mechanism.Reading
import Linkage.Proofs.Mechanism.SlidingArm

namespace Linkage

/-!
# Changing frames

A point that is fixed in one frame is seen somewhere from every other frame,
and that place can be read in turn as a point of the other frame.  Where the
orientations of frames are rotations, the way a point is handed on from frame
to frame makes no difference: its place in the last frame is the one that is
seen from there at once.
-/

variable {K T : Type}
variable [CommRing T]

/-- A place of the world is the place of what is read of it in a frame. -/
theorem FrameMotion.pointPosition_of_read
    {motion : FrameMotion T}
    (rotation : motion.rotation.IsRotation)
    (place : Vec3 T) :
    motion.pointPosition
        (motion.rotation.transpose.apply (place - motion.origin)) =
      place := by
  rw [FrameMotion.pointPosition, rotation.apply_apply_transpose]
  ext <;> simp

namespace Mechanism

/-- Where a point is after it was read in one frame after the other. -/
def handOn
    (mechanism : Mechanism K)
    (snapshot : Snapshot T)
    (frame : FrameId)
    (point : Vec3 T) : List FrameId → Except Misuse (Vec3 T)
  | [] =>
      .ok point
  | next :: later => do
      let seen ← mechanism.pointPosition snapshot frame point next
      mechanism.handOn snapshot next seen later

variable [CommRing K] [Constant K T]
variable [PreservesArithmetic (Constant.constant : K → T)]
variable [Elementary T] [LawfulTrigonometry T]

variable {mechanism : Mechanism K}
variable {positions velocities : List T}
variable {snapshot : Snapshot T}

/-- What is seen from one frame is seen as well through another. -/
theorem Taken.pointPosition_through
    (wellFormed : mechanism.WellFormed)
    (normalized : mechanism.Normalized)
    (taken : mechanism.Taken positions velocities snapshot)
    {frame between last : FrameId}
    (inside : mechanism.contains frame = true)
    (betweenInside : mechanism.contains between = true)
    (lastInside : mechanism.contains last = true)
    (point : Vec3 T) :
    ∃ seen place,
      mechanism.pointPosition snapshot frame point between = .ok seen ∧
        mechanism.pointPosition snapshot between seen last = .ok place ∧
        mechanism.pointPosition snapshot frame point last = .ok place := by
  obtain ⟨motion, found⟩ := taken.motion_of_contains inside
  obtain ⟨middle, middleFound⟩ := taken.motion_of_contains betweenInside
  obtain ⟨target, targetFound⟩ := taken.motion_of_contains lastInside
  have sameInWorld :=
    FrameMotion.pointPosition_of_read
      (taken.isRotation wellFormed normalized middleFound)
      (motion.pointPosition point)
  refine
    ⟨_, _, taken.pointPosition_eq found middleFound point, ?_,
      taken.pointPosition_eq found targetFound point⟩
  rw [taken.pointPosition_eq middleFound targetFound, sameInWorld]

/-- In its own frame a point is seen where it is. -/
theorem Taken.pointPosition_self
    (wellFormed : mechanism.WellFormed)
    (normalized : mechanism.Normalized)
    (taken : mechanism.Taken positions velocities snapshot)
    {frame : FrameId}
    (inside : mechanism.contains frame = true)
    (point : Vec3 T) :
    mechanism.pointPosition snapshot frame point frame = .ok point := by
  obtain ⟨motion, found⟩ := taken.motion_of_contains inside
  have rotation := taken.isRotation wellFormed normalized found
  have fromOrigin :
      motion.pointPosition point - motion.origin =
        motion.rotation.apply point := by
    ext <;> simp [FrameMotion.pointPosition]
  rw [taken.pointPosition_eq found found, fromOrigin,
    rotation.apply_transpose_apply]

/-- However often a point is handed on, it is seen as it is seen at once. -/
theorem Taken.handOn_eq
    (wellFormed : mechanism.WellFormed)
    (normalized : mechanism.Normalized)
    (taken : mechanism.Taken positions velocities snapshot)
    {last : FrameId}
    (lastInside : mechanism.contains last = true)
    {way : List FrameId}
    (wayInside : ∀ between ∈ way, mechanism.contains between = true)
    {frame : FrameId}
    (inside : mechanism.contains frame = true)
    (point : Vec3 T) :
    mechanism.handOn snapshot frame point (way ++ [last]) =
      mechanism.pointPosition snapshot frame point last := by
  induction way generalizing frame point with
  | nil =>
      exact bind_pure _
  | cons next later ih =>
      have nextInside := wayInside next (.head _)
      obtain ⟨seen, place, seenFound, onward, atOnce⟩ :=
        taken.pointPosition_through wellFormed normalized inside
          nextInside lastInside point
      rw [List.cons_append, handOn, seenFound, atOnce, ← onward]
      exact
        ih (fun between member => wayInside between (.tail _ member))
          nextInside seen

variable [Div K] [OfScientific K] [BEq K] [LT K] [DecidableLT K]
variable [Elementary K]

/--
In every snapshot of a mechanism that was built, a point that is read in one
frame and then, as a point of that frame, in another is where it is seen from
the other at once.  The frames may be any, the world among them, and they may
repeat: back in its own frame the point is where it was.
-/
theorem changing_frames_composes
    (built : mechanism.Built)
    (normalized : mechanism.Normalized)
    {positions velocities : List T}
    (positionCount : positions.length = mechanism.dofCount)
    (velocityCount : velocities.length = mechanism.dofCount) :
    ∃ snapshot : Snapshot T,
      mechanism.snapshot positions velocities = .ok snapshot ∧
        (∀ {frame between last : FrameId},
          mechanism.contains frame = true →
          mechanism.contains between = true →
          mechanism.contains last = true →
          ∀ point : Vec3 T,
            ∃ seen place,
              mechanism.pointPosition snapshot frame point between =
                  .ok seen ∧
                mechanism.pointPosition snapshot between seen last =
                  .ok place ∧
                mechanism.pointPosition snapshot frame point last =
                  .ok place) ∧
        (∀ {frame between : FrameId},
          mechanism.contains frame = true →
          mechanism.contains between = true →
          ∀ point : Vec3 T,
            ∃ seen,
              mechanism.pointPosition snapshot frame point between =
                  .ok seen ∧
                mechanism.pointPosition snapshot between seen frame =
                  .ok point) ∧
        ∀ {frame last : FrameId} {way : List FrameId},
          mechanism.contains frame = true →
          (∀ between ∈ way, mechanism.contains between = true) →
          mechanism.contains last = true →
          ∀ point : Vec3 T,
            mechanism.handOn snapshot frame point (way ++ [last]) =
              mechanism.pointPosition snapshot frame point last := by
  have wellFormed := built.wellFormed
  obtain ⟨snapshot, snapshotFound, taken⟩ :=
    wellFormed.snapshot_ok positionCount velocityCount
  refine ⟨snapshot, snapshotFound, ?_, ?_, ?_⟩
  · intro frame between last inside betweenInside lastInside point
    exact
      taken.pointPosition_through wellFormed normalized inside
        betweenInside lastInside point
  · intro frame between inside betweenInside point
    obtain ⟨seen, place, seenFound, back, atOnce⟩ :=
      taken.pointPosition_through wellFormed normalized inside
        betweenInside inside point
    have same := taken.pointPosition_self wellFormed normalized inside point
    exact ⟨seen, seenFound, back.trans (atOnce.symm.trans same)⟩
  · intro frame last way inside wayInside lastInside point
    exact
      taken.handOn_eq wellFormed normalized lastInside wayInside inside
        point

/--
A point of the slider is seen from the arm where the world sees it, also after
a detour; from the arm it is read back where it is in the slider.
-/
theorem changing_frames_composes_slider :
    slidingArm.Built ∧
      slidingArm.Normalized ∧
      ∃ (snapshot : Snapshot ℝ) (inWorld inArm : Vec3 ℝ),
        slidingArm.snapshot [1, 2] [3, 4] = .ok snapshot ∧
          slidingArm.pointPosition snapshot ⟨2⟩ ⟨5, 6, 7⟩ .world =
            .ok inWorld ∧
          slidingArm.pointPosition snapshot .world inWorld ⟨1⟩ =
            .ok inArm ∧
          slidingArm.pointPosition snapshot ⟨1⟩ inArm ⟨2⟩ =
            .ok ⟨5, 6, 7⟩ ∧
          slidingArm.handOn snapshot ⟨2⟩ ⟨5, 6, 7⟩
              ([⟨2⟩, .world, ⟨2⟩] ++ [⟨1⟩]) =
            .ok inArm := by
  obtain ⟨snapshot, snapshotFound, through, back, handed⟩ :=
    changing_frames_composes slidingArm_built slidingArm_normalized
      (rfl : [(1 : ℝ), 2].length = 2) (rfl : [(3 : ℝ), 4].length = 2)
  obtain ⟨inWorld, inArm, worldFound, armFound, atOnce⟩ :=
    @through ⟨2⟩ .world ⟨1⟩ rfl rfl rfl ⟨5, 6, 7⟩
  obtain ⟨seen, seenFound, returned⟩ := @back ⟨2⟩ ⟨1⟩ rfl rfl ⟨5, 6, 7⟩
  cases atOnce.symm.trans seenFound
  have detourInside :
      ∀ between ∈ ([⟨2⟩, .world, ⟨2⟩] : List FrameId),
        slidingArm.contains between = true := by
    rintro between (_ | ⟨_, _ | ⟨_, _ | ⟨_, ⟨⟩⟩⟩⟩) <;> rfl
  exact
    ⟨slidingArm_built, slidingArm_normalized, snapshot, inWorld, inArm,
      snapshotFound, worldFound, armFound, returned,
      (handed rfl detourInside rfl _).trans atOnce⟩

end Mechanism

end Linkage
