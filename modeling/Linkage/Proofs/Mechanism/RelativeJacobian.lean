import Linkage.Proofs.Mechanism.FrameChange

namespace Linkage

/-!
# Jacobians that add up

A Jacobian that is measured in a frame is the difference of two world Jacobians
at one place of the world.  A point that is seen from another frame, and read
as a point of that frame, is still at the same place.  So the world Jacobian
of a frame in between is added once and subtracted once, and how a point moves
relative to a frame can be summed up along any frames on the way.
-/

variable {K T : Type}

namespace Columns

/-- Sum of two matrices of one width. -/
def add
    [Add T]
    (first second : Columns T) : Columns T :=
  List.zipWith (· + ·) first second

variable [CommRing T]

/-- The matrix in between drops out of a sum of differences. -/
theorem add_rotate_subtract
    {first between last : Columns T}
    (sameWidth : first.length = between.length)
    (lastWidth : between.length = last.length)
    (matrix : Mat3 T) :
    ((first.subtract between).rotate matrix).add
        ((between.subtract last).rotate matrix) =
      (first.subtract last).rotate matrix := by
  refine List.ext_getElem ?_ fun index _ _ => ?_
  · simp [add, rotate, subtract, sameWidth, lastWidth]
  · simp only [add, rotate, subtract, List.getElem_zipWith,
      List.getElem_map, Mat3.apply_sub]
    ext <;> simp

/-- A matrix less itself is zero, however it is turned. -/
theorem rotate_subtract_self
    (columns : Columns T)
    (matrix : Mat3 T) :
    (columns.subtract columns).rotate matrix = zeros columns.length := by
  refine List.ext_getElem ?_ fun index _ _ => ?_
  · simp [rotate, subtract]
  · simp only [zeros, rotate, subtract, List.getElem_zipWith,
      List.getElem_map, List.getElem_replicate, Mat3.apply_sub]
    ext <;> simp

end Columns

namespace Mechanism

variable [CommRing K] [CommRing T] [Elementary T] [Constant K T]

variable {mechanism : Mechanism K}
variable {positions velocities : List T}
variable {snapshot : Snapshot T}

/-- A point does not move in its own frame. -/
theorem Taken.pointJacobian_self
    (wellFormed : mechanism.WellFormed)
    (taken : mechanism.Taken positions velocities snapshot)
    {frame expressedIn : FrameId}
    (inside : mechanism.contains frame = true)
    (targetInside : mechanism.contains expressedIn = true)
    (point : Vec3 T) :
    mechanism.pointJacobian snapshot frame point frame expressedIn =
      .ok (Columns.zeros mechanism.dofCount) := by
  obtain ⟨motion, found⟩ := taken.motion_of_contains inside
  obtain ⟨target, targetFound⟩ := taken.motion_of_contains targetInside
  obtain ⟨own, ownFound, width⟩ :=
    taken.worldJacobian_ok wellFormed.grounded inside
      (motion.pointPosition point)
  rw [taken.pointJacobian_of_columns found inside targetFound ownFound
    ownFound width, Columns.rotate_subtract_self, width]

variable [PreservesArithmetic (Constant.constant : K → T)]
variable [LawfulTrigonometry T]

/--
The Jacobian of a point relative to a frame, and that of the point as it is seen
from there relative to another, add up to that of the point relative to the
other.
-/
theorem Taken.pointJacobian_through
    (wellFormed : mechanism.WellFormed)
    (normalized : mechanism.Normalized)
    (taken : mechanism.Taken positions velocities snapshot)
    {frame between last expressedIn : FrameId}
    (inside : mechanism.contains frame = true)
    (betweenInside : mechanism.contains between = true)
    (lastInside : mechanism.contains last = true)
    (targetInside : mechanism.contains expressedIn = true)
    (point : Vec3 T) :
    ∃ seen first second whole,
      mechanism.pointPosition snapshot frame point between = .ok seen ∧
        mechanism.pointJacobian snapshot frame point between expressedIn =
          .ok first ∧
        mechanism.pointJacobian snapshot between seen last expressedIn =
          .ok second ∧
        mechanism.pointJacobian snapshot frame point last expressedIn =
          .ok whole ∧
        first.length = mechanism.dofCount ∧
        second.length = mechanism.dofCount ∧
        first.add second = whole := by
  have grounded := wellFormed.grounded
  obtain ⟨motion, found⟩ := taken.motion_of_contains inside
  obtain ⟨middle, middleFound⟩ := taken.motion_of_contains betweenInside
  obtain ⟨target, targetFound⟩ := taken.motion_of_contains targetInside
  have samePlace :=
    FrameMotion.pointPosition_of_read
      (taken.isRotation wellFormed normalized middleFound)
      (motion.pointPosition point)
  -- All three world Jacobians are taken at this place.
  generalize atPlace : motion.pointPosition point = place at samePlace
  obtain ⟨own, ownFound, ownWidth⟩ :=
    taken.worldJacobian_ok grounded inside place
  obtain ⟨reference, referenceFound, referenceWidth⟩ :=
    taken.worldJacobian_ok grounded betweenInside place
  obtain ⟨other, otherFound, otherWidth⟩ :=
    taken.worldJacobian_ok grounded lastInside place
  refine
    ⟨_, _, _, _, taken.pointPosition_eq found middleFound point,
      taken.pointJacobian_of_columns found betweenInside targetFound
        (atPlace ▸ ownFound) (atPlace ▸ referenceFound) ownWidth,
      taken.pointJacobian_of_columns middleFound lastInside targetFound
        ?_ ?_ referenceWidth,
      taken.pointJacobian_of_columns found lastInside targetFound
        (atPlace ▸ ownFound) (atPlace ▸ otherFound) ownWidth,
      ?_, ?_,
      Columns.add_rotate_subtract (ownWidth.trans referenceWidth.symm)
        (referenceWidth.trans otherWidth.symm) _⟩
  · rw [atPlace, samePlace, referenceFound]
  · rw [atPlace, samePlace, otherFound]
  · simp [Columns.rotate, Columns.subtract, ownWidth, referenceWidth]
  · simp [Columns.rotate, Columns.subtract, referenceWidth, otherWidth]

variable [Div K] [OfScientific K] [BEq K] [LT K] [DecidableLT K]
variable [Elementary K]

/--
In every snapshot of a mechanism that was built, Jacobians add up along frames.
How a point moves in one frame, and how it moves in another as a point of the
first, sum up to how it moves in the other.  There and back the sum is zero, and
in its own frame a point does not move at all.
-/
theorem jacobians_add_along_frames
    (built : mechanism.Built)
    (normalized : mechanism.Normalized)
    {positions velocities : List T}
    (positionCount : positions.length = mechanism.dofCount)
    (velocityCount : velocities.length = mechanism.dofCount) :
    ∃ snapshot : Snapshot T,
      mechanism.snapshot positions velocities = .ok snapshot ∧
        (∀ {frame between last expressedIn : FrameId},
          mechanism.contains frame = true →
          mechanism.contains between = true →
          mechanism.contains last = true →
          mechanism.contains expressedIn = true →
          ∀ point : Vec3 T,
            ∃ seen first second whole,
              mechanism.pointPosition snapshot frame point between =
                  .ok seen ∧
                mechanism.pointJacobian snapshot frame point
                    between expressedIn =
                  .ok first ∧
                mechanism.pointJacobian snapshot between seen
                    last expressedIn =
                  .ok second ∧
                mechanism.pointJacobian snapshot frame point
                    last expressedIn =
                  .ok whole ∧
                first.length = mechanism.dofCount ∧
                second.length = mechanism.dofCount ∧
                first.add second = whole) ∧
        (∀ {frame between expressedIn : FrameId},
          mechanism.contains frame = true →
          mechanism.contains between = true →
          mechanism.contains expressedIn = true →
          ∀ point : Vec3 T,
            ∃ seen there back,
              mechanism.pointPosition snapshot frame point between =
                  .ok seen ∧
                mechanism.pointJacobian snapshot frame point
                    between expressedIn =
                  .ok there ∧
                mechanism.pointJacobian snapshot between seen
                    frame expressedIn =
                  .ok back ∧
                there.add back = Columns.zeros mechanism.dofCount) ∧
        ∀ {frame expressedIn : FrameId},
          mechanism.contains frame = true →
          mechanism.contains expressedIn = true →
          ∀ point : Vec3 T,
            mechanism.pointJacobian snapshot frame point
                frame expressedIn =
              .ok (Columns.zeros mechanism.dofCount) := by
  have wellFormed := built.wellFormed
  obtain ⟨snapshot, snapshotFound, taken⟩ :=
    wellFormed.snapshot_ok positionCount velocityCount
  refine ⟨snapshot, snapshotFound, ?_, ?_, ?_⟩
  · intro frame between last expressedIn inside betweenInside lastInside
      targetInside point
    exact
      taken.pointJacobian_through wellFormed normalized inside
        betweenInside lastInside targetInside point
  · intro frame between expressedIn inside betweenInside targetInside point
    obtain ⟨seen, there, back, whole, seenFound, thereFound, backFound,
        wholeFound, _, _, sum⟩ :=
      taken.pointJacobian_through wellFormed normalized inside
        betweenInside inside targetInside point
    rw [taken.pointJacobian_self wellFormed inside targetInside]
      at wholeFound
    cases wholeFound
    exact ⟨seen, there, back, seenFound, thereFound, backFound, sum⟩
  · intro frame expressedIn inside targetInside point
    exact taken.pointJacobian_self wellFormed inside targetInside point

/--
How a point of the slider moves in the arm, and how it moves in the world as a
point of the arm, sum up to how it moves in the world.
-/
theorem jacobians_add_along_frames_slider :
    slidingArm.Built ∧
      slidingArm.Normalized ∧
      ∃ (snapshot : Snapshot ℝ) (inArm : Vec3 ℝ)
        (first second whole there back : Columns ℝ),
        slidingArm.snapshot [1, 2] [3, 4] = .ok snapshot ∧
          slidingArm.pointPosition snapshot ⟨2⟩ ⟨5, 6, 7⟩ ⟨1⟩ =
            .ok inArm ∧
          slidingArm.pointJacobian snapshot ⟨2⟩ ⟨5, 6, 7⟩ ⟨1⟩ ⟨2⟩ =
            .ok first ∧
          slidingArm.pointJacobian snapshot ⟨1⟩ inArm .world ⟨2⟩ =
            .ok second ∧
          slidingArm.pointJacobian snapshot ⟨2⟩ ⟨5, 6, 7⟩ .world ⟨2⟩ =
            .ok whole ∧
          first.add second = whole ∧
          slidingArm.pointJacobian snapshot ⟨2⟩ ⟨5, 6, 7⟩ ⟨1⟩ .world =
            .ok there ∧
          slidingArm.pointJacobian snapshot ⟨1⟩ inArm ⟨2⟩ .world =
            .ok back ∧
          there.add back = [0, 0] ∧
          slidingArm.pointJacobian snapshot ⟨2⟩ ⟨5, 6, 7⟩ ⟨2⟩ ⟨1⟩ =
            .ok [0, 0] := by
  obtain ⟨snapshot, snapshotFound, sums, thereAndBack, rests⟩ :=
    jacobians_add_along_frames slidingArm_built slidingArm_normalized
      (rfl : [(1 : ℝ), 2].length = 2) (rfl : [(3 : ℝ), 4].length = 2)
  obtain ⟨inArm, first, second, whole, armFound, firstFound, secondFound,
      wholeFound, _, _, sum⟩ :=
    @sums ⟨2⟩ ⟨1⟩ .world ⟨2⟩ rfl rfl rfl rfl ⟨5, 6, 7⟩
  obtain ⟨sameInArm, there, back, sameFound, thereFound, backFound,
      noSum⟩ :=
    @thereAndBack ⟨2⟩ ⟨1⟩ .world rfl rfl rfl ⟨5, 6, 7⟩
  cases armFound.symm.trans sameFound
  have rest := @rests ⟨2⟩ ⟨1⟩ rfl rfl ⟨5, 6, 7⟩
  exact
    ⟨slidingArm_built, slidingArm_normalized, snapshot, inArm, first,
      second, whole, there, back, snapshotFound, armFound, firstFound,
      secondFound, wholeFound, sum, thereFound, backFound, noSum, rest⟩

end Mechanism

end Linkage
