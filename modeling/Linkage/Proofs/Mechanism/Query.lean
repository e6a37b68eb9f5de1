import Linkage.Mechanism.Query

namespace Linkage.Mechanism

/-!
# The parts of a Jacobian query

A Jacobian is read in three steps: the frames are checked, the world Jacobians
of the two frames are subtracted, and the difference is turned into the frame
it is expressed in.  Naming the last two lets each be studied alone.  A world
Jacobian is written link by link along a chain; only links with a coordinate
write a column.
-/

variable {K T : Type}

/-- A link without a coordinate writes nothing. -/
theorem writeColumns_cons_of_none
    [Zero T] [Sub T] [Mul T]
    {snapshot : Snapshot T}
    {position : Vec3 T}
    {index : Nat}
    {body : Body K}
    (hasNone : body.dof = none)
    {rest : List (Nat × Body K)}
    {columns : Columns T} :
    writeColumns snapshot position ((index, body) :: rest) columns =
      writeColumns snapshot position rest columns := by
  simp only [writeColumns, hasNone]

/-- A link with a coordinate writes its column before the rest is written. -/
theorem writeColumns_cons_eq_ok_iff
    [Zero T] [Sub T] [Mul T]
    {snapshot : Snapshot T}
    {position : Vec3 T}
    {index dof : Nat}
    {body : Body K}
    (hasDof : body.dof = some dof)
    {rest : List (Nat × Body K)}
    {columns written : Columns T} :
    writeColumns snapshot position ((index, body) :: rest) columns =
        .ok written ↔
      ∃ motion,
        snapshot.frames[index]? = some motion ∧
          dof < columns.length ∧
          writeColumns snapshot position rest
              (columns.set dof
                (jointColumn body.joint motion position)) =
            .ok written := by
  simp only [writeColumns, hasDof, entry]
  cases snapshot.frames[index]? with
  | none =>
      constructor
      · intro impossible
        cases impossible
      · rintro ⟨_, ⟨⟩, _⟩
  | some motion =>
      change (if dof < columns.length then _ else _) = _ ↔ _
      by_cases inside : dof < columns.length
      · rw [if_pos inside]
        constructor
        · intro found
          exact ⟨motion, rfl, inside, found⟩
        · rintro ⟨_, ⟨⟩, _, found⟩
          exact found
      · rw [if_neg inside]
        constructor
        · intro impossible
          cases impossible
        · rintro ⟨_, _, isInside, _⟩
          exact absurd isInside inside

/-- No joint moves the world. -/
theorem worldJacobian_world
    [Zero T] [Sub T] [Mul T]
    {mechanism : Mechanism K}
    {snapshot : Snapshot T}
    (position : Vec3 T) :
    mechanism.worldJacobian snapshot .world position =
      .ok (Columns.zeros mechanism.dofCount) := by
  simp only [worldJacobian, FrameId.world, chain?, writeColumns]

/--
World Jacobian, at a world position, of one frame relative to another.  The
world itself is not subtracted.
-/
def relativeJacobian
    [Zero T] [Sub T] [Mul T]
    (mechanism : Mechanism K)
    (snapshot : Snapshot T)
    (frame measuredIn : FrameId)
    (position : Vec3 T) : Except Misuse (Columns T) := do
  let own ← mechanism.worldJacobian snapshot frame position
  if measuredIn.isWorld then
    .ok own
  else
    own.subtract <$>
      mechanism.worldJacobian snapshot measuredIn position

/-- World columns in the coordinates of a frame. -/
def expressColumns
    [One T] [Add T] [Mul T]
    (snapshot : Snapshot T)
    (frame : FrameId)
    (columns : Columns T) : Except Misuse (Columns T) :=
  if frame.isWorld then
    .ok columns
  else do
    let motion ← entry snapshot.frames frame.index
    return columns.rotate motion.rotation.transpose

/-- A Jacobian query checks, subtracts and turns. -/
theorem pointJacobian_eq
    [Zero T] [One T] [Add T] [Sub T] [Mul T]
    (mechanism : Mechanism K)
    (snapshot : Snapshot T)
    (frame : FrameId)
    (point : Vec3 T)
    (measuredIn expressedIn : FrameId) :
    mechanism.pointJacobian snapshot frame point measuredIn expressedIn =
      (do
        mechanism.checkSnapshot snapshot
        mechanism.checkFrame frame
        mechanism.checkFrame measuredIn
        mechanism.checkFrame expressedIn
        let motion ← entry snapshot.frames frame.index
        let relative ←
          mechanism.relativeJacobian snapshot frame measuredIn
            (motion.pointPosition point)
        expressColumns snapshot expressedIn relative) := by
  unfold pointJacobian relativeJacobian
  simp only [bind_assoc]
  refine bind_congr fun _ => bind_congr fun _ => bind_congr fun _ =>
    bind_congr fun _ => bind_congr fun motion => bind_congr fun own => ?_
  cases measuredIn.isWorld with
  | true =>
      rfl
  | false =>
      simp only [Bool.false_eq_true, if_false, bind_map_left]
      rfl

end Linkage.Mechanism
