import Linkage.Proofs.Mechanism.Growth
import Linkage.Proofs.Mechanism.Orderly

namespace Linkage.Mechanism

/-!
# Names of frames

The names of a mechanism stand in one list, that of the world first, and the
number of a frame is the place of its name.  Looking up the name of a frame
reads that list, and looking up the frame of a name searches it, so the two are
inverse to each other if no name occurs twice.
-/

variable {K : Type}
variable {mechanism : Mechanism K}

/-- The name of a frame is the one at its place. -/
theorem frameName?_eq_getElem?
    (mechanism : Mechanism K)
    (frame : FrameId) :
    mechanism.frameName? frame = mechanism.frameNames[frame.index]? := by
  obtain ⟨number⟩ := frame
  cases number with
  | zero =>
      rfl
  | succ index =>
      rw [frameNames, List.getElem?_cons_succ, List.getElem?_map]
      rfl

/-- Frames with different names are told apart by them. -/
theorem frame_eq_of_name
    (distinct : mechanism.frameNames.Nodup)
    {frame other : FrameId}
    {name : String}
    (hasName : mechanism.frameName? frame = some name)
    (otherHasName : mechanism.frameName? other = some name) :
    frame.index = other.index := by
  rw [frameName?_eq_getElem?] at hasName otherHasName
  have inside := (List.getElem?_eq_some_iff.mp hasName).1
  exact
    (List.getElem?_inj inside distinct).mp
      (hasName.trans otherHasName.symm)

/-- A frame with a name is one of the mechanism. -/
theorem contains_of_name
    {frame : FrameId}
    {name : String}
    (hasName : mechanism.frameName? frame = some name) :
    mechanism.contains frame = true := by
  rw [frameName?_eq_getElem?] at hasName
  have inside := (List.getElem?_eq_some_iff.mp hasName).1
  rw [frameNames, List.length_cons, List.length_map] at inside
  exact decide_eq_true inside

/-- The frame of a body has the name of the body. -/
theorem frameName?_body
    {index : Nat}
    {body : Body K}
    (found : mechanism.bodies[index]? = some body) :
    mechanism.frameName? ⟨index + 1⟩ = some body.name := by
  rw [frameName?_eq_getElem?, frameNames, List.getElem?_cons_succ,
    List.getElem?_map, found]
  rfl

/-- A mechanism that begins as another has the names of the other first. -/
theorem BeginsAs.frameName?
    {grown : Mechanism K}
    (begins : grown.BeginsAs mechanism)
    {frame : FrameId}
    {name : String}
    (hasName : mechanism.frameName? frame = some name) :
    grown.frameName? frame = some name := by
  obtain ⟨number⟩ := frame
  cases number with
  | zero =>
      exact hasName
  | succ index =>
      obtain ⟨body, found, rfl⟩ := Option.map_eq_some_iff.mp hasName
      exact frameName?_body (begins.bodies found)

/-- The frames that have a name are those of the mechanism. -/
theorem isSome_frameName?_iff
    {frame : FrameId} :
    (mechanism.frameName? frame).isSome = true ↔
      mechanism.contains frame = true := by
  rw [frameName?_eq_getElem?]
  simp [contains, frameCount, frameNames]

/-- The frame that an attachment returns has the body that was attached. -/
theorem body?_of_attach
    [Zero K] [Add K] [Sub K] [Mul K] [Div K] [OfScientific K]
    [BEq K] [LT K] [DecidableLT K] [Elementary K]
    {grown : Mechanism K}
    {freshRevision : Nat}
    {name : String}
    {parent frame : FrameId}
    {joint : Joint K}
    {offset : Pose K}
    (accepted :
      mechanism.attach freshRevision name parent joint offset =
        .ok (grown, frame)) :
    ∃ body : Body K,
      grown.body? frame = some body ∧
        body.name = name ∧
        body.parent = parent ∧
        joint.normalize? = some body.joint ∧
        body.offset = offset := by
  obtain ⟨_, _, _, unitJoint, normalized, rfl, rfl⟩ :=
    attach_eq_ok_iff.mp accepted
  refine
    ⟨mechanism.newBody name parent unitJoint offset, ?_, rfl, rfl,
      normalized, rfl⟩
  simp [Mechanism.body?, frameCount]

/-- The name of a frame with a body is the name of the body. -/
theorem frameName?_of_body?
    {frame : FrameId}
    {body : Body K}
    (found : mechanism.body? frame = some body) :
    mechanism.frameName? frame = some body.name := by
  obtain ⟨number⟩ := frame
  cases number with
  | zero =>
      cases found
  | succ index =>
      exact frameName?_body found

/-- The frame of a name is found at the first place of the name. -/
theorem frameNamed_eq
    (mechanism : Mechanism K)
    (name : String) :
    mechanism.frameNamed name =
      match mechanism.frameNames.findIdx? (· == name) with
      | some index => .ok ⟨index⟩
      | none => .error (.frameNameNotFound name) := by
  rw [frameNamed, frameNames, List.findIdx?_cons, List.findIdx?_map]
  by_cases isWorld : name = worldName
  · simp [isWorld, FrameId.world]
  · rw [if_neg (by simpa using isWorld),
      if_neg (by simpa using Ne.symm isWorld), Function.comp_def]
    cases mechanism.bodies.findIdx? (·.name == name) <;> rfl

/-- The frame that is found has the name. -/
theorem frameName?_of_frameNamed
    {name : String}
    {frame : FrameId}
    (named : mechanism.frameNamed name = .ok frame) :
    mechanism.frameName? frame = some name := by
  rw [frameNamed_eq] at named
  split at named
  · rename_i index found
    cases named
    obtain ⟨inside, isName, _⟩ :=
      List.findIdx?_eq_some_iff_getElem.mp found
    rw [frameName?_eq_getElem?, List.getElem?_eq_getElem inside,
      beq_iff_eq.mp isName]
  · cases named

/-- A name is not found exactly when no frame has it. -/
theorem frameNamed_eq_error_iff
    {name : String}
    {refusal : Refusal K} :
    mechanism.frameNamed name = .error refusal ↔
      refusal = .frameNameNotFound name ∧
        ∀ frame, mechanism.frameName? frame ≠ some name := by
  constructor
  · intro refused
    rw [frameNamed_eq] at refused
    split at refused
    · cases refused
    · rename_i notFound
      cases refused
      refine ⟨rfl, fun frame hasName => ?_⟩
      rw [frameName?_eq_getElem?] at hasName
      have absent :=
        List.findIdx?_eq_none_iff.mp notFound name
          (List.mem_of_getElem? hasName)
      simp at absent
  · rintro ⟨rfl, unnamed⟩
    cases named : mechanism.frameNamed name with
    | ok frame =>
        exact absurd (frameName?_of_frameNamed named) (unnamed frame)
    | error other =>
        rw [frameNamed_eq] at named
        split at named
        · cases named
        · exact named.symm

/-- Where names differ, the frame of a name is the one that has it. -/
theorem frameNamed_eq_ok_iff
    (distinct : mechanism.frameNames.Nodup)
    {name : String}
    {frame : FrameId} :
    mechanism.frameNamed name = .ok frame ↔
      mechanism.frameName? frame = some name := by
  constructor
  · exact frameName?_of_frameNamed
  · intro hasName
    cases named : mechanism.frameNamed name with
    | ok other =>
        have otherHasName := frameName?_of_frameNamed named
        have same := frame_eq_of_name distinct otherHasName hasName
        exact congrArg Except.ok (congrArg FrameId.mk same)
    | error refusal =>
        exact absurd hasName ((frameNamed_eq_error_iff.mp named).2 frame)

end Linkage.Mechanism
