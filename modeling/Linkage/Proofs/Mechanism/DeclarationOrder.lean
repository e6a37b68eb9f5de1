import Linkage.Proofs.Mechanism.Naming

namespace Linkage

/-!
# The order of declarations

Bodies may be declared in any order that puts parents first.  The order decides
the numbers of the frames and of the coordinates and nothing else: the frames of
one name correspond, and so do the coordinates of the joints that carry them.
-/

/-- A body as it is declared; its parent is given by name. -/
structure Declaration (K : Type) where
  name : String
  parent : String
  joint : Joint K
  offset : Pose K

namespace Mechanism

variable {K T : Type}

section Names

variable {mechanism : Mechanism K}

/-- The coordinate of the joint that carries the body of a name. -/
def dofNamed?
    (mechanism : Mechanism K)
    (name : String) : Option Nat :=
  (mechanism.bodies.find? (·.name == name)).bind (·.dof)

/-- A coordinate found by name is that of a body of this name. -/
theorem body_of_dofNamed?
    {name : String}
    {dof : Nat}
    (named : mechanism.dofNamed? name = some dof) :
    ∃ (index : Nat) (body : Body K),
      mechanism.bodies[index]? = some body ∧
        body.name = name ∧
        body.dof = some dof := by
  obtain ⟨body, found, hasDof⟩ := Option.bind_eq_some_iff.mp named
  obtain ⟨index, place⟩ :=
    List.mem_iff_getElem?.mp (List.mem_of_find?_eq_some found)
  have sameName : (body.name == name) = true :=
    List.find?_some (p := fun body : Body K => body.name == name) found
  exact ⟨index, body, place, beq_iff_eq.mp sameName, hasDof⟩

/-- Where names differ, the coordinate of a body is found by its name. -/
theorem dofNamed?_body
    (distinct : mechanism.frameNames.Nodup)
    {body : Body K}
    (member : body ∈ mechanism.bodies) :
    mechanism.dofNamed? body.name = body.dof := by
  have names : (mechanism.bodies.map (·.name)).Nodup :=
    (List.nodup_cons.mp distinct).2
  let hasName (other : Body K) : Bool := other.name == body.name
  cases found : mechanism.bodies.find? hasName with
  | none =>
      exact
        absurd (beq_self_eq_true body.name)
          (List.find?_eq_none.mp found body member)
  | some first =>
      have sameName : first.name = body.name :=
        beq_iff_eq.mp (List.find?_some (p := hasName) found)
      obtain rfl : first = body :=
        List.inj_on_of_nodup_map names (List.mem_of_find?_eq_some found)
          member sameName
      rw [dofNamed?, found]
      rfl

/-- No coordinate belongs to joints of two names. -/
theorem name_of_dof_unique
    (wellFormed : mechanism.WellFormed)
    {name otherName : String}
    {dof : Nat}
    (named : mechanism.dofNamed? name = some dof)
    (otherNamed : mechanism.dofNamed? otherName = some dof) :
    name = otherName := by
  obtain ⟨index, body, found, rfl, hasDof⟩ := body_of_dofNamed? named
  obtain ⟨otherIndex, otherBody, otherFound, rfl, otherHasDof⟩ :=
    body_of_dofNamed? otherNamed
  rcases Nat.lt_trichotomy index otherIndex with earlier | rfl | later
  · exact
      absurd otherHasDof
        (wellFormed.dof_ne_of_lt earlier found otherFound hasDof)
  · rw [found] at otherFound
    cases otherFound
    rfl
  · exact
      absurd hasDof
        (wellFormed.dof_ne_of_lt later otherFound found otherHasDof)

end Names

/-- What a declaration has become: its body, with an axis of unit length. -/
structure Declares
    [Zero K] [Add K] [Sub K] [Mul K] [Div K] [OfScientific K]
    [BEq K] [LT K] [DecidableLT K] [Elementary K]
    (mechanism : Mechanism K)
    (declaration : Declaration K)
    (body : Body K) : Prop where
  name : declaration.name = body.name
  parent : mechanism.frameName? body.parent = some declaration.parent
  joint : declaration.joint.normalize? = some body.joint
  offset : declaration.offset = body.offset

section Assembly

variable [Zero K] [Add K] [Sub K] [Mul K] [Div K] [OfScientific K]
variable [BEq K] [LT K] [DecidableLT K] [Elementary K]

/--
Mechanisms assembled from declarations, one after another.  Each is attached to
the frame that has the name of its parent, so the parent was declared before.
-/
inductive Assembled : List (Declaration K) → Mechanism K → Prop where
  | empty (revision : Nat) :
      Assembled [] (Mechanism.empty revision)
  | declare
      {declarations : List (Declaration K)}
      {mechanism grown : Mechanism K}
      {declaration : Declaration K}
      {parent frame : FrameId}
      {freshRevision : Nat} :
      Assembled declarations mechanism →
      mechanism.frameName? parent = some declaration.parent →
      mechanism.attach freshRevision declaration.name parent
          declaration.joint declaration.offset =
        .ok (grown, frame) →
      Assembled (declarations ++ [declaration]) grown

namespace Assembled

variable {declarations : List (Declaration K)}
variable {mechanism : Mechanism K}

theorem built
    (assembled : Assembled declarations mechanism) :
    mechanism.Built := by
  induction assembled with
  | empty revision =>
      exact .empty revision
  | declare _ _ accepted inductionHypothesis =>
      exact .attach inductionHypothesis accepted

/-- Whatever was built was assembled from declarations. -/
theorem exists_of_built
    (built : mechanism.Built) :
    ∃ declarations, Assembled declarations mechanism := by
  induction built with
  | empty revision =>
      exact ⟨[], .empty revision⟩
  | @attach mechanism grown freshRevision name parent frame joint offset
      _ accepted inductionHypothesis =>
      obtain ⟨declarations, assembled⟩ := inductionHypothesis
      have inside : parent.index < mechanism.frameNames.length := by
        rw [frameNames, List.length_cons, List.length_map]
        exact of_decide_eq_true (attach_eq_ok_iff.mp accepted).1
      have parentName := mechanism.frameName?_eq_getElem? parent
      rw [List.getElem?_eq_getElem inside] at parentName
      exact
        ⟨declarations ++ [⟨name, _, joint, offset⟩],
          .declare assembled parentName accepted⟩

/-- What may be declared next, and what comes of it. -/
theorem grow
    (assembled : Assembled declarations mechanism)
    (freshRevision : Nat)
    (declaration : Declaration K)
    (parent : FrameId)
    {unitJoint : Joint K}
    (parentName :
      mechanism.frameName? parent = some declaration.parent)
    (free : mechanism.nameTaken declaration.name = false)
    (finite : declaration.offset.allFinite = true)
    (normalized : declaration.joint.normalize? = some unitJoint) :
    Assembled (declarations ++ [declaration])
      { bodies :=
          mechanism.bodies ++
            [mechanism.newBody declaration.name parent unitJoint
              declaration.offset]
        dofCount := mechanism.dofCount + unitJoint.freedom
        revision := freshRevision } :=
  .declare assembled parentName
    (attach_eq_ok_iff.mpr
      ⟨contains_of_name parentName, free, finite, unitJoint, normalized,
        rfl, rfl⟩)

/-- A mechanism has a body for each declaration, in the order given. -/
theorem declared
    (assembled : Assembled declarations mechanism) :
    List.Forall₂ mechanism.Declares declarations mechanism.bodies := by
  induction assembled with
  | empty revision =>
      exact .nil
  | @declare declarations mechanism grown declaration parent frame
      freshRevision assembled parentName accepted inductionHypothesis =>
      obtain ⟨begins, _⟩ := attach_beginsAs accepted
      have earlier :
          List.Forall₂ grown.Declares declarations mechanism.bodies :=
        inductionHypothesis.imp fun _ _ declares =>
          { declares with parent := begins.frameName? declares.parent }
      obtain ⟨_, _, _, unitJoint, normalized, rfl, _⟩ :=
        attach_eq_ok_iff.mp accepted
      refine List.rel_append earlier (.cons ?_ .nil)
      exact ⟨rfl, begins.frameName? parentName, normalized, rfl⟩

/-- The names of the bodies are those declared. -/
theorem names_eq
    (assembled : Assembled declarations mechanism) :
    mechanism.frameNames = worldName :: declarations.map (·.name) := by
  have sameNames :
      declarations.map (·.name) = mechanism.bodies.map (·.name) := by
    rw [← List.forall₂_eq_eq_eq, List.forall₂_map_left_iff,
      List.forall₂_map_right_iff]
    exact assembled.declared.imp fun _ _ declares => declares.name
  rw [frameNames, sameNames]

/-- Every body was declared. -/
theorem declaration_of_body
    (assembled : Assembled declarations mechanism)
    {index : Nat}
    {body : Body K}
    (found : mechanism.bodies[index]? = some body) :
    ∃ declaration ∈ declarations, mechanism.Declares declaration body := by
  have declared := assembled.declared
  have bodyInside := (List.getElem?_eq_some_iff.mp found).1
  have inside : index < declarations.length := by
    rwa [declared.length_eq]
  have declares := declared.get inside bodyInside
  rw [List.get_eq_getElem, List.get_eq_getElem,
    (List.getElem?_eq_some_iff.mp found).2] at declares
  exact ⟨_, List.getElem_mem inside, declares⟩

end Assembled

/-- Frames of two mechanisms that have one name. -/
def SameName
    (mechanism other : Mechanism K)
    (frame otherFrame : Nat) : Prop :=
  ∃ name,
    mechanism.frameName? ⟨frame⟩ = some name ∧
      other.frameName? ⟨otherFrame⟩ = some name

/-- Coordinates of two mechanisms whose joints carry bodies of one name. -/
def SameJoint
    (mechanism other : Mechanism K)
    (dof otherDof : Nat) : Prop :=
  ∃ name,
    mechanism.dofNamed? name = some dof ∧
      other.dofNamed? name = some otherDof

section Orders

variable {declarations otherDeclarations : List (Declaration K)}
variable {mechanism other : Mechanism K}

/-- One declaration becomes bodies that agree in all mechanisms. -/
theorem Assembled.bodiesAgree
    (assembled : Assembled declarations mechanism)
    (otherAssembled : Assembled otherDeclarations other)
    (permuted : declarations.Perm otherDeclarations)
    {index otherIndex : Nat}
    {body otherBody : Body K}
    (found : mechanism.bodies[index]? = some body)
    (otherFound : other.bodies[otherIndex]? = some otherBody)
    (sameName : body.name = otherBody.name) :
    BodiesAgree (SameName mechanism other) (SameJoint mechanism other)
      body otherBody := by
  have orderly := assembled.built.orderly
  have otherOrderly := otherAssembled.built.orderly
  have member := List.mem_of_getElem? found
  have otherMember := List.mem_of_getElem? otherFound
  have names : (declarations.map (·.name)).Nodup := by
    have distinct := orderly.names_nodup
    rw [assembled.names_eq] at distinct
    exact (List.nodup_cons.mp distinct).2
  obtain ⟨declaration, given, declares⟩ :=
    assembled.declaration_of_body found
  obtain ⟨otherDeclaration, otherGiven, otherDeclares⟩ :=
    otherAssembled.declaration_of_body otherFound
  obtain rfl : declaration = otherDeclaration :=
    List.inj_on_of_nodup_map names given
      (permuted.mem_iff.mpr otherGiven)
      (declares.name.trans (sameName.trans otherDeclares.name.symm))
  have sameJoint : body.joint = otherBody.joint :=
    Option.some.inj (declares.joint.symm.trans otherDeclares.joint)
  refine
    ⟨sameJoint, declares.offset.symm.trans otherDeclares.offset,
      ⟨_, declares.parent, otherDeclares.parent⟩, ?_⟩
  have named := dofNamed?_body orderly.names_nodup member
  have otherNamed := dofNamed?_body otherOrderly.names_nodup otherMember
  have moves : body.dof.isSome = true ↔ otherBody.dof.isSome = true := by
    rw [orderly.dof_isSome_iff body member,
      otherOrderly.dof_isSome_iff otherBody otherMember, sameJoint]
  rw [sameName] at named
  cases hasDof : body.dof with
  | none =>
      cases otherHasDof : otherBody.dof with
      | none =>
          exact .none
      | some otherDof =>
          simp [hasDof, otherHasDof] at moves
  | some dof =>
      cases otherHasDof : otherBody.dof with
      | none =>
          simp [hasDof, otherHasDof] at moves
      | some otherDof =>
          exact
            .some
              ⟨_, named.trans hasDof, otherNamed.trans otherHasDof⟩

/-- Frames and joints of one name correspond, whatever the orders were. -/
theorem Assembled.correspondence
    (assembled : Assembled declarations mechanism)
    (otherAssembled : Assembled otherDeclarations other)
    (permuted : declarations.Perm otherDeclarations) :
    mechanism.Correspondence other
      (SameName mechanism other) (SameJoint mechanism other) where
  world_iff := by
    rintro frame otherFrame ⟨name, hasName, otherHasName⟩
    have distinct := assembled.built.frameNames_nodup
    have otherDistinct := otherAssembled.built.frameNames_nodup
    constructor
    · rintro rfl
      cases hasName
      exact
        frame_eq_of_name otherDistinct otherHasName
          (frameName?_world other)
    · rintro rfl
      cases otherHasName
      exact frame_eq_of_name distinct hasName (frameName?_world mechanism)
  bodies := by
    rintro index otherIndex ⟨name, hasName, otherHasName⟩
    obtain ⟨body, found, rfl⟩ := Option.map_eq_some_iff.mp hasName
    obtain ⟨otherBody, otherFound, sameName⟩ :=
      Option.map_eq_some_iff.mp otherHasName
    exact
      ⟨body, otherBody, found, otherFound,
        assembled.bodiesAgree otherAssembled permuted found otherFound
          sameName.symm⟩
  dof_unique := by
    constructor
    · rintro dof otherDof common ⟨name, named, commonNamed⟩
        ⟨otherName, otherNamed, commonOtherNamed⟩
      cases
        name_of_dof_unique otherAssembled.built.wellFormed commonNamed
          commonOtherNamed
      exact Option.some.inj (named.symm.trans otherNamed)
    · rintro common dof otherDof ⟨name, commonNamed, named⟩
        ⟨otherName, commonOtherNamed, otherNamed⟩
      cases
        name_of_dof_unique assembled.built.wellFormed commonNamed
          commonOtherNamed
      exact Option.some.inj (named.symm.trans otherNamed)
  dof_lt := by
    rintro dof otherDof ⟨name, named, otherNamed⟩
    obtain ⟨index, body, found, _, hasDof⟩ := body_of_dofNamed? named
    obtain ⟨otherIndex, otherBody, otherFound, _, otherHasDof⟩ :=
      body_of_dofNamed? otherNamed
    exact
      ⟨assembled.built.wellFormed.dof_lt found hasDof,
        otherAssembled.built.wellFormed.dof_lt otherFound otherHasDof⟩

/-- The mechanisms have frames of the same names. -/
theorem Assembled.frameNames_perm
    (assembled : Assembled declarations mechanism)
    (otherAssembled : Assembled otherDeclarations other)
    (permuted : declarations.Perm otherDeclarations) :
    mechanism.frameNames.Perm other.frameNames := by
  rw [assembled.names_eq, otherAssembled.names_eq]
  exact (permuted.map _).cons worldName

/-- A joint that moves in one order moves in the other. -/
theorem Assembled.dofNamed?_of_perm
    (assembled : Assembled declarations mechanism)
    (otherAssembled : Assembled otherDeclarations other)
    (permuted : declarations.Perm otherDeclarations)
    {name : String}
    {dof : Nat}
    (named : mechanism.dofNamed? name = some dof) :
    ∃ otherDof, other.dofNamed? name = some otherDof := by
  obtain ⟨index, body, found, rfl, hasDof⟩ := body_of_dofNamed? named
  have names := assembled.frameNames_perm otherAssembled permuted
  have hasName : body.name ∈ other.bodies.map (·.name) :=
    (List.Perm.cons_inv names).mem_iff.mp
      (List.mem_map_of_mem (List.mem_of_getElem? found))
  obtain ⟨otherBody, otherMember, sameName⟩ := List.mem_map.mp hasName
  obtain ⟨otherIndex, otherFound⟩ := List.mem_iff_getElem?.mp otherMember
  have sameDof :=
    (assembled.bodiesAgree otherAssembled permuted found otherFound
      sameName.symm).dof
  rw [hasDof] at sameDof
  generalize otherShape : otherBody.dof = otherDof? at sameDof
  cases sameDof with
  | @some _ otherDof _ =>
      refine ⟨otherDof, ?_⟩
      rw [← sameName, ← otherShape]
      exact
        dofNamed?_body otherAssembled.built.frameNames_nodup otherMember

end Orders

section Readings

variable [One K]
variable [Zero T] [One T] [Add T] [Sub T] [Neg T] [Mul T]
variable [Elementary T] [Constant K T]

/--
Two mechanisms assembled from the same declarations in different orders have
frames of the same names, and joints of the same names move.  At states that
give each joint the same coordinate and rate, frames of one name have one
motion, and their points have one position and one bias acceleration.  Their
Jacobians have the same column for each joint.  Nothing is rounded differently.
-/
theorem declaration_order_is_irrelevant
    {declarations otherDeclarations : List (Declaration K)}
    {mechanism other : Mechanism K}
    (assembled : Assembled declarations mechanism)
    (otherAssembled : Assembled otherDeclarations other)
    (permuted : declarations.Perm otherDeclarations)
    {positions velocities otherPositions otherVelocities : List T}
    (positionCount : positions.length = mechanism.dofCount)
    (velocityCount : velocities.length = mechanism.dofCount)
    (otherPositionCount : otherPositions.length = other.dofCount)
    (otherVelocityCount : otherVelocities.length = other.dofCount)
    (agree :
      ∀ {name : String} {dof otherDof : Nat},
        mechanism.dofNamed? name = some dof →
        other.dofNamed? name = some otherDof →
        positions[dof]? = otherPositions[otherDof]? ∧
          velocities[dof]? = otherVelocities[otherDof]?) :
    mechanism.frameNames.Perm other.frameNames ∧
      (∀ name,
        (mechanism.dofNamed? name).isSome =
          (other.dofNamed? name).isSome) ∧
      ∃ snapshot otherSnapshot : Snapshot T,
        mechanism.snapshot positions velocities = .ok snapshot ∧
          other.snapshot otherPositions otherVelocities =
            .ok otherSnapshot ∧
          (∀ {frame otherFrame : FrameId},
            mechanism.SameName other frame.index otherFrame.index →
            ∃ motion,
              snapshot.motion? frame = some motion ∧
                otherSnapshot.motion? otherFrame = some motion) ∧
          ∀ {frame measuredIn expressedIn : FrameId}
            {otherFrame otherMeasuredIn otherExpressedIn : FrameId},
            mechanism.SameName other frame.index otherFrame.index →
            mechanism.SameName other
              measuredIn.index otherMeasuredIn.index →
            mechanism.SameName other
              expressedIn.index otherExpressedIn.index →
            ∀ point : Vec3 T,
              (∃ position,
                mechanism.pointPosition snapshot frame point
                      expressedIn =
                    .ok position ∧
                  other.pointPosition otherSnapshot otherFrame point
                      otherExpressedIn =
                    .ok position) ∧
                (∃ bias,
                  mechanism.pointBias snapshot frame point expressedIn =
                      .ok bias ∧
                    other.pointBias otherSnapshot otherFrame point
                        otherExpressedIn =
                      .ok bias) ∧
                ∃ columns otherColumns,
                  mechanism.pointJacobian snapshot frame point
                        measuredIn expressedIn =
                      .ok columns ∧
                    other.pointJacobian otherSnapshot otherFrame point
                        otherMeasuredIn otherExpressedIn =
                      .ok otherColumns ∧
                    columns.length = mechanism.dofCount ∧
                    otherColumns.length = other.dofCount ∧
                    ∀ {name : String} {dof otherDof : Nat},
                      mechanism.dofNamed? name = some dof →
                      other.dofNamed? name = some otherDof →
                      columns[dof]? = otherColumns[otherDof]? := by
  have grounded := assembled.built.wellFormed.grounded
  have otherGrounded := otherAssembled.built.wellFormed.grounded
  have same := assembled.correspondence otherAssembled permuted
  have statesAgree :
      AgreeOn (SameJoint mechanism other)
        positions velocities otherPositions otherVelocities := by
    rintro dof otherDof ⟨name, named, otherNamed⟩
    exact agree named otherNamed
  obtain ⟨snapshot, found, taken⟩ :=
    grounded.snapshot_ok positionCount velocityCount
  obtain ⟨otherSnapshot, otherFound, otherTaken⟩ :=
    otherGrounded.snapshot_ok otherPositionCount otherVelocityCount
  have motions := same.motionsAgree grounded statesAgree taken otherTaken
  refine
    ⟨assembled.frameNames_perm otherAssembled permuted, ?_, snapshot,
      otherSnapshot, found, otherFound,
      fun sameFrame => same.motion_agree motions taken sameFrame, ?_⟩
  · intro name
    rw [Bool.eq_iff_iff, Option.isSome_iff_exists,
      Option.isSome_iff_exists]
    exact
      ⟨fun ⟨_, named⟩ =>
          assembled.dofNamed?_of_perm otherAssembled permuted named,
        fun ⟨_, named⟩ =>
          otherAssembled.dofNamed?_of_perm assembled permuted.symm named⟩
  intro frame measuredIn expressedIn otherFrame otherMeasuredIn
    otherExpressedIn sameFrame sameReference sameTarget point
  obtain ⟨columns, otherColumns, columnsFound, otherColumnsFound,
      columnsAgree⟩ :=
    same.pointJacobian_agree grounded otherGrounded motions taken
      otherTaken sameFrame sameReference sameTarget point
  obtain ⟨inside, otherInside⟩ := same.contains sameFrame
  obtain ⟨referenceInside, otherReferenceInside⟩ :=
    same.contains sameReference
  obtain ⟨targetInside, otherTargetInside⟩ := same.contains sameTarget
  exact
    ⟨same.pointPosition_agree motions taken otherTaken sameFrame
        sameTarget point,
      same.pointBias_agree motions taken otherTaken sameFrame sameTarget
        point,
      columns, otherColumns, columnsFound, otherColumnsFound,
      taken.length_pointJacobian grounded inside referenceInside
        targetInside columnsFound,
      otherTaken.length_pointJacobian otherGrounded otherInside
        otherReferenceInside otherTargetInside otherColumnsFound,
      fun named otherNamed => columnsAgree ⟨_, named, otherNamed⟩⟩

end Readings

end Assembly

/-- A mast that turns on the ground. -/
def mast : Declaration Float :=
  ⟨"mast", "world", .revolute ⟨0, 0, 1⟩, .identity⟩

/-- A boom that slides out of the mast. -/
def boom : Declaration Float :=
  ⟨"boom", "mast", .prismatic ⟨1, 0, 0⟩, ⟨⟨0, 0, 2⟩, .identity⟩⟩

/-- A rail on the ground. -/
def rail : Declaration Float :=
  ⟨"rail", "world", .prismatic ⟨0, 1, 0⟩, .identity⟩

/-- The crane first and then the rail. -/
def craneThenRail : Mechanism Float where
  bodies :=
    [⟨"mast", .world, .revolute ⟨0, 0, 1⟩, .identity, some 0⟩,
      ⟨"boom", ⟨1⟩, .prismatic ⟨1, 0, 0⟩, ⟨⟨0, 0, 2⟩, .identity⟩, some 1⟩,
      ⟨"rail", .world, .prismatic ⟨0, 1, 0⟩, .identity, some 2⟩]
  dofCount := 3
  revision := 3

/-- The rail first and then the crane. -/
def railThenCrane : Mechanism Float where
  bodies :=
    [⟨"rail", .world, .prismatic ⟨0, 1, 0⟩, .identity, some 0⟩,
      ⟨"mast", .world, .revolute ⟨0, 0, 1⟩, .identity, some 1⟩,
      ⟨"boom", ⟨2⟩, .prismatic ⟨1, 0, 0⟩, ⟨⟨0, 0, 2⟩, .identity⟩, some 2⟩]
  dofCount := 3
  revision := 7

theorem normalize?_mast : mast.joint.normalize? = some mast.joint := by
  decide +kernel

theorem normalize?_boom : boom.joint.normalize? = some boom.joint := by
  decide +kernel

theorem normalize?_rail : rail.joint.normalize? = some rail.joint := by
  decide +kernel

theorem craneThenRail_assembled :
    Assembled [mast, boom, rail] craneThenRail := by
  have onlyMast :=
    (Assembled.empty 0).grow 1 mast .world rfl rfl (by decide +kernel)
      normalize?_mast
  have crane :=
    onlyMast.grow 2 boom ⟨1⟩ rfl rfl (by decide +kernel) normalize?_boom
  exact
    crane.grow 3 rail .world rfl rfl (by decide +kernel) normalize?_rail

theorem railThenCrane_assembled :
    Assembled [rail, mast, boom] railThenCrane := by
  have onlyRail :=
    (Assembled.empty 4).grow 5 rail .world rfl rfl (by decide +kernel)
      normalize?_rail
  have railAndMast :=
    onlyRail.grow 6 mast .world rfl rfl (by decide +kernel)
      normalize?_mast
  exact
    railAndMast.grow 7 boom ⟨2⟩ rfl rfl (by decide +kernel)
      normalize?_boom

/-- The joints of the crane and of the rail have these coordinates. -/
theorem sameJoint_crane
    {name : String}
    {dof otherDof : Nat}
    (named : craneThenRail.dofNamed? name = some dof)
    (otherNamed : railThenCrane.dofNamed? name = some otherDof) :
    dof = 0 ∧ otherDof = 1 ∨
      dof = 1 ∧ otherDof = 2 ∨ dof = 2 ∧ otherDof = 0 := by
  obtain ⟨index, body, found, rfl, hasDof⟩ := body_of_dofNamed? named
  match index with
  | 0 =>
      cases found
      cases hasDof
      cases otherNamed
      exact .inl ⟨rfl, rfl⟩
  | 1 =>
      cases found
      cases hasDof
      cases otherNamed
      exact .inr (.inl ⟨rfl, rfl⟩)
  | 2 =>
      cases found
      cases hasDof
      cases otherNamed
      exact .inr (.inr ⟨rfl, rfl⟩)

/-- It does not matter whether the rail is declared after the crane or before. -/
theorem declaration_order_is_irrelevant_crane :
    Assembled [mast, boom, rail] craneThenRail ∧
      Assembled [rail, mast, boom] railThenCrane ∧
      ∃ (snapshot otherSnapshot : Snapshot Float)
        (columns otherColumns : Columns Float),
        craneThenRail.snapshot [1, 2, 3] [4, 5, 6] = .ok snapshot ∧
          railThenCrane.snapshot [3, 1, 2] [6, 4, 5] =
            .ok otherSnapshot ∧
          (∃ motion,
            snapshot.motion? ⟨2⟩ = some motion ∧
              otherSnapshot.motion? ⟨3⟩ = some motion) ∧
          craneThenRail.pointJacobian snapshot ⟨2⟩ 0 ⟨3⟩ ⟨1⟩ =
            .ok columns ∧
          railThenCrane.pointJacobian otherSnapshot ⟨3⟩ 0 ⟨1⟩ ⟨2⟩ =
            .ok otherColumns ∧
          columns[1]? = otherColumns[2]? ∧
          columns[2]? = otherColumns[0]? := by
  have permuted : [mast, boom, rail].Perm [rail, mast, boom] :=
    @List.perm_append_comm _ [mast, boom] [rail]
  have agree :
      ∀ {name : String} {dof otherDof : Nat},
        craneThenRail.dofNamed? name = some dof →
        railThenCrane.dofNamed? name = some otherDof →
        [(1 : Float), 2, 3][dof]? = [(3 : Float), 1, 2][otherDof]? ∧
          [(4 : Float), 5, 6][dof]? = [(6 : Float), 4, 5][otherDof]? := by
    intro name dof otherDof named otherNamed
    rcases sameJoint_crane named otherNamed with
      ⟨rfl, rfl⟩ | ⟨rfl, rfl⟩ | ⟨rfl, rfl⟩
    all_goals simp
  obtain ⟨_, _, snapshot, otherSnapshot, found, otherFound, motions,
      readings⟩ :=
    declaration_order_is_irrelevant craneThenRail_assembled
      railThenCrane_assembled permuted
      (rfl : [(1 : Float), 2, 3].length = 3)
      (rfl : [(4 : Float), 5, 6].length = 3)
      (rfl : [(3 : Float), 1, 2].length = 3)
      (rfl : [(6 : Float), 4, 5].length = 3) agree
  have sameMast : craneThenRail.SameName railThenCrane 1 2 :=
    ⟨"mast", rfl, rfl⟩
  have sameBoom : craneThenRail.SameName railThenCrane 2 3 :=
    ⟨"boom", rfl, rfl⟩
  have sameRail : craneThenRail.SameName railThenCrane 3 1 :=
    ⟨"rail", rfl, rfl⟩
  obtain ⟨_, _, columns, otherColumns, columnsFound, otherColumnsFound,
      _, _, columnsAgree⟩ :=
    @readings ⟨2⟩ ⟨3⟩ ⟨1⟩ ⟨3⟩ ⟨1⟩ ⟨2⟩ sameBoom sameRail sameMast 0
  exact
    ⟨craneThenRail_assembled, railThenCrane_assembled, snapshot,
      otherSnapshot, columns, otherColumns, found, otherFound,
      @motions ⟨2⟩ ⟨3⟩ sameBoom, columnsFound, otherColumnsFound,
      columnsAgree (rfl : craneThenRail.dofNamed? "boom" = _) rfl,
      columnsAgree (rfl : craneThenRail.dofNamed? "rail" = _) rfl⟩

end Mechanism

end Linkage
