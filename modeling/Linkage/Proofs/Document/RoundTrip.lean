import Linkage.Document.Mechanism
import Linkage.Proofs.Mechanism.Orderly
import Linkage.Proofs.Number.Comparison

namespace Linkage

/-!
# Reading what was stored

A number that is finite is read back as it was stored; one that is not finite is
stored as nothing and could not be read.  So a vector, a pose, a joint or a body
comes back if all its numbers are finite, and a mechanism if those of all its
bodies are.  The only gaps in its document then stand where a body has no
coordinate.
-/

variable {K : Type}

namespace Document

mutual

/--
The names of the fields under which a document has nothing, given the name of
the field it stands in itself.  The items of a list stand in the field of the
list.
-/
def nullFields
    (field : String) :
    Document K → List String
  | .null => [field]
  | .bool _ => []
  | .natural _ => []
  | .real _ => []
  | .text _ => []
  | .list items => nullFieldsOfItems field items
  | .record fields => nullFieldsOfRecord fields

/-- The fields without content among the items of a list. -/
def nullFieldsOfItems
    (field : String) :
    List (Document K) → List String
  | [] => []
  | item :: rest => nullFields field item ++ nullFieldsOfItems field rest

/-- The fields without content in the fields of a record. -/
def nullFieldsOfRecord :
    List (String × Document K) → List String
  | [] => []
  | (name, content) :: rest =>
      nullFields name content ++ nullFieldsOfRecord rest

end

theorem nullFieldsOfItems_eq_flatMap
    (field : String)
    (items : List (Document K)) :
    nullFieldsOfItems field items = items.flatMap (nullFields field) := by
  induction items with
  | nil =>
      rw [nullFieldsOfItems, List.flatMap_nil]
  | cons item rest inductionHypothesis =>
      rw [nullFieldsOfItems, inductionHypothesis, List.flatMap_cons]

end Document

namespace Document

/-- Items that are read back one by one are read back as a list. -/
theorem list?_map
    {α : Type}
    {write : α → Document K}
    {read? : Document K → Option α}
    {items : List α}
    (back : ∀ item ∈ items, read? (write item) = some item) :
    list? read? (.list (items.map write)) = some items := by
  rw [list?]
  induction items with
  | nil =>
      rfl
  | cons item rest inductionHypothesis =>
      have later :=
        inductionHypothesis fun other member =>
          back other (List.mem_cons_of_mem item member)
      rw [List.map_cons, List.mapM_cons, back item (.head rest), later]
      rfl

/-- A coordinate is read back, or that there is none. -/
theorem optionalNatural?_ofNatural?
    (index : Option Nat) :
    (ofNatural? index : Document K).optionalNatural? = some index := by
  cases index <;> rfl

variable [Zero K] [Sub K] [BEq K]

/-- A finite number is stored as it is. -/
theorem ofReal_of_isFinite
    {value : K}
    (finite : isFinite value = true) :
    ofReal value = .real value :=
  if_pos finite

/-- Finite numbers are stored without gaps. -/
theorem nullFields_ofReals
    {values : List K}
    (finite : ∀ value ∈ values, isFinite value = true)
    (field : String) :
    (ofReals values).nullFields field = [] := by
  rw [ofReals, nullFields, nullFieldsOfItems_eq_flatMap,
    List.flatMap_map, List.flatMap_eq_nil_iff]
  intro value member
  rw [ofReal_of_isFinite (finite value member), nullFields]

variable [NatCast K]

/-- Finite numbers are read back as they were stored. -/
theorem list?_ofReals
    {values : List K}
    (finite : ∀ value ∈ values, isFinite value = true) :
    (ofReals values).list? real? = some values := by
  refine list?_map fun value member => ?_
  rw [ofReal_of_isFinite (finite value member)]
  rfl

end Document

section Parts

variable [Zero K] [Sub K] [BEq K]

namespace Vec3

theorem isFinite_of_mem
    {v : Vec3 K}
    (finite : v.allFinite = true) :
    ∀ value ∈ v.toList, isFinite value = true := by
  simpa [allFinite, toList, and_assoc] using finite

theorem nullFields_toDocument
    {v : Vec3 K}
    (finite : v.allFinite = true)
    (field : String) :
    v.toDocument.nullFields field = [] :=
  Document.nullFields_ofReals (isFinite_of_mem finite) field

/-- A finite vector is read back. -/
theorem ofDocument?_toDocument
    [NatCast K]
    {v : Vec3 K}
    (finite : v.allFinite = true) :
    ofDocument? v.toDocument = some v := by
  rw [ofDocument?, toDocument,
    Document.list?_ofReals (isFinite_of_mem finite)]
  rfl

end Vec3

namespace Quaternion

theorem isFinite_of_mem
    {q : Quaternion K}
    (finite : q.allFinite = true) :
    ∀ value ∈ [q.x, q.y, q.z, q.w], isFinite value = true := by
  simp [allFinite] at finite
  simp [finite]

theorem nullFields_toDocument
    {q : Quaternion K}
    (finite : q.allFinite = true)
    (field : String) :
    q.toDocument.nullFields field = [] :=
  Document.nullFields_ofReals (isFinite_of_mem finite) field

/-- A finite quaternion is read back. -/
theorem ofDocument?_toDocument
    [NatCast K]
    {q : Quaternion K}
    (finite : q.allFinite = true) :
    ofDocument? q.toDocument = some q := by
  rw [ofDocument?, toDocument,
    Document.list?_ofReals (isFinite_of_mem finite)]

end Quaternion

namespace Pose

theorem nullFields_toDocument
    {pose : Pose K}
    (finite : pose.allFinite = true)
    (field : String) :
    pose.toDocument.nullFields field = [] := by
  rw [allFinite, Bool.and_eq_true] at finite
  simp [toDocument, Document.nullFields, Document.nullFieldsOfRecord,
    Vec3.nullFields_toDocument finite.1,
    Quaternion.nullFields_toDocument finite.2]

/-- A finite pose is read back. -/
theorem ofDocument?_toDocument
    [NatCast K]
    {pose : Pose K}
    (finite : pose.allFinite = true) :
    ofDocument? pose.toDocument = some pose := by
  rw [allFinite, Bool.and_eq_true] at finite
  simp [ofDocument?, toDocument, Document.fields?, Document.field?,
    Document.required?, Vec3.ofDocument?_toDocument finite.1,
    Quaternion.ofDocument?_toDocument finite.2]

end Pose

namespace Joint

theorem nullFields_toDocument
    {joint : Joint K}
    (finite : joint.HasFiniteAxis)
    (field : String) :
    joint.toDocument.nullFields field = [] := by
  cases joint with
  | fixed =>
      rw [toDocument, Document.nullFields]
  | revolute axis =>
      simp [toDocument, Document.nullFields, Document.nullFieldsOfRecord,
        Vec3.nullFields_toDocument (finite rfl)]
  | prismatic axis =>
      simp [toDocument, Document.nullFields, Document.nullFieldsOfRecord,
        Vec3.nullFields_toDocument (finite rfl)]

/-- A joint without axis or with a finite one is read back. -/
theorem ofDocument?_toDocument
    [NatCast K]
    {joint : Joint K}
    (finite : joint.HasFiniteAxis) :
    ofDocument? joint.toDocument = some joint := by
  cases joint with
  | fixed =>
      rfl
  | revolute axis =>
      simp [ofDocument?, toDocument, axisOfDocument?, Document.field?,
        Document.required?, Vec3.ofDocument?_toDocument (finite rfl)]
  | prismatic axis =>
      simp [ofDocument?, toDocument, axisOfDocument?, Document.field?,
        Document.required?, Vec3.ofDocument?_toDocument (finite rfl)]

end Joint

namespace Body

/-- All numbers of a body are finite. -/
structure Finite
    (body : Body K) : Prop where
  axis : body.joint.HasFiniteAxis
  offset : body.offset.allFinite = true

/-- The document of a body has a gap only in place of its coordinate. -/
theorem nullFields_toDocument
    {body : Body K}
    (finite : body.Finite)
    (field : String) :
    body.toDocument.nullFields field =
      if body.dof.isNone then ["dof"] else [] := by
  cases hasDof : body.dof <;>
    simp [toDocument, Document.nullFields, Document.nullFieldsOfRecord,
      FrameId.toDocument, Document.ofNatural?, hasDof,
      Joint.nullFields_toDocument finite.axis,
      Pose.nullFields_toDocument finite.offset]

/-- A body whose numbers are finite is read back. -/
theorem ofDocument?_toDocument
    [NatCast K]
    {body : Body K}
    (finite : body.Finite) :
    ofDocument? body.toDocument = some body := by
  simp [ofDocument?, toDocument, Document.fields?, Document.field?,
    Document.required?, Document.optional?, Document.text?,
    FrameId.ofDocument?, FrameId.toDocument, Document.natural?,
    Joint.ofDocument?_toDocument finite.axis,
    Pose.ofDocument?_toDocument finite.offset,
    Document.optionalNatural?_ofNatural?]

end Body

namespace Mechanism

/-- The document of a mechanism has gaps only in place of coordinates. -/
theorem nullFields_toDocument
    {mechanism : Mechanism K}
    (finite : ∀ body ∈ mechanism.bodies, body.Finite)
    (outer : String) :
    ∀ field ∈ mechanism.toDocument.nullFields outer, field = "dof" := by
  intro field member
  simp only [toDocument, Document.nullFields, Document.nullFieldsOfRecord,
    Document.nullFieldsOfItems_eq_flatMap, List.flatMap_map,
    List.append_nil, List.mem_flatMap] at member
  obtain ⟨body, inside, gap⟩ := member
  rw [Body.nullFields_toDocument (finite body inside)] at gap
  split at gap
  · exact List.mem_singleton.mp gap
  · cases gap

/-- A mechanism whose numbers are finite is read back, as a new one. -/
theorem ofDocument?_toDocument
    [NatCast K]
    {mechanism : Mechanism K}
    (finite : ∀ body ∈ mechanism.bodies, body.Finite)
    (freshRevision : Nat) :
    ofDocument? freshRevision mechanism.toDocument =
      some { mechanism with revision := freshRevision } := by
  have bodies :
      Document.list? Body.ofDocument?
          (.list (mechanism.bodies.map Body.toDocument)) =
        some mechanism.bodies :=
    Document.list?_map fun body inside =>
      Body.ofDocument?_toDocument (finite body inside)
  simp [ofDocument?, toDocument, Document.fields?, Document.field?,
    Document.required?, Document.natural?, bodies]

end Mechanism

end Parts

/-- A finite double equals itself. -/
theorem Binary64.beq_self_of_isFinite
    {number : Float}
    (finite : isFinite number = true) :
    (number == number) = true := by
  have numeric : isNaN number = false := by
    rw [isNaN_eq_false_iff]
    intro undefined
    rw [isFinite_eq] at finite
    have meaning : number.isFinite = (valueOf number).isFinite := rfl
    rw [meaning, undefined] at finite
    cases finite
  rwa [isNaN, Bool.not_eq_false'] at numeric

/-- A vector of finite doubles equals itself. -/
theorem Vec3.beq_self_of_allFinite
    {v : Vec3 Float}
    (finite : v.allFinite = true) :
    (v == v) = true := by
  simp only [allFinite, Bool.and_eq_true] at finite
  have components :
      (v == v) = (v.x == v.x && (v.y == v.y && v.z == v.z)) := rfl
  simp [components, Binary64.beq_self_of_isFinite finite.1.1,
    Binary64.beq_self_of_isFinite finite.1.2,
    Binary64.beq_self_of_isFinite finite.2]

/-- A quaternion of finite doubles equals itself. -/
theorem Quaternion.beq_self_of_allFinite
    {q : Quaternion Float}
    (finite : q.allFinite = true) :
    (q == q) = true := by
  simp only [allFinite, Bool.and_eq_true] at finite
  have components :
      (q == q) = (q.sameComponents q || q.sameComponents (-q)) := rfl
  simp [components, sameComponents,
    Binary64.beq_self_of_isFinite finite.1.1.1,
    Binary64.beq_self_of_isFinite finite.1.1.2,
    Binary64.beq_self_of_isFinite finite.1.2,
    Binary64.beq_self_of_isFinite finite.2]

/-- A pose of finite doubles equals itself. -/
theorem Pose.beq_self_of_allFinite
    {pose : Pose Float}
    (finite : pose.allFinite = true) :
    (pose == pose) = true := by
  rw [allFinite, Bool.and_eq_true] at finite
  have parts :
      (pose == pose) =
        (pose.position == pose.position &&
          pose.rotation == pose.rotation) := rfl
  rw [parts, Vec3.beq_self_of_allFinite finite.1,
    Quaternion.beq_self_of_allFinite finite.2, Bool.and_true]

/-- A joint whose axis is finite equals itself. -/
theorem Joint.beq_self_of_hasFiniteAxis
    {joint : Joint Float}
    (finite : joint.HasFiniteAxis) :
    (joint == joint) = true := by
  cases joint with
  | fixed =>
      rfl
  | revolute axis =>
      exact Vec3.beq_self_of_allFinite (finite rfl)
  | prismatic axis =>
      exact Vec3.beq_self_of_allFinite (finite rfl)

/-- A body of finite doubles equals itself. -/
theorem Body.Finite.beq_self
    {body : Body Float}
    (finite : body.Finite) :
    (body == body) = true := by
  have parts :
      (body == body) =
        (body.name == body.name && body.parent == body.parent &&
          body.joint == body.joint && body.offset == body.offset &&
          body.dof == body.dof) := rfl
  simp [parts, Joint.beq_self_of_hasFiniteAxis finite.axis,
    Pose.beq_self_of_allFinite finite.offset]

/-- A list of items that equal themselves equals itself. -/
theorem beq_self_of_forall
    {α : Type} [BEq α]
    {items : List α}
    (same : ∀ item ∈ items, (item == item) = true) :
    (items == items) = true := by
  induction items with
  | nil =>
      rfl
  | cons item rest inductionHypothesis =>
      rw [List.forall_mem_cons] at same
      rw [List.cons_beq_cons, same.1, inductionHypothesis same.2,
        Bool.and_true]

/-- A mechanism of finite doubles has its own shape. -/
theorem Mechanism.sameShape_self
    {mechanism : Mechanism Float}
    (finite : ∀ body ∈ mechanism.bodies, body.Finite) :
    mechanism.sameShape mechanism = true := by
  have bodies : (mechanism.bodies == mechanism.bodies) = true :=
    beq_self_of_forall fun body inside => (finite body inside).beq_self
  rw [sameShape, bodies, Bool.and_true]
  exact beq_self_eq_true mechanism.dofCount

/-- All numbers of a mechanism that was built are finite. -/
theorem Mechanism.Built.finite
    {mechanism : Mechanism Float}
    (built : mechanism.Built) :
    ∀ body ∈ mechanism.bodies, body.Finite :=
  fun body inside =>
    ⟨built.hasFiniteAxis body inside,
      built.orderly.offset_finite body inside⟩

end Linkage
