import Linkage.Error
import Linkage.Number.Basic

namespace Linkage

/-!
# Documents

A document is the stored form of a value: numbers, text, lists and records of
named fields.  A whole number that is not negative stays distinct from a real
number, because indices and counts are only read from the former.

A record type is read either from a record, whatever the order of its fields
and with unknown fields ignored, or from the list of its fields in order.
-/

/-- A stored value, with real numbers of type `K`. -/
inductive Document (K : Type) where
  | null
  | bool (value : Bool)
  /-- A whole number, not negative. -/
  | natural (value : Nat)
  /-- Any other number. -/
  | real (value : K)
  | text (value : String)
  | list (items : List (Document K))
  | record (fields : List (String × Document K))
  deriving Repr, Inhabited

namespace Document

variable {K : Type}

/-- A real number; one that is not finite has no stored form. -/
def ofReal
    [Zero K] [Sub K] [BEq K]
    (value : K) : Document K :=
  if isFinite value then .real value else .null

/-- A list of real numbers. -/
def ofReals
    [Zero K] [Sub K] [BEq K]
    (values : List K) : Document K :=
  .list (values.map ofReal)

/-- A whole number that may be missing. -/
def ofNatural? : Option Nat → Document K
  | none => .null
  | some value => .natural value

/-- Read a number. -/
def real?
    [NatCast K] :
    Document K → Option K
  | .real value => some value
  | .natural value => some value
  | _ => none

/-- Read a whole number. -/
def natural? : Document K → Option Nat
  | .natural value => some value
  | _ => none

/-- Read a whole number that may be missing. -/
def optionalNatural? : Document K → Option (Option Nat)
  | .null => some none
  | .natural value => some (some value)
  | _ => none

/-- Read text. -/
def text? : Document K → Option String
  | .text value => some value
  | _ => none

/-- Read a list, item by item. -/
def list?
    {α : Type}
    (item? : Document K → Option α) :
    Document K → Option (List α)
  | .list items => items.mapM item?
  | _ => none

/-- The field of a record with a given name. -/
def field?
    (name : String) :
    Document K → Option (Document K)
  | .record fields =>
      (fields.find? (·.1 == name)).map (·.2)
  | _ => none

/--
The values of a record type's fields.  From a record each is looked up by name
and may be missing; a list has to hold exactly as many items as there are
fields.
-/
def fields?
    (names : List String) :
    Document K → Option (List (Option (Document K)))
  | .record fields =>
      some (names.map fun name => (Document.record fields).field? name)
  | .list items =>
      if items.length = names.length then
        some (items.map some)
      else
        none
  | _ => none

/-- Read a field that has to be there. -/
def required?
    {α : Type}
    (read? : Document K → Option α)
    (field : Option (Document K)) : Option α :=
  field.bind read?

/-- Read a whole number that may be missing, as may its field. -/
def optional?
    (field : Option (Document K)) : Option (Option Nat) :=
  match field with
  | none => some none
  | some document => document.optionalNatural?

end Document

end Linkage
