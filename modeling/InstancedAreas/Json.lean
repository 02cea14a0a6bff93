/-! JSON values and the reading of shapes. A reader is total: it yields the
value that the JSON spells, or nothing when the JSON does not have the shape.
Fields that a shape does not know are ignored. -/
namespace InstancedAreas

/-- A JSON value. Whole numbers are kept exactly; a number with a fraction or
an exponent is kept as written, since no shape of this library accepts one. -/
inductive Json where
  | null
  | bool (value : Bool)
  /-- A whole number that cannot have a sign. -/
  | nat (value : Nat)
  /-- A whole number that may have a sign, whether or not it is negative. -/
  | int (value : Int)
  | real (numeral : String)
  | text (value : String)
  | list (items : List Json)
  | object (fields : List (String × Json))
deriving Inhabited

namespace Json

/-- The fields of an object. -/
def fields? : Json → Option (List (String × Json))
  | .object fields => some fields
  | _ => none

/-- A text. -/
def text? : Json → Option String
  | .text value => some value
  | _ => none

/-- A truth value. -/
def bool? : Json → Option Bool
  | .bool value => some value
  | _ => none

/-- A name: a text, or an object with the name as its only field, which is
`null`. -/
def name? : Json → Option String
  | .text name => some name
  | .object [(name, .null)] => some name
  | _ => none

/-- A name, where the only field of an object may also be an empty object. -/
def looseName? : Json → Option String
  | .object [(name, .object [])] => some name
  | json => json.name?

/-- A whole number of either kind. -/
def int? : Json → Option Int
  | .nat value => some value
  | .int value => some value
  | _ => none

/-- A whole number from zero up to, and without, a limit. -/
def natBelow? (limit : Nat) (json : Json) : Option Nat :=
  json.int?.bind fun value => if 0 ≤ value ∧ value < limit then some value.toNat else none

/-- A whole number of 32 bits. -/
def uint32? (json : Json) : Option UInt32 := (natBelow? UInt32.size json).map UInt32.ofNat

/-- A whole number of 64 bits. -/
def uint64? (json : Json) : Option UInt64 := (natBelow? UInt64.size json).map UInt64.ofNat

/-- A list whose members all have a shape. -/
def listOf? {α : Type} (item? : Json → Option α) : Json → Option (List α)
  | .list items => items.mapM item?
  | _ => none

/-- The value of a field that must be there. -/
def required? {α : Type} (fields : List (String × Json)) (name : String)
    (value? : Json → Option α) : Option α :=
  (fields.lookup name).bind value?

/-- The value of a field, or a default when the field is missing. A field that
is there must have the shape, so `null` is no way of leaving it out. -/
def optional? {α : Type} (fields : List (String × Json)) (name : String)
    (value? : Json → Option α) (default : α) : Option α :=
  match fields.lookup name with
  | none => some default
  | some json => value? json

/-- The value of a field that may be missing or `null`. -/
def nullable? {α : Type} (fields : List (String × Json)) (name : String)
    (value? : Json → Option α) : Option (Option α) :=
  match fields.lookup name with
  | none => some none
  | some .null => some none
  | some json => (value? json).map some

/-- A value that may be absent, written as `null` when it is. -/
def orNull {α : Type} (write : α → Json) : Option α → Json
  | none => .null
  | some value => write value

/-- The field of a value that may be absent, left out when it is. -/
def fieldIfSome {α : Type} (name : String) (write : α → Json) :
    Option α → List (String × Json)
  | none => []
  | some value => [(name, write value)]

end Json

end InstancedAreas
