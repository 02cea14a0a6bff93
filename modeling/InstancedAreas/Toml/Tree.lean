import InstancedAreas.Json

/-! Trees of TOML tables under construction. A table remembers how it came to
be, since that decides whether it may still be extended: one with a header of
its own is closed to dotted keys, one that a header passed through may still
get its own header, and one made by dotted keys takes further dotted keys. -/
namespace InstancedAreas.Toml

/-- How a table came to be. -/
inductive Origin where
  /-- It has a header of its own. -/
  | header
  /-- The header of a table inside it passed through it. -/
  | passed
  /-- A dotted key made it. -/
  | dotted
deriving DecidableEq, Repr

/-- A value, a table, or an array of tables. Values are complete: inline tables
and arrays among them cannot be extended. -/
inductive Node where
  | value (json : Json)
  | table (origin : Origin) (fields : List (String × Node))
  | tables (elements : List (List (String × Node)))

/-- The fields of a table. -/
abbrev Fields := List (String × Node)

/-- Fields with a node under a name, in its old place or at the end. -/
def Fields.put (name : String) (node : Node) : Fields → Fields
  | [] => [(name, node)]
  | field :: rest =>
    if field.1 = name then (name, node) :: rest else field :: Fields.put name node rest

/-- A list with its last member changed, if it has one. -/
def changeLast {α β : Type} (change : α → Option (α × β)) : List α → Option (List α × β)
  | [] => none
  | [last] => (change last).map fun (last, result) => ([last], result)
  | item :: rest => (changeLast change rest).map fun (rest, result) => (item :: rest, result)

/-- Changes the fields of the table that a header's path leads to. Tables on
the way are made where they are missing, and of an array of tables the last is
taken. -/
def Fields.within {β : Type} (act : Fields → Option (Fields × β)) :
    List String → Fields → Option (Fields × β)
  | [], fields => act fields
  | name :: path, fields =>
    match fields.lookup name with
    | none =>
      (Fields.within act path []).map fun (inner, result) =>
        (fields.put name (.table .passed inner), result)
    | some (.value _) => none
    | some (.table origin inner) =>
      (Fields.within act path inner).map fun (inner, result) =>
        (fields.put name (.table origin inner), result)
    | some (.tables elements) =>
      (changeLast (Fields.within act path) elements).map fun (elements, result) =>
        (fields.put name (.tables elements), result)

/-- Adds a field whose name is new. -/
def Fields.addNew? (name : String) (node : Node) (fields : Fields) : Option Fields :=
  if (fields.lookup name).isSome then none else some (fields.put name node)

/-- Adds a value under a dotted key. A table on the way must not have a header
of its own, and the innermost must have been made by dotted keys. -/
def Fields.addDotted? (node : Node) (name : String) : List String → Fields → Option Fields
  | [], fields => fields.addNew? name node
  | step :: path, fields =>
    match fields.lookup step with
    | none =>
      (Fields.addDotted? node name path []).map fun inner =>
        fields.put step (.table .dotted inner)
    | some (.value _) => none
    | some (.table origin inner) =>
      if origin = .header ∨ (path = [] ∧ origin ≠ .dotted) then none
      else
        (Fields.addDotted? node name path inner).map fun inner =>
          fields.put step (.table origin inner)
    | some (.tables elements) =>
      if path = [] then none
      else
        (changeLast (fun inner => (Fields.addDotted? node name path inner).map (·, ()))
          elements).map fun (elements, _) => fields.put step (.tables elements)

mutual

/-- The plain value of a node. -/
def Node.toJson : Node → Json
  | .value json => json
  | .table _ fields => .object (fieldsJson fields)
  | .tables elements => .list (elementsJson elements)

/-- The plain values of fields. -/
def fieldsJson : List (String × Node) → List (String × Json)
  | [] => []
  | (name, node) :: rest => (name, node.toJson) :: fieldsJson rest

/-- The plain values of the tables of an array. -/
def elementsJson : List (List (String × Node)) → List Json
  | [] => []
  | fields :: rest => .object (fieldsJson fields) :: elementsJson rest

end

/-- What a line of a document says. The last name of a path stands apart. -/
inductive Statement where
  | pair (path : List String) (name : String) (value : Json)
  | header (path : List String) (name : String)
  | element (path : List String) (name : String)

/-- The table that pairs are added to: the root, or one that a header opened.
It is out of its parent until the next header or the end. -/
inductive Section where
  | root
  | table (path : List String) (name : String)
  | element (path : List String) (name : String)

/-- A document that is being read: what the finished sections hold, and the
fields of the open one. -/
structure Document where
  finished : Fields
  current : Section
  fields : Fields

namespace Document

/-- The document without lines. -/
def empty : Document := ⟨[], .root, []⟩

/-- The fields of all sections together. -/
def close? (document : Document) : Option Fields :=
  match document.current with
  | .root => some document.fields
  | .table path name =>
    (Fields.within (fun parent => (parent.addNew? name (.table .header document.fields)).map (·, ()))
      path document.finished).map (·.1)
  | .element path name =>
    (Fields.within (fun parent =>
        match parent.lookup name with
        | some (.tables elements) =>
          some (parent.put name (.tables (elements ++ [document.fields])), ())
        | _ => none) path document.finished).map (·.1)

/-- Opens the table of a header. It is new, or a header has passed through
it. -/
def openTable? (finished : Fields) (path : List String) (name : String) : Option Document :=
  (Fields.within (fun parent =>
      match parent.lookup name with
      | none => some (parent, [])
      | some (.table .passed inner) => some (parent.filter (·.1 ≠ name), inner)
      | some _ => none) path finished).map fun (finished, inner) =>
    ⟨finished, .table path name, inner⟩

/-- Opens a further table of an array of tables. -/
def openElement? (finished : Fields) (path : List String) (name : String) : Option Document :=
  (Fields.within (fun parent =>
      match parent.lookup name with
      | none => some (parent.put name (.tables []), ())
      | some (.tables _) => some (parent, ())
      | some _ => none) path finished).map fun (finished, _) =>
    ⟨finished, .element path name, []⟩

/-- A document with one line more. -/
def add? (document : Document) : Statement → Option Document
  | .pair path name value =>
    (document.fields.addDotted? (.value value) name path).map fun fields =>
      { document with fields }
  | .header path name => document.close?.bind fun finished => openTable? finished path name
  | .element path name => document.close?.bind fun finished => openElement? finished path name

end Document

/-- The value of a whole document. -/
def Document.ofStatements? (statements : List Statement) : Option Json := do
  let document ← statements.foldlM Document.add? .empty
  let fields ← document.close?
  some (.object (fieldsJson fields))

end InstancedAreas.Toml
