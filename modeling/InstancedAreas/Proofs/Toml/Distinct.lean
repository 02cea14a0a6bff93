import InstancedAreas.Toml

/-! The names of the fields in a TOML document. However a table is put together, by headers,
by dotted keys or between braces, a name that it has already is never given a second time. So
a document that can be read is a table, and each table in it names every field once. -/
namespace InstancedAreas.Toml

/-- The values that a document can hold, where each table names every field once. -/
inductive Distinct : Json → Prop where
  | bool (value : Bool) : Distinct (.bool value)
  | int (value : Int) : Distinct (.int value)
  | real (numeral : String) : Distinct (.real numeral)
  | text (value : String) : Distinct (.text value)
  | list {items : List Json} (each : ∀ item ∈ items, Distinct item) : Distinct (.list items)
  | table {fields : List (String × Json)} (once : (fields.map Prod.fst).Nodup)
      (each : ∀ field ∈ fields, Distinct field.2) : Distinct (.object fields)

/-- The same of a tree under construction. -/
inductive Node.Distinct : Node → Prop where
  | value {json : Json} (distinct : Toml.Distinct json) : Distinct (.value json)
  | table {origin : Origin} {fields : Fields} (once : (fields.map Prod.fst).Nodup)
      (each : ∀ field ∈ fields, Distinct field.2) : Distinct (.table origin fields)
  | tables {elements : List Fields} (once : ∀ fields ∈ elements, (fields.map Prod.fst).Nodup)
      (each : ∀ fields ∈ elements, ∀ field ∈ fields, Distinct field.2) :
      Distinct (.tables elements)

/-- The same of the fields of a table under construction. -/
structure Fields.Distinct (fields : Fields) : Prop where
  once : (fields.map Prod.fst).Nodup
  each : ∀ field ∈ fields, field.2.Distinct

theorem Distinct.once {fields : List (String × Json)} (distinct : Distinct (.object fields)) :
    (fields.map Prod.fst).Nodup := by
  cases distinct with
  | table once each => exact once

theorem Distinct.of_lookup {fields : List (String × Json)} {name : String} {value : Json}
    (distinct : Distinct (.object fields)) (found : fields.lookup name = some value) :
    Distinct value := by
  cases distinct with
  | table once each =>
    obtain ⟨front, back, rfl, -⟩ := List.lookup_eq_some_iff.mp found
    exact each (name, value) List.mem_append_cons_self

theorem distinct_empty : Distinct (.object []) :=
  .table List.nodup_nil fun _ member => absurd member List.not_mem_nil

/-! ### Trees under construction -/

theorem fieldsJson_eq (fields : Fields) :
    fieldsJson fields = fields.map fun field => (field.1, field.2.toJson) := by
  induction fields with
  | nil => rfl
  | cons field rest ih => rw [fieldsJson, ih, List.map_cons]

theorem elementsJson_eq (elements : List Fields) :
    elementsJson elements = elements.map fun fields => .object (fieldsJson fields) := by
  induction elements with
  | nil => rfl
  | cons fields rest ih => rw [elementsJson, ih, List.map_cons]

/-- Plain values keep the names of the fields. -/
theorem distinct_fieldsJson {fields : Fields} (once : (fields.map Prod.fst).Nodup)
    (each : ∀ field ∈ fields, Toml.Distinct field.2.toJson) :
    Toml.Distinct (.object (fieldsJson fields)) := by
  rw [fieldsJson_eq]
  refine .table ?_ (List.forall_mem_map.mpr each)
  rwa [List.map_map]

theorem Node.Distinct.toJson {node : Node} (distinct : node.Distinct) :
    Toml.Distinct node.toJson := by
  induction distinct with
  | value distinct => exact distinct
  | table once each ih => exact distinct_fieldsJson once ih
  | tables once each ih =>
    rw [Node.toJson, elementsJson_eq]
    exact .list (List.forall_mem_map.mpr fun fields member =>
      distinct_fieldsJson (once fields member) (ih fields member))

namespace Fields

variable {fields : Fields} {name : String} {node : Node}

theorem distinct_nil : Distinct [] where
  once := List.nodup_nil
  each _ member := absurd member List.not_mem_nil

theorem Distinct.of_lookup (distinct : fields.Distinct)
    (found : fields.lookup name = some node) : node.Distinct := by
  obtain ⟨front, back, rfl, -⟩ := List.lookup_eq_some_iff.mp found
  exact distinct.each (name, node) List.mem_append_cons_self

theorem mem_put {field : String × Node} (member : field ∈ fields.put name node) :
    field = (name, node) ∨ field ∈ fields := by
  induction fields with
  | nil => exact .inl (List.mem_singleton.mp member)
  | cons first rest ih =>
    rw [put] at member
    split at member
    · exact (List.mem_cons.mp member).imp_right (List.mem_cons_of_mem first)
    · rcases List.mem_cons.mp member with rfl | inside
      · exact .inr List.mem_cons_self
      · exact (ih inside).imp_right (List.mem_cons_of_mem first)

/-- A field that is put among others keeps the names distinct, since it stands in place of
one with its name. -/
theorem Distinct.put (distinct : fields.Distinct) (sound : node.Distinct) :
    (fields.put name node).Distinct := by
  refine ⟨?_, fun field member => (mem_put member).elim (fun own => own ▸ sound)
    (distinct.each field)⟩
  have once := distinct.once
  clear distinct
  induction fields with
  | nil => exact List.nodup_cons.mpr ⟨List.not_mem_nil, List.nodup_nil⟩
  | cons first rest ih =>
    obtain ⟨new, once⟩ := List.nodup_cons.mp once
    rw [Fields.put]
    split
    · rename_i same
      exact List.nodup_cons.mpr ⟨same ▸ new, once⟩
    · rename_i other
      refine List.nodup_cons.mpr ⟨fun again => ?_, ih once⟩
      obtain ⟨field, member, same⟩ := List.mem_map.mp again
      rcases mem_put member with rfl | inside
      · exact other same.symm
      · exact new (List.mem_map.mpr ⟨field, inside, same⟩)

theorem Distinct.sublist {fewer : Fields} (distinct : fields.Distinct)
    (part : fewer.Sublist fields) : fewer.Distinct where
  once := distinct.once.sublist (part.map Prod.fst)
  each field member := distinct.each field (part.mem member)

theorem Distinct.addNew? {changed : Fields} (distinct : fields.Distinct)
    (sound : node.Distinct) (added : fields.addNew? name node = some changed) :
    changed.Distinct := by
  rw [Fields.addNew?] at added
  split at added
  · cases added
  · cases added
    exact distinct.put sound

/-! ### Changes inside a tree -/

/-- A change of fields that keeps their names distinct, and what it yields besides has a
property. -/
def Keeps {β : Type} (act : Fields → Option (Fields × β)) (P : β → Prop) : Prop :=
  ∀ ⦃fields changed result⦄, fields.Distinct → act fields = some (changed, result) →
    changed.Distinct ∧ P result

section Keeps

variable {β : Type} {act : Fields → Option (Fields × β)} {P : β → Prop}

theorem distinct_table {origin : Origin} :
    Node.Distinct (.table origin fields) ↔ fields.Distinct := by
  constructor
  · intro distinct
    cases distinct with
    | table once each => exact ⟨once, each⟩
  · exact fun distinct => .table distinct.once distinct.each

theorem distinct_tables {elements : List Fields} :
    Node.Distinct (.tables elements) ↔ ∀ fields ∈ elements, fields.Distinct := by
  constructor
  · intro distinct
    cases distinct with
    | tables once each => exact fun fields member => ⟨once fields member, each fields member⟩
  · exact fun each => .tables (fun fields member => (each fields member).once)
      fun fields member => (each fields member).each

theorem Keeps.of_change {change : Fields → Option Fields}
    (keeps : ∀ {fields changed}, fields.Distinct → change fields = some changed →
      changed.Distinct) : Keeps (fun fields => (change fields).map (·, ())) fun _ => True := by
  intro fields changed result distinct done
  obtain ⟨after, acted, same⟩ := Option.map_eq_some_iff.mp done
  cases same
  exact ⟨keeps distinct acted, trivial⟩

theorem Keeps.changeLast (keeps : Keeps act P) {elements changed : List Fields} {result : β}
    (each : ∀ fields ∈ elements, fields.Distinct)
    (done : Toml.changeLast act elements = some (changed, result)) :
    (∀ fields ∈ changed, fields.Distinct) ∧ P result := by
  induction elements generalizing changed with
  | nil => cases done
  | cons first rest ih =>
    obtain ⟨own, others⟩ := List.forall_mem_cons.mp each
    cases rest with
    | nil =>
      obtain ⟨⟨last, yielded⟩, acted, same⟩ := Option.map_eq_some_iff.mp done
      cases same
      obtain ⟨kept, had⟩ := keeps own acted
      exact ⟨List.forall_mem_singleton.mpr kept, had⟩
    | cons second rest =>
      obtain ⟨⟨behind, yielded⟩, acted, same⟩ := Option.map_eq_some_iff.mp done
      cases same
      obtain ⟨kept, had⟩ := ih others acted
      exact ⟨List.forall_mem_cons.mpr ⟨own, kept⟩, had⟩

/-- Wherever a path leads, a change there keeps the names distinct in the whole tree. -/
theorem Keeps.within (keeps : Keeps act P) (path : List String) :
    Keeps (Fields.within act path) P := by
  induction path with
  | nil => exact keeps
  | cons step path ih =>
    intro fields changed result distinct done
    rw [Fields.within] at done
    split at done
    · obtain ⟨⟨inner, yielded⟩, acted, same⟩ := Option.map_eq_some_iff.mp done
      cases same
      obtain ⟨kept, had⟩ := ih distinct_nil acted
      exact ⟨distinct.put (distinct_table.mpr kept), had⟩
    · cases done
    · rename_i found
      obtain ⟨⟨inner, yielded⟩, acted, same⟩ := Option.map_eq_some_iff.mp done
      cases same
      obtain ⟨kept, had⟩ := ih (distinct_table.mp (distinct.of_lookup found)) acted
      exact ⟨distinct.put (distinct_table.mpr kept), had⟩
    · rename_i found
      obtain ⟨⟨elements, yielded⟩, acted, same⟩ := Option.map_eq_some_iff.mp done
      cases same
      obtain ⟨kept, had⟩ := ih.changeLast (distinct_tables.mp (distinct.of_lookup found)) acted
      exact ⟨distinct.put (distinct_tables.mpr kept), had⟩

end Keeps

/-- A value that is added under a dotted key keeps the names distinct in the whole tree. -/
theorem Distinct.addDotted? (sound : node.Distinct) {path : List String} {changed : Fields}
    (distinct : fields.Distinct) (added : fields.addDotted? node name path = some changed) :
    changed.Distinct := by
  induction path generalizing fields changed with
  | nil => exact distinct.addNew? sound added
  | cons step path ih =>
    rw [Fields.addDotted?] at added
    split at added
    · obtain ⟨inner, acted, rfl⟩ := Option.map_eq_some_iff.mp added
      have kept := ih distinct_nil acted
      exact distinct.put (distinct_table.mpr kept)
    · cases added
    · rename_i found
      split at added
      · cases added
      · obtain ⟨inner, acted, rfl⟩ := Option.map_eq_some_iff.mp added
        have kept := ih (distinct_table.mp (distinct.of_lookup found)) acted
        exact distinct.put (distinct_table.mpr kept)
    · rename_i found
      split at added
      · cases added
      · obtain ⟨⟨elements, yielded⟩, acted, rfl⟩ := Option.map_eq_some_iff.mp added
        have kept := (Keeps.of_change ih).changeLast
          (distinct_tables.mp (distinct.of_lookup found)) acted
        exact distinct.put (distinct_tables.mpr kept.1)

end Fields

/-! ### Documents -/

/-- The values in a statement are distinct. -/
def Statement.Distinct : Statement → Prop
  | .pair _ _ value => Toml.Distinct value
  | .header .. | .element .. => True

namespace Document

/-- The same of a document that is being read. -/
structure Distinct (document : Document) : Prop where
  finished : document.finished.Distinct
  fields : document.fields.Distinct

variable {document : Document}

theorem distinct_empty : Document.empty.Distinct := ⟨Fields.distinct_nil, Fields.distinct_nil⟩

/-- The fields of all sections together have distinct names. -/
theorem Distinct.close? (distinct : document.Distinct) {fields : Fields}
    (closed : document.close? = some fields) : fields.Distinct := by
  rw [Document.close?] at closed
  split at closed
  · cases closed
    exact distinct.fields
  · rename_i path name opened
    obtain ⟨⟨whole, yielded⟩, acted, rfl⟩ := Option.map_eq_some_iff.mp closed
    have keeps := Fields.Keeps.of_change fun {parent after} sound
        (added : parent.addNew? name (.table .header document.fields) = some after) =>
      sound.addNew? (Fields.distinct_table.mpr distinct.fields) added
    exact (keeps.within path distinct.finished acted).1
  · obtain ⟨⟨whole, yielded⟩, acted, rfl⟩ := Option.map_eq_some_iff.mp closed
    refine (Fields.Keeps.within (P := fun _ => True) ?_ _ distinct.finished acted).1
    intro before after result sound done
    dsimp only at done
    split at done
    · rename_i found
      cases done
      have each := List.forall_mem_append.mpr
        ⟨Fields.distinct_tables.mp (sound.of_lookup found),
          List.forall_mem_singleton.mpr distinct.fields⟩
      exact ⟨sound.put (Fields.distinct_tables.mpr each), trivial⟩
    · cases done

/-- The fields of a table that a header opens, and of all that stays outside, have distinct
names. -/
theorem distinct_openTable? {finished : Fields} {path : List String} {name : String}
    (distinct : finished.Distinct) (opened : openTable? finished path name = some document) :
    document.Distinct := by
  obtain ⟨⟨whole, inner⟩, acted, rfl⟩ := Option.map_eq_some_iff.mp opened
  refine And.elim .mk (Fields.Keeps.within (P := Fields.Distinct) ?_ path distinct acted)
  intro before after result sound done
  dsimp only at done
  split at done
  · cases done
    exact ⟨sound, Fields.distinct_nil⟩
  · rename_i found
    cases done
    exact ⟨sound.sublist List.filter_sublist, Fields.distinct_table.mp (sound.of_lookup found)⟩
  · cases done

theorem distinct_openElement? {finished : Fields} {path : List String} {name : String}
    (distinct : finished.Distinct) (opened : openElement? finished path name = some document) :
    document.Distinct := by
  obtain ⟨⟨whole, yielded⟩, acted, rfl⟩ := Option.map_eq_some_iff.mp opened
  refine ⟨(Fields.Keeps.within (P := fun _ => True) ?_ path distinct acted).1, Fields.distinct_nil⟩
  intro before after result sound done
  dsimp only at done
  split at done
  · cases done
    have none : Node.Distinct (.tables []) :=
      Fields.distinct_tables.mpr fun fields member => absurd member List.not_mem_nil
    exact ⟨sound.put none, trivial⟩
  · cases done
    exact ⟨sound, trivial⟩
  · cases done

/-- A line keeps the names distinct in what has been read. -/
theorem Distinct.add? (distinct : document.Distinct) {statement : Statement}
    (sound : statement.Distinct) {after : Document} (added : document.add? statement = some after) :
    after.Distinct := by
  cases statement with
  | pair path name value =>
    obtain ⟨fields, acted, rfl⟩ := Option.map_eq_some_iff.mp added
    exact ⟨distinct.finished, distinct.fields.addDotted? (.value sound) acted⟩
  | header path name =>
    obtain ⟨fields, closed, opened⟩ := Option.bind_eq_some_iff.mp added
    exact distinct_openTable? (distinct.close? closed) opened
  | element path name =>
    obtain ⟨fields, closed, opened⟩ := Option.bind_eq_some_iff.mp added
    exact distinct_openElement? (distinct.close? closed) opened

/-- So do all lines, one after the other. -/
theorem Distinct.addAll (distinct : document.Distinct) {statements : List Statement}
    (sound : ∀ statement ∈ statements, statement.Distinct) {after : Document}
    (added : statements.foldlM Document.add? document = some after) : after.Distinct := by
  induction statements generalizing document with
  | nil =>
    cases added
    exact distinct
  | cons statement rest ih =>
    obtain ⟨own, others⟩ := List.forall_mem_cons.mp sound
    rw [List.foldlM_cons] at added
    obtain ⟨next, first, later⟩ := Option.bind_eq_some_iff.mp added
    exact ih (distinct.add? own first) others later

theorem distinct_ofStatements? {statements : List Statement}
    (sound : ∀ statement ∈ statements, statement.Distinct) {tree : Json}
    (made : ofStatements? statements = some tree) :
    Toml.Distinct tree ∧ ∃ fields, tree = .object fields := by
  obtain ⟨document, added, made⟩ := Option.bind_eq_some_iff.mp made
  obtain ⟨fields, closed, made⟩ := Option.bind_eq_some_iff.mp made
  cases made
  have whole : Node.Distinct (.table .header fields) :=
    Fields.distinct_table.mpr ((distinct_empty.addAll sound added).close? closed)
  exact ⟨whole.toJson, _, rfl⟩

end Document

/-! ### Texts -/

theorem distinct_scalar? {chars : List Char} {value : Json} (read : scalar? chars = some value) :
    Distinct value := by
  unfold scalar? at read
  split at read
  · cases read
    exact .bool true
  split at read
  · cases read
    exact .bool false
  split at read
  · cases read
    exact distinct_empty
  split at read
  · cases read
    exact .real _
  · obtain ⟨n, -, rfl⟩ := Option.map_eq_some_iff.mp read
    exact .int n

/-- What is read with so much fuel is distinct: a value, the items of an array after items
that are, the pairs of an inline table after pairs that are, and a pair. -/
structure ReadsDistinct (fuel : Nat) : Prop where
  value : ∀ ⦃depth chars value rest⦄, value? fuel depth chars = some (value, rest) →
    Distinct value
  items : ∀ ⦃depth seen chars value rest⦄, (∀ item ∈ seen, Distinct item) →
    items? fuel depth seen chars = some (value, rest) → Distinct value
  pairs : ∀ ⦃depth seen chars statements rest⦄, (∀ pair ∈ seen, Statement.Distinct pair) →
    pairs? fuel depth seen chars = some (statements, rest) →
    ∀ statement ∈ statements, Statement.Distinct statement
  pair : ∀ ⦃depth chars statement rest⦄, pair? fuel depth chars = some (statement, rest) →
    Statement.Distinct statement

namespace ReadsDistinct

variable {fuel depth : Nat} {chars rest : List Char}

theorem zero : ReadsDistinct 0 where
  value _ _ _ _ read := by simp only [value?, reduceCtorEq] at read
  items _ _ _ _ _ _ read := by simp only [items?, reduceCtorEq] at read
  pairs _ _ _ _ _ _ read := by simp only [pairs?, reduceCtorEq] at read
  pair _ _ _ _ read := by simp only [pair?, reduceCtorEq] at read

theorem value_succ (reads : ReadsDistinct fuel) {value : Json}
    (read : value? (fuel + 1) depth chars = some (value, rest)) : Distinct value := by
  unfold value? at read
  split at read
  · cases read
  · cases read
  · exact reads.items (fun item member => absurd member List.not_mem_nil) read
  · split at read
    · cases read
      exact distinct_empty
    · obtain ⟨⟨statements, behind⟩, pairs, made⟩ := Option.bind_eq_some_iff.mp read
      obtain ⟨tree, whole, same⟩ := Option.map_eq_some_iff.mp made
      cases same
      have sound := reads.pairs (fun pair member => absurd member List.not_mem_nil) pairs
      exact (Document.distinct_ofStatements? sound whole).1
  · split at read
    · obtain ⟨⟨text, behind⟩, -, same⟩ := Option.map_eq_some_iff.mp read
      cases same
      exact .text text
    · obtain ⟨scalar, plain, same⟩ := Option.map_eq_some_iff.mp read
      cases same
      exact distinct_scalar? plain
  · cases read

theorem items_succ (reads : ReadsDistinct fuel) {seen : List Json} {value : Json}
    (each : ∀ item ∈ seen, Distinct item)
    (read : items? (fuel + 1) depth seen chars = some (value, rest)) : Distinct value := by
  have listed {items : List Json} (each : ∀ item ∈ items, Distinct item) :
      Distinct (.list items.reverse) :=
    .list fun item member => each item (List.mem_reverse.mp member)
  unfold items? at read
  split at read
  · cases read
    exact listed each
  split at read
  · cases read
  · rename_i item behind found
    have longer := List.forall_mem_cons.mpr ⟨reads.value found, each⟩
    split at read
    · exact reads.items longer read
    · cases read
      exact listed longer
    · cases read

theorem pairs_succ (reads : ReadsDistinct fuel) {seen statements : List Statement}
    (each : ∀ pair ∈ seen, Statement.Distinct pair)
    (read : pairs? (fuel + 1) depth seen chars = some (statements, rest)) :
    ∀ statement ∈ statements, Statement.Distinct statement := by
  unfold pairs? at read
  split at read
  · cases read
  · rename_i pair behind found
    have longer := List.forall_mem_cons.mpr ⟨reads.pair found, each⟩
    split at read
    · exact reads.pairs longer read
    · cases read
      exact fun statement member => longer statement (List.mem_reverse.mp member)
    · cases read

theorem pair_succ (reads : ReadsDistinct fuel) {statement : Statement}
    (read : pair? (fuel + 1) depth chars = some (statement, rest)) : statement.Distinct := by
  unfold pair? at read
  split at read
  · cases read
  split at read
  · split at read
    · cases read
    · rename_i found
      cases read
      exact reads.value found
  · cases read

end ReadsDistinct

/-- Whatever the fuel, what is read is distinct. -/
theorem readsDistinct (fuel : Nat) : ReadsDistinct fuel := by
  induction fuel with
  | zero => exact .zero
  | succ fuel ih =>
    exact ⟨fun _ _ _ _ => ih.value_succ, fun _ _ _ _ _ => ih.items_succ,
      fun _ _ _ _ _ => ih.pairs_succ, fun _ _ _ _ => ih.pair_succ⟩

theorem distinct_statement? {chars rest : List Char} {statement : Statement}
    (read : statement? chars = some (statement, rest)) : statement.Distinct := by
  unfold statement? at read
  split at read
  · obtain ⟨⟨⟨path, name⟩, behind⟩, -, read⟩ := Option.bind_eq_some_iff.mp read
    dsimp only at read
    split at read
    · cases read
      trivial
    · cases read
  · obtain ⟨⟨⟨path, name⟩, behind⟩, -, read⟩ := Option.bind_eq_some_iff.mp read
    dsimp only at read
    split at read
    · cases read
      trivial
    · cases read
  · exact (readsDistinct _).pair read

theorem distinct_statements? {fuel : Nat} {seen statements : List Statement} {chars : List Char}
    (each : ∀ statement ∈ seen, Statement.Distinct statement)
    (read : statements? fuel seen chars = some statements) :
    ∀ statement ∈ statements, Statement.Distinct statement := by
  induction fuel generalizing seen chars with
  | zero => cases read
  | succ fuel ih =>
    rw [statements?] at read
    split at read
    · cases read
      exact fun statement member => each statement (List.mem_reverse.mp member)
    split at read
    · cases read
    · rename_i found
      split at read
      · cases read
      · exact ih (List.forall_mem_cons.mpr ⟨distinct_statement? found, each⟩) read

/-- A document that can be read is a table, and each table in it names every field once. -/
theorem distinct_parse? {text : String} {tree : Json} (read : parse? text = some tree) :
    Distinct tree ∧ ∃ fields, tree = .object fields := by
  obtain ⟨statements, found, made⟩ := Option.bind_eq_some_iff.mp read
  have none (statement : Statement) (member : statement ∈ []) : statement.Distinct :=
    absurd member List.not_mem_nil
  exact Document.distinct_ofStatements? (distinct_statements? none found) made

end InstancedAreas.Toml
