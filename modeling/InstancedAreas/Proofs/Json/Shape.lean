import InstancedAreas.Proofs.Json.Text

/-! Shapes that are read as they are written. A shape is faithful if every value is
read from its JSON form, which its text gives back. Lists of a faithful shape are
faithful, and so are objects, whose fields may be left out or `null` where a value is
absent, provided that no field is there twice. -/
namespace InstancedAreas.Json

variable {α : Type} {write : α → Json} {read? : Json → Option α}

/-- What is written is read back, from the JSON value and from its text. It is never
`null`, which stands for what is absent. -/
structure Faithful (write : α → Json) (read? : Json → Option α) : Prop where
  restored : ∀ value, read? (write value) = some value
  plain : ∀ value, (write value).Plain
  present : ∀ value, write value ≠ .null

/-- Every value of a shape survives writing and reading: it is read from its JSON form,
and from the text of that. -/
def Survives (write : α → Json) (read? : Json → Option α) : Prop :=
  ∀ value, read? (write value) = some value ∧
    (parse? (write value).render).bind read? = some value

/-- What is written in a faithful shape survives. -/
theorem Faithful.survives (faithful : Faithful write read?) : Survives write read? := by
  intro value
  rw [parse?_render (faithful.plain value), Option.bind_some]
  exact ⟨faithful.restored value, faithful.restored value⟩

theorem faithful_text : Faithful .text text? := ⟨fun _ => rfl, .text, nofun⟩

theorem faithful_bool : Faithful .bool bool? := ⟨fun _ => rfl, .bool, nofun⟩

theorem natBelow?_nat {limit n : Nat} (below : n < limit) :
    natBelow? limit (.nat n) = some n := by
  have within : (0 : Int) ≤ n ∧ (n : Int) < limit := by omega
  rw [natBelow?, int?, Option.bind_some, if_pos within, Int.toNat_natCast]

theorem faithful_uint32 : Faithful (fun n : UInt32 => .nat n.toNat) uint32? where
  restored n := by
    rw [uint32?, natBelow?_nat n.toNat_lt, Option.map_some, UInt32.ofNat_toNat]
  plain n := .nat n.toNat
  present _ := nofun

theorem faithful_uint64 : Faithful (fun n : UInt64 => .nat n.toNat) uint64? where
  restored n := by
    rw [uint64?, natBelow?_nat n.toNat_lt, Option.map_some, UInt64.ofNat_toNat]
  plain n := .nat n.toNat
  present _ := nofun

/-- Lists of a faithful shape are read member by member. -/
theorem Faithful.list (faithful : Faithful write read?) :
    Faithful (fun values => .list (values.map write)) (listOf? read?) where
  restored values := by
    rw [listOf?]
    induction values with
    | nil => rfl
    | cons value rest ih => simp [faithful.restored, ih]
  plain values := .list fun item member => by
    obtain ⟨value, -, rfl⟩ := List.mem_map.mp member
    exact faithful.plain value
  present _ := nofun

/-! ### Fields -/

section Fields

variable {fields : List (String × Json)} {name other : String} {value : α} {option : Option α}

/-- A field that is there is read. -/
theorem Faithful.required (faithful : Faithful write read?)
    (found : fields.lookup name = some (write value)) :
    required? fields name read? = some value := by
  rw [required?, found, Option.bind_some, faithful.restored]

/-- A field that may be missing is read where it is there. -/
theorem Faithful.optional (faithful : Faithful write read?)
    (found : fields.lookup name = some (write value)) (default : α) :
    optional? fields name read? default = some value := by
  rw [optional?, found]
  exact faithful.restored value

/-- A field that is `null` or missing when its value is absent is read. -/
theorem Faithful.nullable (faithful : Faithful write read?)
    (found : fields.lookup name = some (orNull write option) ∨
      fields.lookup name = option.map write) :
    nullable? fields name read? = some option := by
  cases option with
  | none =>
    rcases found with null | missing
    · rw [nullable?, null]
      rfl
    · rw [nullable?, missing]
      rfl
  | some value =>
    have there : fields.lookup name = some (write value) := found.elim id id
    rw [nullable?, there]
    split
    · rename_i missing
      cases missing
    · rename_i null
      exact absurd (Option.some.inj null) (faithful.present value)
    · rename_i json _ same
      cases same
      rw [faithful.restored, Option.map_some]

/-- A field that is left out when its value is absent is found under its name alone. -/
theorem lookup_fieldIfSome :
    (fieldIfSome name write option).lookup other =
      if other = name then option.map write else none := by
  cases option with
  | none => simp [fieldIfSome]
  | some value =>
    by_cases same : other = name
    · simp [fieldIfSome, same]
    · simp [fieldIfSome, List.lookup_cons, same, beq_false_of_ne same]

end Fields

/-- Plain fields, some of the named ones in the order of their names. -/
inductive PlainFields : List String → List (String × Json) → Prop where
  | nil : PlainFields [] []
  | field {name : String} {value : Json} {names : List String} {fields : List (String × Json)}
      (first : value.Plain) (others : PlainFields names fields) :
      PlainFields (name :: names) ((name, value) :: fields)
  | without {name : String} {names : List String} {fields : List (String × Json)}
      (others : PlainFields names fields) : PlainFields (name :: names) fields

namespace PlainFields

variable {names names' : List String} {fields fields' : List (String × Json)}

theorem append (front : PlainFields names fields) (behind : PlainFields names' fields') :
    PlainFields (names ++ names') (fields ++ fields') := by
  induction front with
  | nil => exact behind
  | field first _ ih => exact .field first ih
  | without _ ih => exact .without ih

theorem empty : (names : List String) → PlainFields names []
  | [] => .nil
  | _ :: names => .without (empty names)

theorem sublist (plain : PlainFields names fields) : (fields.map Prod.fst).Sublist names := by
  induction plain with
  | nil => exact .slnil
  | field _ _ ih => exact ih.cons_cons _
  | without _ ih => exact ih.cons _

theorem each (plain : PlainFields names fields) : ∀ field ∈ fields, field.2.Plain := by
  induction plain with
  | nil => exact nofun
  | field first _ ih => exact List.forall_mem_cons.mpr ⟨first, ih⟩
  | without _ ih => exact ih

/-- There are no fields of other names. -/
theorem lookup_eq_none (plain : PlainFields names fields) {name : String}
    (other : name ∉ names) : fields.lookup name = none := by
  refine List.lookup_eq_none_iff.mpr fun field member => bne_iff_ne.mpr ?_
  rintro rfl
  exact other (plain.sublist.mem (List.mem_map_of_mem member))

/-- An object of different plain fields is plain. -/
theorem object (plain : PlainFields names fields) (once : names.Nodup) : Plain (.object fields) :=
  .object (once.sublist plain.sublist) plain.each

end PlainFields

/-- A field that is left out when its value is absent is plain. -/
theorem Faithful.plain_fieldIfSome (faithful : Faithful write read?) (name : String)
    (option : Option α) : PlainFields [name] (fieldIfSome name write option) := by
  cases option with
  | none => exact .without .nil
  | some value => exact .field (faithful.plain value) .nil

/-- What is `null` when it is absent is plain. -/
theorem Faithful.plain_orNull (faithful : Faithful write read?) (option : Option α) :
    (orNull write option).Plain := by
  cases option with
  | none => exact .null
  | some value => exact faithful.plain value

end InstancedAreas.Json
