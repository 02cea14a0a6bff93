import InstancedAreas.Table

/-! Looking up in tables. A key has the value that was stored under it last,
every other key is untouched by storing and removing, and a table is known by
what its keys have. -/
namespace InstancedAreas.Table

variable {κ : Type u} {β : Type v} [Ord κ]

theorem mem_insertEntry_iff [Std.TransOrd κ] [Std.LawfulEqOrd κ] {key : κ} {value : β}
    {entries : List (κ × β)} {entry : κ × β}
    (ascending : entries.Pairwise (fun a b => compare a.1 b.1 = .lt)) :
    entry ∈ insertEntry key value entries ↔
      entry = (key, value) ∨ entry ∈ entries ∧ entry.1 ≠ key := by
  induction entries with
  | nil => simp [insertEntry]
  | cons head rest ih =>
    obtain ⟨before, tail⟩ := List.pairwise_cons.mp ascending
    have apart {other : κ × β} (member : other ∈ rest) (same : compare key head.1 ≠ .gt) :
        other.1 ≠ key := by
      rintro rfl
      have after := before other member
      exact same (Std.OrientedCmp.gt_of_lt after)
    simp only [insertEntry]
    split
    · rename_i below
      have headApart : head.1 ≠ key := by
        rintro rfl
        simp at below
      constructor
      · intro member
        rcases List.mem_cons.mp member with rfl | inside
        · exact .inl rfl
        · rcases List.mem_cons.mp inside with rfl | inside'
          · exact .inr ⟨inside, headApart⟩
          · exact .inr ⟨inside, apart inside' (by simp [below])⟩
      · rintro (rfl | ⟨inside, _⟩)
        · exact List.mem_cons_self ..
        · exact List.mem_cons_of_mem _ inside
    · rename_i same
      have headSame : key = head.1 := Std.LawfulEqCmp.eq_of_compare same
      constructor
      · intro member
        rcases List.mem_cons.mp member with rfl | inside
        · exact .inl rfl
        · exact .inr ⟨List.mem_cons_of_mem _ inside, apart inside (by simp [same])⟩
      · rintro (rfl | ⟨inside, differs⟩)
        · exact List.mem_cons_self ..
        · rcases List.mem_cons.mp inside with rfl | inside'
          · exact absurd headSame.symm differs
          · exact List.mem_cons_of_mem _ inside'
    · rename_i above
      have headApart : head.1 ≠ key := by
        rintro rfl
        simp at above
      rw [List.mem_cons, ih tail, List.mem_cons]
      constructor
      · rintro (rfl | rfl | ⟨inside, differs⟩)
        · exact .inr ⟨.inl rfl, headApart⟩
        · exact .inl rfl
        · exact .inr ⟨.inr inside, differs⟩
      · rintro (rfl | ⟨rfl | inside, differs⟩)
        · exact .inr (.inl rfl)
        · exact .inl rfl
        · exact .inr (.inr ⟨inside, differs⟩)

theorem eq_of_mem [Std.TransOrd κ] {entries : List (κ × β)} {a b : κ × β}
    (ascending : entries.Pairwise (fun a b => compare a.1 b.1 = .lt))
    (left : a ∈ entries) (right : b ∈ entries) (same : a.1 = b.1) : a = b := by
  induction entries with
  | nil => cases left
  | cons head rest ih =>
    obtain ⟨before, tail⟩ := List.pairwise_cons.mp ascending
    have differs {other : κ × β} (member : other ∈ rest) : head.1 ≠ other.1 := by
      intro equal
      have after := before other member
      simp [equal] at after
    rcases List.mem_cons.mp left with leftHead | leftTail
    · rcases List.mem_cons.mp right with rightHead | rightTail
      · rw [leftHead, rightHead]
      · exact absurd (leftHead ▸ same) (differs rightTail)
    · rcases List.mem_cons.mp right with rightHead | rightTail
      · exact absurd (rightHead ▸ same.symm) (differs leftTail)
      · exact ih tail leftTail rightTail

/-- Looking up finds exactly the entries. -/
theorem find?_eq_some_iff [Std.TransOrd κ] [Std.LawfulEqOrd κ] {t : Table κ β} {key : κ}
    {value : β} : t.find? key = some value ↔ (key, value) ∈ t.entries := by
  constructor
  · intro found
    obtain ⟨entry, first, rfl⟩ := Option.map_eq_some_iff.mp found
    have same : entry.1 = key := by simpa using List.find?_some first
    rw [← same]
    exact List.mem_of_find?_eq_some first
  · intro member
    have some : (t.entries.find? fun entry => compare entry.1 key == .eq).isSome :=
      List.find?_isSome.mpr ⟨(key, value), member, by simp⟩
    obtain ⟨entry, first⟩ := Option.isSome_iff_exists.mp some
    have same : entry.1 = key := by simpa using List.find?_some first
    have whole := eq_of_mem t.ascending (List.mem_of_find?_eq_some first) member same
    rw [find?, first, whole]
    rfl

@[simp]
theorem find?_empty (key : κ) : (empty : Table κ β).find? key = none := rfl

/-- After storing a value, its key has that value and the others are as before. -/
theorem find?_insert [Std.TransOrd κ] [Std.LawfulEqOrd κ] [DecidableEq κ] (t : Table κ β)
    (key other : κ) (value : β) :
    (t.insert key value).find? other = if other = key then some value else t.find? other := by
  apply Option.ext
  intro found
  rw [find?_eq_some_iff, insert, mem_insertEntry_iff t.ascending]
  split
  · rename_i same
    subst same
    simp [eq_comm]
  · rename_i differs
    simp [differs, find?_eq_some_iff]

/-- After removing a key, it has no value and the others are as before. -/
theorem find?_erase [Std.TransOrd κ] [Std.LawfulEqOrd κ] [DecidableEq κ] (t : Table κ β)
    (key other : κ) :
    (t.erase key).find? other = if other = key then none else t.find? other := by
  apply Option.ext
  intro found
  rw [find?_eq_some_iff, erase, List.mem_filter]
  split
  · rename_i same
    simp [same]
  · rename_i differs
    have apart : compare other key ≠ .eq := fun equal =>
      differs (Std.LawfulEqCmp.eq_of_compare equal)
    simp [apart, find?_eq_some_iff]

theorem found_after_inserts [Std.TransOrd κ] [Std.LawfulEqOrd κ] [DecidableEq κ]
    {entries : List (κ × β)} {table : Table κ β} {key : κ} {value : β}
    (found : (entries.foldl (fun t entry => t.insert entry.1 entry.2) table).find? key =
      some value) : (key, value) ∈ entries ∨ table.find? key = some value := by
  induction entries generalizing table with
  | nil => exact .inr found
  | cons entry rest ih =>
    rcases ih found with inside | before
    · exact .inl (List.mem_cons_of_mem _ inside)
    · rw [find?_insert] at before
      split at before
      · rename_i same
        obtain rfl := Option.some.inj before
        exact .inl (by simp [same])
      · exact .inr before

/-- What is found in a table that was built from a list is in the list. -/
theorem mem_of_find?_ofList [Std.TransOrd κ] [Std.LawfulEqOrd κ] [DecidableEq κ]
    {entries : List (κ × β)} {key : κ} {value : β}
    (found : (ofList entries).find? key = some value) : (key, value) ∈ entries :=
  (found_after_inserts found).resolve_right nofun

theorem find?_inserts_eq_none_iff [Std.TransOrd κ] [Std.LawfulEqOrd κ] [DecidableEq κ]
    {entries : List (κ × β)} {table : Table κ β} {key : κ} :
    (entries.foldl (fun t entry => t.insert entry.1 entry.2) table).find? key = none ↔
      key ∉ entries.map Prod.fst ∧ table.find? key = none := by
  induction entries generalizing table with
  | nil => simp
  | cons entry rest ih =>
    rw [List.foldl_cons, ih, find?_insert]
    by_cases here : key = entry.1 <;> simp [here]

/-- A table that was built from a list lacks the keys that the list does not use. -/
theorem find?_ofList_eq_none_iff [Std.TransOrd κ] [Std.LawfulEqOrd κ] [DecidableEq κ]
    {entries : List (κ × β)} {key : κ} :
    (ofList entries).find? key = none ↔ key ∉ entries.map Prod.fst :=
  find?_inserts_eq_none_iff.trans (and_iff_left (find?_empty key))

/-- An entry with a new key is added to the others. -/
theorem insertEntry_perm [Std.LawfulEqOrd κ] {key : κ} {value : β} {entries : List (κ × β)}
    (new : key ∉ entries.map Prod.fst) :
    (insertEntry key value entries).Perm ((key, value) :: entries) := by
  induction entries with
  | nil => exact .refl _
  | cons head rest ih =>
    rw [List.map_cons, List.mem_cons, not_or] at new
    simp only [insertEntry]
    split
    · exact .refl _
    · rename_i same
      exact absurd (Std.LawfulEqCmp.eq_of_compare same) new.1
    · exact ((ih new.2).cons head).trans (.swap ..)

theorem entries_inserts_perm [Std.TransOrd κ] [Std.LawfulEqOrd κ] {entries : List (κ × β)}
    {table : Table κ β} (once : (entries.map Prod.fst ++ table.keys).Nodup) :
    (entries.foldl (fun t entry => t.insert entry.1 entry.2) table).entries.Perm
      (entries ++ table.entries) := by
  induction entries generalizing table with
  | nil => exact .refl _
  | cons entry rest ih =>
    have new : entry.1 ∉ table.keys := fun used =>
      (List.nodup_cons.mp once).1 (List.mem_append_right _ used)
    have inserted : (table.insert entry.1 entry.2).entries.Perm (entry :: table.entries) :=
      insertEntry_perm new
    have keys : (table.insert entry.1 entry.2).keys.Perm (entry.1 :: table.keys) :=
      inserted.map Prod.fst
    have turn : (rest.map Prod.fst ++ (table.insert entry.1 entry.2).keys).Nodup :=
      ((keys.append_left _).trans List.perm_middle).nodup_iff.mpr once
    exact ((ih turn).trans (inserted.append_left rest)).trans List.perm_middle

/-- A table built from a list that uses no key twice has the entries of the list. -/
theorem entries_ofList_perm [Std.TransOrd κ] [Std.LawfulEqOrd κ] {entries : List (κ × β)}
    (once : (entries.map Prod.fst).Nodup) : (ofList entries).entries.Perm entries := by
  have keys : (entries.map Prod.fst ++ (empty : Table κ β).keys).Nodup := by
    rwa [show (empty : Table κ β).keys = [] from rfl, List.append_nil]
  exact (entries_inserts_perm keys).trans (.of_eq (List.append_nil _))

theorem entries_eq_of_mem_iff [Std.TransOrd κ] {left right : List (κ × β)}
    (leftOrder : left.Pairwise (fun a b => compare a.1 b.1 = .lt))
    (rightOrder : right.Pairwise (fun a b => compare a.1 b.1 = .lt))
    (same : ∀ entry, entry ∈ left ↔ entry ∈ right) : left = right := by
  induction left generalizing right with
  | nil =>
    exact (List.eq_nil_iff_forall_not_mem.mpr fun entry member => by
      simpa using (same entry).mpr member).symm
  | cons a left ih =>
    cases right with
    | nil => exact absurd ((same a).mp (List.mem_cons_self ..)) (by simp)
    | cons b right =>
      obtain ⟨beforeLeft, tailLeft⟩ := List.pairwise_cons.mp leftOrder
      obtain ⟨beforeRight, tailRight⟩ := List.pairwise_cons.mp rightOrder
      have irreflexive (entry : κ × β) : compare entry.1 entry.1 ≠ .lt := by
        simp [Std.ReflCmp.compare_self]
      have heads : a = b := by
        rcases List.mem_cons.mp ((same a).mp (List.mem_cons_self ..)) with equal | inRight
        · exact equal
        · rcases List.mem_cons.mp ((same b).mpr (List.mem_cons_self ..)) with equal | inLeft
          · exact equal.symm
          · exact absurd (Std.TransCmp.lt_trans (beforeRight a inRight) (beforeLeft b inLeft))
              (irreflexive b)
      subst heads
      congr 1
      refine ih tailLeft tailRight fun entry => ⟨fun member => ?_, fun member => ?_⟩
      · rcases List.mem_cons.mp ((same entry).mp (List.mem_cons_of_mem _ member)) with rfl | inside
        · exact absurd (beforeLeft entry member) (irreflexive entry)
        · exact inside
      · rcases List.mem_cons.mp ((same entry).mpr (List.mem_cons_of_mem _ member)) with rfl | inside
        · exact absurd (beforeRight entry member) (irreflexive entry)
        · exact inside

/-- The keys of a table are listed once each. -/
theorem keys_nodup [Std.ReflOrd κ] (t : Table κ β) : t.keys.Nodup :=
  List.Pairwise.map _ (fun _ _ below equal => by simp [equal] at below) t.ascending

theorem mem_keys [Std.TransOrd κ] [Std.LawfulEqOrd κ] {t : Table κ β} {key : κ} :
    key ∈ t.keys ↔ ∃ value, t.find? key = some value := by
  simp [keys, find?_eq_some_iff]

theorem mem_values [Std.TransOrd κ] [Std.LawfulEqOrd κ] {t : Table κ β} {value : β} :
    value ∈ t.values ↔ ∃ key, t.find? key = some value := by
  simp [values, find?_eq_some_iff]

/-- Tables in which every key has the same value are equal. -/
theorem ext_find? [Std.TransOrd κ] [Std.LawfulEqOrd κ] {a b : Table κ β}
    (same : ∀ key, a.find? key = b.find? key) : a = b := by
  have entries : a.entries = b.entries :=
    entries_eq_of_mem_iff a.ascending b.ascending fun entry => by
      rw [← find?_eq_some_iff (t := a), ← find?_eq_some_iff (t := b), same]
  cases a
  cases b
  simp_all

/-- Storing what a key already has changes nothing. -/
theorem insert_of_find? [Std.TransOrd κ] [Std.LawfulEqOrd κ] [DecidableEq κ] {t : Table κ β}
    {key : κ} {value : β} (found : t.find? key = some value) : t.insert key value = t := by
  apply ext_find?
  intro other
  rw [find?_insert]
  split
  · rename_i same
    rw [same, found]
  · rfl

end InstancedAreas.Table
