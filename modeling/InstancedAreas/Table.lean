/-! Tables: association lists kept in ascending order of their keys, so that
equal contents are equal tables and listing needs no sorting. -/
namespace InstancedAreas

/-- A finite map whose entries are listed in ascending order of the keys. -/
structure Table (κ : Type u) (β : Type v) [Ord κ] where
  entries : List (κ × β)
  ascending : entries.Pairwise (fun a b => compare a.1 b.1 = .lt)

namespace Table

variable {κ : Type u} {β : Type v} [Ord κ]

/-- The table without entries. -/
def empty : Table κ β := ⟨[], .nil⟩

instance : Inhabited (Table κ β) := ⟨empty⟩

instance [DecidableEq κ] [DecidableEq β] : DecidableEq (Table κ β) := fun a b =>
  decidable_of_iff (a.entries = b.entries) (by cases a; cases b; simp)

/-- The keys in ascending order. -/
def keys (t : Table κ β) : List κ := t.entries.map (·.1)

/-- The values in ascending order of their keys. -/
def values (t : Table κ β) : List β := t.entries.map (·.2)

/-- The number of entries. -/
def size (t : Table κ β) : Nat := t.entries.length

/-- The value stored under a key. -/
def find? (t : Table κ β) (key : κ) : Option β :=
  (t.entries.find? (fun entry => compare entry.1 key == .eq)).map (·.2)

/-- Whether a key has a value. -/
def contains (t : Table κ β) (key : κ) : Bool := (t.find? key).isSome

/-- Puts an entry at its place in an ascending list, replacing the entry of
an equal key. -/
def insertEntry (key : κ) (value : β) : List (κ × β) → List (κ × β)
  | [] => [(key, value)]
  | entry :: rest =>
    match compare key entry.1 with
    | .lt => (key, value) :: entry :: rest
    | .eq => (key, value) :: rest
    | .gt => entry :: insertEntry key value rest

theorem mem_insertEntry {key : κ} {value : β} {entries : List (κ × β)} {entry : κ × β}
    (member : entry ∈ insertEntry key value entries) :
    entry = (key, value) ∨ entry ∈ entries := by
  induction entries with
  | nil => simpa [insertEntry] using member
  | cons head rest ih =>
    simp only [insertEntry] at member
    split at member
    · simpa using member
    · rcases List.mem_cons.mp member with rfl | tail
      · exact .inl rfl
      · exact .inr (List.mem_cons_of_mem _ tail)
    · rcases List.mem_cons.mp member with rfl | tail
      · exact .inr (by simp)
      · rcases ih tail with same | inside
        · exact .inl same
        · exact .inr (List.mem_cons_of_mem _ inside)

theorem insertEntry_ascending [Std.TransOrd κ] (key : κ) (value : β) (entries : List (κ × β))
    (ascending : entries.Pairwise (fun a b => compare a.1 b.1 = .lt)) :
    (insertEntry key value entries).Pairwise (fun a b => compare a.1 b.1 = .lt) := by
  induction entries with
  | nil => simp [insertEntry]
  | cons head rest ih =>
    obtain ⟨before, tail⟩ := List.pairwise_cons.mp ascending
    simp only [insertEntry]
    split
    · rename_i below
      refine List.pairwise_cons.mpr ⟨fun entry member => ?_, ascending⟩
      rcases List.mem_cons.mp member with rfl | inside
      · exact below
      · exact Std.TransCmp.lt_trans below (before entry inside)
    · rename_i same
      refine List.pairwise_cons.mpr ⟨fun entry member => ?_, tail⟩
      exact Std.TransCmp.lt_of_eq_of_lt same (before entry member)
    · rename_i above
      refine List.pairwise_cons.mpr ⟨fun entry member => ?_, ih tail⟩
      rcases mem_insertEntry member with rfl | inside
      · exact Std.OrientedCmp.lt_of_gt above
      · exact before entry inside

/-- Stores a value under a key, in place of an earlier one. -/
def insert [Std.TransOrd κ] (t : Table κ β) (key : κ) (value : β) : Table κ β :=
  ⟨insertEntry key value t.entries, insertEntry_ascending key value t.entries t.ascending⟩

/-- Removes a key and its value. -/
def erase (t : Table κ β) (key : κ) : Table κ β :=
  ⟨t.entries.filter (fun entry => compare entry.1 key != .eq), t.ascending.filter _⟩

/-- The table that holds the listed entries, a later one in place of an
earlier one with the same key. -/
def ofList [Std.TransOrd κ] (entries : List (κ × β)) : Table κ β :=
  entries.foldl (fun table entry => table.insert entry.1 entry.2) empty

end Table

end InstancedAreas
