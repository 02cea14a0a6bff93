import InstancedAreas.Identity
import InstancedAreas.Json
import InstancedAreas.Text.Digits

/-! The keys under which a template's instances are live, one instance a key:
a party, a player on their own, or a slot of a pool. Parties come before solo
players and those before slots; within a kind the number decides. -/
namespace InstancedAreas

/-- The key of an instance within its template. -/
inductive InstanceKey where
  | party (id : PartyId)
  | solo (player : PlayerId)
  | slot (index : UInt32)
deriving DecidableEq, Repr

namespace InstanceKey

/-- The place of a kind of key among the kinds. -/
def rank : InstanceKey → Nat
  | party _ => 0
  | solo _ => 1
  | slot _ => 2

/-- The number of a key within its kind. -/
def number : InstanceKey → Nat
  | party id => id.toNat
  | solo player => player.toNat
  | slot index => index.toNat

instance : Ord InstanceKey := ⟨compareLex (compareOn rank) (compareOn number)⟩

instance : Std.TransOrd InstanceKey :=
  inferInstanceAs (Std.TransCmp (compareLex (compareOn rank) (compareOn number)))

theorem eq_of_rank_number {a b : InstanceKey} (ranks : a.rank = b.rank)
    (numbers : a.number = b.number) : a = b := by
  cases a <;> cases b <;> simp_all [rank, number, UInt64.toNat_inj, UInt32.toNat_inj]

instance : Std.LawfulEqOrd InstanceKey where
  eq_of_compare {a b} same := by
    have both : (compareOn rank a b).then (compareOn number a b) = .eq := same
    obtain ⟨ranks, numbers⟩ := Ordering.then_eq_eq.mp both
    change compare a.rank b.rank = .eq at ranks
    change compare a.number b.number = .eq at numbers
    exact eq_of_rank_number (Std.LawfulEqCmp.eq_of_compare ranks)
      (Std.LawfulEqCmp.eq_of_compare numbers)

/-- The word for a kind of key. -/
def word : InstanceKey → String
  | party _ => "party"
  | solo _ => "solo"
  | slot _ => "slot"

/-- A key as it stands in messages: `party:3`, `solo:9`, `slot:0`. -/
def text (key : InstanceKey) : String := key.word ++ ":" ++ Text.decimal key.number

/-- The JSON form of a key. -/
def toJson (key : InstanceKey) : Json :=
  .object [("type", .text key.word), ("id", .nat key.number)]

/-- The key that the fields of an object describe, the name of its kind read in
a given way. -/
def ofFields? (name? : Json → Option String) (fields : List (String × Json)) :
    Option InstanceKey := do
  match ← Json.required? fields "type" name? with
  | "party" => (Json.required? fields "id" Json.uint64?).map party
  | "solo" => (Json.required? fields "id" Json.uint64?).map solo
  | "slot" => (Json.required? fields "id" Json.uint32?).map slot
  | _ => none

/-- The key that a JSON object describes. -/
def ofJson? (json : Json) : Option InstanceKey := json.fields?.bind (ofFields? Json.name?)

/-- The key that a JSON object within an event describes. -/
def ofEventJson? (json : Json) : Option InstanceKey :=
  json.fields?.bind (ofFields? Json.looseName?)

end InstanceKey

end InstancedAreas
