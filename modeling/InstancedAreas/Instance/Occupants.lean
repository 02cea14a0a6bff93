import InstancedAreas.Identity

/-! The players inside an instance: a set, listed in ascending order. -/
namespace InstancedAreas

/-- A set of players in ascending order. -/
structure Occupants where
  players : List PlayerId
  ascending : players.Pairwise (· < ·)
deriving DecidableEq

namespace Occupants

/-- Nobody. -/
def empty : Occupants := ⟨[], .nil⟩

instance : Inhabited Occupants := ⟨empty⟩

/-- Puts a player at their place in an ascending list that lacks them. -/
def place (player : PlayerId) : List PlayerId → List PlayerId
  | [] => [player]
  | other :: rest =>
    if player < other then player :: other :: rest
    else if other < player then other :: place player rest
    else other :: rest

theorem mem_place {player other : PlayerId} {players : List PlayerId} :
    other ∈ place player players ↔ other = player ∨ other ∈ players := by
  induction players with
  | nil => simp [place]
  | cons head rest ih =>
    simp only [place]
    split
    · simp
    · split
      · simp only [List.mem_cons, ih]
        constructor
        · rintro (here | here | here) <;> simp [here]
        · rintro (here | here | here) <;> simp [here]
      · rename_i notBelow notAbove
        have same : player = head := UInt64.toNat_inj.mp (by
          rw [UInt64.lt_iff_toNat_lt] at notBelow notAbove
          omega)
        simp [same]

theorem place_ascending (player : PlayerId) {players : List PlayerId}
    (ascending : players.Pairwise (· < ·)) : (place player players).Pairwise (· < ·) := by
  induction players with
  | nil => simp [place]
  | cons head rest ih =>
    obtain ⟨before, tail⟩ := List.pairwise_cons.mp ascending
    simp only [place]
    split
    · rename_i below
      refine List.pairwise_cons.mpr ⟨fun other member => ?_, ascending⟩
      rcases List.mem_cons.mp member with rfl | inside
      · exact below
      · exact UInt64.lt_trans below (before other inside)
    · split
      · rename_i above
        refine List.pairwise_cons.mpr ⟨fun other member => ?_, ih tail⟩
        rcases mem_place.mp member with rfl | inside
        · exact above
        · exact before other inside
      · exact ascending

/-- The set with a player. -/
def insert (o : Occupants) (player : PlayerId) : Occupants :=
  ⟨place player o.players, place_ascending player o.ascending⟩

/-- The set without a player. -/
def erase (o : Occupants) (player : PlayerId) : Occupants :=
  ⟨o.players.filter (· != player), o.ascending.filter _⟩

/-- Whether a player is inside. -/
def contains (o : Occupants) (player : PlayerId) : Bool := o.players.contains player

/-- The number of players. -/
def size (o : Occupants) : Nat := o.players.length

/-- Whether nobody is inside. -/
def isEmpty (o : Occupants) : Bool := o.players.isEmpty

/-- The set with the players of a list. -/
def insertAll (o : Occupants) (players : List PlayerId) : Occupants := players.foldl insert o

/-- The set of the players of a list. -/
def ofList (players : List PlayerId) : Occupants := empty.insertAll players

/-- Lets the players of a list in one after the other, and lists those who
were not inside when their turn came. -/
def enterAll (o : Occupants) : List PlayerId → Occupants × List PlayerId
  | [] => (o, [])
  | player :: rest =>
    if o.contains player then o.enterAll rest
    else
      let (after, entered) := (o.insert player).enterAll rest
      (after, player :: entered)

end Occupants

end InstancedAreas
