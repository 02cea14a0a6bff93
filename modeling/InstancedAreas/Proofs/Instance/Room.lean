import InstancedAreas.Instance
import InstancedAreas.Instance.Occupants.Lemmas
import Mathlib.Data.Finset.Card

/-! The room in an instance. The check before a group enters counts the present
occupants and the distinct newcomers, which is the size of the set that the
group's entry leads to, so no instance that admits by it exceeds its limit. -/
namespace InstancedAreas

namespace Occupants

/-- The players of an ascending list are listed once each. -/
theorem players_nodup (o : Occupants) : o.players.Nodup := by
  refine List.Pairwise.imp (fun below equal => ?_) o.ascending
  rw [equal] at below
  exact UInt64.lt_irrefl _ below

theorem mem_players {o : Occupants} {player : PlayerId} :
    player ∈ o.players ↔ o.contains player = true := by
  simp [contains]

/-- Where nobody is left without one player, that player is the only one. -/
theorem eq_singleton {o : Occupants} {player : PlayerId} (inside : o.contains player = true)
    (last : (o.erase player).isEmpty = true) : o.players = [player] := by
  have alone : ∀ other ∈ o.players, other = player := by
    simpa [isEmpty, erase, List.filter_eq_nil_iff] using last
  have once := o.players_nodup
  cases players : o.players with
  | nil => simp [contains, players] at inside
  | cons first rest =>
    rw [players] at alone once
    obtain rfl := alone first (List.mem_cons_self ..)
    have nobody : rest = [] := List.eq_nil_iff_forall_not_mem.mpr fun other member =>
      (List.nodup_cons.mp once).1 (alone other (List.mem_cons_of_mem _ member) ▸ member)
    rw [nobody]

theorem size_eq_card (o : Occupants) : o.size = o.players.toFinset.card :=
  (List.toFinset_card_of_nodup o.players_nodup).symm

theorem toFinset_insertAll (o : Occupants) (players : List PlayerId) :
    (o.insertAll players).players.toFinset = o.players.toFinset ∪ players.toFinset := by
  ext player
  simp only [List.mem_toFinset, Finset.mem_union, mem_players, contains_insertAll]
  simp [or_comm]

/-- Letting a group in adds as many as there are distinct players in it who are
not inside. -/
theorem size_insertAll (o : Occupants) (players : List PlayerId) :
    (o.insertAll players).size =
      o.size + (ofList (players.filter fun player => !o.contains player)).size := by
  have newcomers : (ofList (players.filter fun player => !o.contains player)).players.toFinset =
      players.toFinset \ o.players.toFinset := by
    ext player
    rw [ofList, toFinset_insertAll]
    simp [mem_players, empty]
  rw [size_eq_card, size_eq_card, size_eq_card, toFinset_insertAll, newcomers, Nat.add_comm,
    Finset.card_sdiff_add_card, Finset.union_comm]

/-- Nobody comes in when a player leaves. -/
theorem size_erase_le (o : Occupants) (player : PlayerId) : (o.erase player).size ≤ o.size :=
  List.length_filter_le ..

end Occupants

namespace Instance

/-- The occupants do not exceed a limit, where there is one. -/
def Within (i : Instance) (limit : Option UInt32) : Prop :=
  ∀ most, limit = some most → i.occupants.size ≤ most.toNat

/-- There is room for a group exactly if the instance is within the limit once
the group has entered. -/
theorem hasRoomFor_iff_within (i : Instance) (players : List PlayerId) (limit : Option UInt32) :
    i.hasRoomFor players limit = true ↔
      ({ i with occupants := (i.occupants.enterAll players).1 } : Instance).Within limit := by
  cases limit with
  | none => simp [hasRoomFor, Within]
  | some most =>
    simp [hasRoomFor, Within, Occupants.enterAll_fst, Occupants.size_insertAll]

/-- An instance has room for a group if the occupants and the group together do
not exceed the limit, where there is one. -/
def HasRoom (i : Instance) (group : Finset PlayerId) (limit : Option UInt32) : Prop :=
  ∀ most, limit = some most → (i.occupants.players.toFinset ∪ group).card ≤ most.toNat

theorem hasRoomFor_iff_hasRoom {i : Instance} {players : List PlayerId} {limit : Option UInt32} :
    i.hasRoomFor players limit = true ↔ i.HasRoom players.toFinset limit := by
  simp only [hasRoomFor_iff_within, Within, HasRoom, Occupants.size_eq_card, Occupants.enterAll_fst,
    Occupants.toFinset_insertAll]

/-- For a group that has entered there is room if there was before. -/
theorem hasRoom_insertAll {i : Instance} {players : List PlayerId} {limit : Option UInt32} :
    ({ i with occupants := i.occupants.insertAll players } : Instance).HasRoom players.toFinset
      limit ↔ i.HasRoom players.toFinset limit := by
  simp only [HasRoom, Occupants.toFinset_insertAll, Finset.union_assoc, Finset.union_self]

/-- Where there is room for a group, there is room for each part of it. -/
theorem HasRoom.of_subset {i : Instance} {group part : Finset PlayerId} {limit : Option UInt32}
    (room : i.HasRoom group limit) (fewer : part ⊆ group) : i.HasRoom part limit :=
  fun most bounded => Nat.le_trans
    (Finset.card_le_card (Finset.union_subset_union_right fewer)) (room most bounded)

/-- An empty instance has room for every group that is within the limit. -/
theorem hasRoom_of_empty {i : Instance} (empty : i.occupants = .empty) {group : Finset PlayerId}
    {limit : Option UInt32} :
    i.HasRoom group limit ↔ ∀ most, limit = some most → group.card ≤ most.toNat := by
  simp [HasRoom, empty, Occupants.empty]

end Instance

end InstancedAreas
