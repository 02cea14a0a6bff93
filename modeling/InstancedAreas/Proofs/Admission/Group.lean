import InstancedAreas.Admission.Request
import Mathlib.Data.Finset.Card

/-! The group of a request is the set of the player and the companions, with
nobody in it twice. What admission counts by its length is therefore the number
of its members. -/
namespace InstancedAreas.Request

/-- Everybody whom a request is for. -/
def members (request : Request) : Finset PlayerId :=
  insert request.player request.companions.toFinset

theorem mem_distinct {seen players : List PlayerId} {player : PlayerId} :
    player ∈ distinct seen players ↔ player ∈ players ∧ player ∉ seen := by
  induction players generalizing seen with
  | nil => simp [distinct]
  | cons first rest ih =>
    simp only [distinct]
    split
    · rename_i before
      have before : first ∈ seen := by simpa using before
      rw [ih, List.mem_cons]
      constructor
      · exact fun ⟨member, unseen⟩ => ⟨.inr member, unseen⟩
      · rintro ⟨rfl | member, unseen⟩
        · exact absurd before unseen
        · exact ⟨member, unseen⟩
    · rename_i unseen
      have unseen : first ∉ seen := by simpa using unseen
      rw [List.mem_cons, ih, List.mem_cons, List.mem_cons, not_or]
      constructor
      · rintro (rfl | ⟨member, -, elsewhere⟩)
        · exact ⟨.inl rfl, unseen⟩
        · exact ⟨.inr member, elsewhere⟩
      · rintro ⟨rfl | member, elsewhere⟩
        · exact .inl rfl
        · by_cases same : player = first
          · exact .inl same
          · exact .inr ⟨member, same, elsewhere⟩

theorem distinct_nodup (seen players : List PlayerId) : (distinct seen players).Nodup := by
  induction players generalizing seen with
  | nil => exact .nil
  | cons first rest ih =>
    simp only [distinct]
    split
    · exact ih seen
    · refine List.nodup_cons.mpr ⟨fun again => ?_, ih (first :: seen)⟩
      exact (mem_distinct.mp again).2 (List.mem_cons_self ..)

@[simp]
theorem toFinset_group (request : Request) : request.group.toFinset = request.members := by
  ext player
  simp [group, members, mem_distinct]

theorem mem_members {request : Request} {player : PlayerId} :
    player ∈ request.members ↔ request.group.contains player = true := by
  rw [← toFinset_group, List.mem_toFinset, List.contains_iff_mem]

theorem player_mem_group (request : Request) : request.player ∈ request.group := by
  simp [group, mem_distinct]

/-- Nobody is listed twice. -/
theorem length_group (request : Request) : request.group.length = request.members.card := by
  have once : request.group.Nodup := distinct_nodup ..
  rw [← toFinset_group, List.toFinset_card_of_nodup once]

end InstancedAreas.Request
