import InstancedAreas.Admission
import InstancedAreas.Table.Lemmas

/-! The search for a slot. It goes through the occupied slots in ascending order
and stops at the first gap before one of them, or at the first of them that
fits. What it finds is the least slot in range that is free or fits, and where
it finds nothing there is none. -/
namespace InstancedAreas.Pool

/-- A slot is taken by an instance that does not fit. -/
def Blocked (fits : Instance → Bool) (slots : List (UInt32 × Instance)) (index : UInt32) : Prop :=
  ∃ i, (index, i) ∈ slots ∧ fits i = false

section FirstFit

variable {fits : Instance → Bool} {count next : Nat} {slots : List (UInt32 × Instance)}

theorem Blocked.cons {first : UInt32 × Instance} {index : UInt32}
    (blocked : Blocked fits slots index) : Blocked fits (first :: slots) index := by
  obtain ⟨i, member, misfit⟩ := blocked
  exact ⟨i, List.mem_cons_of_mem _ member, misfit⟩

/-- The occupied slots that are still to come lie ahead of the search. -/
def Ahead (next : Nat) (slots : List (UInt32 × Instance)) : Prop :=
  slots.Pairwise (fun a b => a.1 < b.1) ∧ ∀ entry ∈ slots, next ≤ entry.1.toNat

theorem Ahead.tail {first : UInt32 × Instance} (ahead : Ahead next (first :: slots))
    (reached : first.1.toNat = next) : Ahead (next + 1) slots := by
  obtain ⟨before, tail⟩ := List.pairwise_cons.mp ahead.1
  refine ⟨tail, fun entry member => ?_⟩
  have above := UInt32.lt_iff_toNat_lt.mp (before entry member)
  omega

/-- Where no slot is found, every slot in range is blocked. -/
theorem firstFit_none (ahead : Ahead next slots)
    (nowhere : firstFit fits count next slots = none) {index : UInt32}
    (reached : next ≤ index.toNat) (below : index.toNat < count) : Blocked fits slots index := by
  induction slots generalizing next with
  | nil =>
    simp only [firstFit] at nowhere
    split at nowhere
    · cases nowhere
    · omega
  | cons first rest ih =>
    obtain ⟨slot, i⟩ := first
    have here := ahead.2 _ (List.mem_cons_self ..)
    simp only [firstFit] at nowhere
    split at nowhere
    · omega
    · split at nowhere
      · cases nowhere
      · split at nowhere
        · cases nowhere
        · rename_i occupied misfit
          -- No gap is left before this slot, so the search has arrived at it.
          have arrived : slot.toNat = next := by dsimp only at here; omega
          by_cases same : index = slot
          · subst same
            exact ⟨i, List.mem_cons_self .., by simpa using misfit⟩
          · have differs : index.toNat ≠ slot.toNat := mt UInt32.toNat_inj.mp same
            exact (ih (ahead.tail arrived) nowhere (by omega)).cons

/-- A placement is in a slot in range that is free or fits, and every slot before
it is blocked. -/
structure Found (fits : Instance → Bool) (count next : Nat) (slots : List (UInt32 × Instance))
    (placement : Placement) (index : UInt32) : Prop where
  key : placement.key = .slot index
  reached : next ≤ index.toNat
  below : index.toNat < count
  suits : placement.live = false ∧ (∀ i, (index, i) ∉ slots) ∨
    placement.live = true ∧ ∃ i, (index, i) ∈ slots ∧ fits i = true
  least : ∀ earlier : UInt32, next ≤ earlier.toNat → earlier < index →
    Blocked fits slots earlier

/-- A gap before the occupied slots is found. -/
theorem Found.gap (bound : count ≤ UInt32.size) (below : next < count)
    (clear : ∀ entry ∈ slots, next < entry.1.toNat) :
    Found fits count next slots ⟨.slot (.ofNat next), false⟩ (.ofNat next) := by
  have same : (UInt32.ofNat next).toNat = next :=
    UInt32.toNat_ofNat_of_lt' (Nat.lt_of_lt_of_le below bound)
  refine ⟨rfl, by omega, by omega, .inl ⟨rfl, fun i member => ?_⟩, fun earlier reached before => ?_⟩
  · have above := clear _ member
    dsimp only at above
    omega
  · have before := UInt32.lt_iff_toNat_lt.mp before
    omega

/-- A slot that is found beyond a blocked one is found. -/
theorem Found.beyond {slot index : UInt32} {i : Instance} {placement : Placement}
    (found : Found fits count (next + 1) slots placement index) (arrived : slot.toNat = next)
    (misfit : fits i = false) : Found fits count next ((slot, i) :: slots) placement index := by
  have reached := found.reached
  refine ⟨found.key, by omega, found.below, ?_, fun earlier started before => ?_⟩
  · rcases found.suits with ⟨dead, free⟩ | ⟨live, j, member, fit⟩
    · refine .inl ⟨dead, fun j member => ?_⟩
      rcases List.mem_cons.mp member with here | later
      · obtain ⟨rfl, -⟩ := Prod.mk.inj here
        omega
      · exact free j later
    · exact .inr ⟨live, j, List.mem_cons_of_mem _ member, fit⟩
  · by_cases same : earlier = slot
    · subst same
      exact ⟨i, List.mem_cons_self .., misfit⟩
    · have differs : earlier.toNat ≠ slot.toNat := mt UInt32.toNat_inj.mp same
      exact (found.least earlier (by omega) before).cons

theorem firstFit_some (bound : count ≤ UInt32.size) (ahead : Ahead next slots)
    {placement : Placement} (placed : firstFit fits count next slots = some placement) :
    ∃ index, Found fits count next slots placement index := by
  induction slots generalizing next with
  | nil =>
    simp only [firstFit] at placed
    split at placed
    · cases placed
      exact ⟨_, .gap bound ‹_› (List.forall_mem_nil _)⟩
    · cases placed
  | cons first rest ih =>
    obtain ⟨slot, i⟩ := first
    have here := ahead.2 _ (List.mem_cons_self ..)
    dsimp only at here
    simp only [firstFit] at placed
    split at placed
    · cases placed
    · rename_i inside
      split at placed
      · rename_i gap
        cases placed
        refine ⟨_, .gap bound (by omega) fun entry member => ?_⟩
        rcases List.mem_cons.mp member with rfl | later
        · exact gap
        · have above := (List.pairwise_cons.mp ahead.1).1 entry later
          exact Nat.lt_trans gap (UInt32.lt_iff_toNat_lt.mp above)
      · rename_i occupied
        have arrived : slot.toNat = next := by omega
        split at placed
        · rename_i fit
          cases placed
          refine ⟨slot, rfl, here, by omega, .inr ⟨rfl, i, List.mem_cons_self .., fit⟩,
            fun earlier reached before => ?_⟩
          have before := UInt32.lt_iff_toNat_lt.mp before
          omega
        · rename_i misfit
          obtain ⟨index, found⟩ := ih (ahead.tail arrived) placed
          exact ⟨index, found.beyond arrived (by simpa using misfit)⟩

end FirstFit

/-! ## The slots of a pool -/

variable {pool : Pool}

theorem mem_slots {index : UInt32} {i : Instance} :
    (index, i) ∈ pool.slots ↔ pool.instances.find? (.slot index) = some i := by
  rw [Table.find?_eq_some_iff, slots, List.mem_filterMap]
  constructor
  · rintro ⟨⟨key, j⟩, member, shown⟩
    cases key with
    | slot other =>
      cases shown
      exact member
    | party _ | solo _ => cases shown
  · exact fun member => ⟨_, member, rfl⟩

theorem slot_lt {index other : UInt32}
    (below : compare (InstanceKey.slot index) (.slot other) = .lt) : index < other := by
  have numbers : (compare 2 2).then (compare index.toNat other.toNat) = .lt := below
  exact UInt32.lt_iff_toNat_lt.mpr (Nat.compare_eq_lt.mp numbers)

theorem slots_ahead (pool : Pool) : Ahead 0 pool.slots := by
  refine ⟨?_, fun _ _ => Nat.zero_le _⟩
  refine List.Pairwise.filterMap _ (fun a b below x shown y shown' => ?_) pool.instances.ascending
  obtain ⟨key, i⟩ := a
  obtain ⟨key', j⟩ := b
  cases key with
  | party _ | solo _ => cases shown
  | slot index =>
    cases key' with
    | party _ | solo _ => cases shown'
    | slot other =>
      cases shown
      cases shown'
      exact slot_lt below

end InstancedAreas.Pool
