import InstancedAreas.Proofs.Registry.Change

/-! Where admission puts groups. The key that a request is placed under is one
that its template allots: a party or a solo player where instances belong to
parties, a slot within the capacity where there are slots. Admission opens
instances under such keys only. -/
namespace InstancedAreas

/-- Whether groups of a template may be placed under a key. A capacity of zero
bounds no slot. -/
def Template.Allots (t : Template) (key : InstanceKey) : Prop :=
  match t.kind, key with
  | .exclusive _, .party _ => True
  | .exclusive _, .solo _ => True
  | .pooled capacity _, .slot index => 0 < capacity → index < capacity
  | _, _ => False

namespace Pool

/-- The slot that is found lies below the number of slots. -/
theorem firstFit_below {fits : Instance → Bool} {count next : Nat}
    {slots : List (UInt32 × Instance)} {placement : Placement} (bound : count ≤ UInt32.size)
    (placed : firstFit fits count next slots = some placement) :
    ∃ index : UInt32, placement.key = .slot index ∧ index.toNat < count := by
  have free {n : Nat} (below : n < count) : (UInt32.ofNat n).toNat < count := by
    rw [UInt32.toNat_ofNat_of_lt' (Nat.lt_of_lt_of_le below bound)]
    exact below
  induction slots generalizing next with
  | nil =>
    simp only [firstFit] at placed
    split at placed
    · cases placed
      exact ⟨_, rfl, free ‹_›⟩
    · cases placed
  | cons first rest ih =>
    obtain ⟨index, i⟩ := first
    simp only [firstFit] at placed
    split at placed
    · cases placed
    · rename_i inside
      split at placed
      · cases placed
        exact ⟨_, rfl, free (by omega)⟩
      · rename_i occupied
        split at placed
        · cases placed
          exact ⟨index, rfl, by omega⟩
        · exact ih placed

theorem slotRange_le (pool : Pool) : pool.slotRange ≤ UInt32.size := by
  simp only [slotRange]
  split
  · exact Nat.le_of_lt (UInt32.toNat_lt _)
  · exact Nat.le_refl _

/-- In a template of parties the place is under the key of the party, or of the
player who has none. -/
theorem placeExclusive_key {pool : Pool} {now : Instant} {request : Request}
    {placement : Placement} (placed : pool.placeExclusive now request = .ok placement) :
    (∃ party, placement.key = .party party) ∨ ∃ player, placement.key = .solo player := by
  simp only [placeExclusive] at placed
  cases belongs : request.party with
  | none =>
    simp only [belongs] at placed
    split at placed
    · cases placed
      exact .inr ⟨_, rfl⟩
    · split at placed <;> cases placed
      exact .inr ⟨_, rfl⟩
  | some context =>
    simp only [belongs] at placed
    split at placed
    · cases placed
      exact .inl ⟨_, rfl⟩
    · split at placed <;> cases placed
      exact .inl ⟨_, rfl⟩

/-- In a template with slots the place is in a slot below the number of slots. -/
theorem placePooled_below {pool : Pool} {now : Instant} {group : List PlayerId}
    {placement : Placement} (placed : pool.placePooled now group = .ok placement) :
    ∃ index : UInt32, placement.key = .slot index ∧ index.toNat < pool.slotRange := by
  simp only [placePooled] at placed
  split at placed
  · rename_i found
    cases placed
    exact firstFit_below pool.slotRange_le found
  · cases placed

/-- The place of a request is under a key that its template allots. -/
theorem place_allots {pool : Pool} {now : Instant} {request : Request} {placement : Placement}
    (placed : pool.place now request = .ok placement) : pool.template.Allots placement.key := by
  simp only [place] at placed
  split at placed
  · rename_i most exclusive
    rcases placeExclusive_key placed with ⟨party, key⟩ | ⟨player, key⟩ <;>
      simp [Template.Allots, exclusive, key]
  · rename_i capacity perSlot pooled
    obtain ⟨index, key, below⟩ := placePooled_below placed
    rw [key]
    simp only [Template.Allots, pooled]
    intro bounded
    have range : pool.slotRange = capacity.toNat := by
      simp [slotRange, Template.slotCount, pooled, bounded]
    exact UInt32.lt_iff_toNat_lt.mpr (range ▸ below)

end Pool

/-- What admission with an id may open: the instance of that id, under a key
that the template allots. -/
def Opens.admission (fresh : InstanceId) (t : Template) (i : Instance) : Prop :=
  i.id = fresh ∧ t.Allots i.key

namespace Registry

variable {now : Instant} {r : Registry}

theorem occupy_effect (keyed : r.Keyed) {fresh : InstanceId} {pool : Pool}
    (home : r.pool? pool.template.id = some pool) (request : Request) (lifetime : Duration)
    {placement : Placement} (allots : pool.template.Allots placement.key) :
    Effect (Opens.admission fresh) now r
      (r.occupy now fresh pool.template request lifetime placement).1 := by
  have joined {s : Registry} (keyed : s.Keyed) :=
    addOccupants_change keyed now pool.template.id placement.key request.group
  simp only [occupy]
  split
  · refine .of_change ?_
    have change := joined keyed
    split <;> rename_i same <;> rw [same] at change <;> exact change
  · split
    · exact .refl r
    · rcases create_cases (Opens.admission fresh) keyed now fresh
        pool.template.id placement.key lifetime
        ((request.originOverride <|> pool.template.returnArea).getD request.currentArea)
        (fun other i found id key => by
          rw [home] at found
          cases found
          exact ⟨id, key ▸ allots⟩) with
        ⟨error, failed⟩ | ⟨after, i, opened, opening⟩
      · rw [failed]
        exact .refl r
      · rw [opened]
        have change := joined (opening.keyed keyed)
        refine ⟨after, .inr opening, ?_⟩
        dsimp only
        split <;> rename_i same <;> rw [same] at change <;> exact change

/-- Admission opens at most an instance of the id it is given, under a key that
the template allots. -/
theorem enter_effect (keyed : r.Keyed) (fresh : InstanceId) (request : Request) :
    Effect (Opens.admission fresh) now r (r.enter now fresh request).1 := by
  simp only [enter]
  split
  · exact .refl r
  · rename_i pool home
    split
    · exact .refl r
    · split
      · exact .refl r
      · split
        · exact .refl r
        · rename_i placement placed
          exact occupy_effect keyed (keyed.home home) request _ (Pool.place_allots placed)

end Registry

/-- A gate admits as its template does, or changes nothing. -/
theorem Gate.pass_effect {now : Instant} {r : Registry} (keyed : r.Keyed)
    (policies : Gate.Policies) (source : Gate.Source) (fresh : InstanceId) (gate : String)
    (request : Request) :
    Effect (Opens.admission fresh) now r
      (Gate.pass policies source r now fresh gate request).1 := by
  simp only [pass]
  split
  · exact .refl r
  · split
    · exact .refl r
    · exact .refl r
    · exact .refl r
    · exact Registry.enter_effect keyed fresh _

end InstancedAreas
