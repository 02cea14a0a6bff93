import InstancedAreas.Instance.Occupants

/-! Membership in sets of players. A set is known by its members, and letting
players in one after the other leads to the set with all of them. -/
namespace InstancedAreas.Occupants

/-- A set is known by its members. -/
theorem ext_contains {a b : Occupants} (same : ∀ player, a.contains player = b.contains player) :
    a = b := by
  have members (player : PlayerId) : player ∈ a.players ↔ player ∈ b.players := by
    simpa [contains] using same player
  have distinct (o : Occupants) : o.players.Nodup := by
    refine List.Pairwise.imp (fun below equal => ?_) o.ascending
    rw [equal] at below
    exact UInt64.lt_irrefl _ below
  have players : a.players = b.players :=
    List.Perm.eq_of_pairwise
      (fun x y _ _ below above => absurd (UInt64.lt_trans below above) (UInt64.lt_irrefl x))
      a.ascending b.ascending ((List.perm_ext_iff_of_nodup (distinct a) (distinct b)).mpr members)
  cases a
  cases b
  simp_all

@[simp]
theorem contains_empty (player : PlayerId) : empty.contains player = false := rfl

/-- After a player has come in, the set has that player and the others as
before. -/
@[simp]
theorem contains_insert (o : Occupants) (player other : PlayerId) :
    (o.insert player).contains other = (other == player || o.contains other) := by
  apply Bool.eq_iff_iff.mpr
  simp [contains, insert, mem_place]

/-- After a player has left, the set lacks that player and has the others as
before. -/
@[simp]
theorem contains_erase (o : Occupants) (player other : PlayerId) :
    (o.erase player).contains other = (other != player && o.contains other) := by
  apply Bool.eq_iff_iff.mpr
  simp [contains, erase, and_comm]

theorem contains_insertAll (o : Occupants) (players : List PlayerId) (other : PlayerId) :
    (o.insertAll players).contains other = (players.contains other || o.contains other) := by
  induction players generalizing o with
  | nil => simp [insertAll]
  | cons player rest ih =>
    have step := ih (o.insert player)
    simp only [insertAll, List.foldl_cons] at step ⊢
    rw [step, contains_insert, List.contains_cons]
    cases other == player <;> cases rest.contains other <;> rfl

theorem insert_of_contains {o : Occupants} {player : PlayerId}
    (inside : o.contains player = true) : o.insert player = o :=
  ext_contains fun other => by
    by_cases same : other = player
    · simp [same, inside]
    · simp [same]

/-- Letting players in one after the other leads to the set with all of them. -/
theorem enterAll_fst (o : Occupants) (players : List PlayerId) :
    (o.enterAll players).1 = o.insertAll players := by
  induction players generalizing o with
  | nil => rfl
  | cons player rest ih =>
    simp only [enterAll]
    split
    · rename_i inside
      rw [ih, insertAll, insertAll, List.foldl_cons, insert_of_contains inside]
    · exact ih (o.insert player)

/-- Where all are inside, nobody comes in. -/
theorem enterAll_of_inside {o : Occupants} {players : List PlayerId}
    (inside : ∀ player ∈ players, o.contains player = true) : o.enterAll players = (o, []) := by
  induction players with
  | nil => rfl
  | cons player rest ih =>
    obtain ⟨first, others⟩ := List.forall_mem_cons.mp inside
    rw [enterAll, if_pos first, ih others]

/-- Those who come in are the members of the group who are not inside. -/
theorem mem_entered {o : Occupants} {players : List PlayerId} {player : PlayerId} :
    player ∈ (o.enterAll players).2 ↔ player ∈ players ∧ o.contains player = false := by
  induction players generalizing o with
  | nil => simp [enterAll]
  | cons first rest ih =>
    simp only [enterAll]
    split
    · rename_i inside
      rw [ih, List.mem_cons]
      refine ⟨fun ⟨member, outside⟩ => ⟨.inr member, outside⟩, ?_⟩
      rintro ⟨rfl | member, outside⟩
      · exact absurd inside (by simp [outside])
      · exact ⟨member, outside⟩
    · rename_i outside
      rw [List.mem_cons, ih, List.mem_cons, contains_insert, Bool.or_eq_false_iff]
      by_cases same : player = first
      · simpa [same] using outside
      · simp [same]

/-- Nobody comes in twice. -/
theorem entered_nodup (o : Occupants) (players : List PlayerId) :
    (o.enterAll players).2.Nodup := by
  induction players generalizing o with
  | nil => exact .nil
  | cons first rest ih =>
    simp only [enterAll]
    split
    · exact ih o
    · refine List.nodup_cons.mpr ⟨fun again => ?_, ih (o.insert first)⟩
      have outside := (mem_entered.mp again).2
      simp at outside

end InstancedAreas.Occupants
