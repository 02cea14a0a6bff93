import InstancedAreas.Eviction
import InstancedAreas.Proofs.Leadership

/-! Who is in which slots. A request asks which slot is the lowest that is open to
its group, not where its players are already. So a player may come to be in several
slots of one template, and every further one was entered later, by a request that
found a lower slot open or the player's own slot closed to the group. -/
namespace InstancedAreas

/-- An operation releases an instance on request. -/
def Operation.isRelease : Operation → Bool
  | release .. => true
  | _ => false

/-- Nothing is done to the registry but what the service does and releases on
request. -/
def Run.Managed (run : Run) : Prop :=
  ∀ step ∈ run, step.2.isDirect = false ∨ step.2.isRelease = true

instance (run : Run) : Decidable run.Managed := inferInstanceAs (Decidable (∀ _ ∈ run, _))

theorem Run.Managed.admitsOnly {run : Run} (managed : run.Managed) : run.AdmitsOnly := by
  intro step member
  apply Bool.eq_false_iff.mpr
  intro creates
  rcases managed step member with indirect | releases
  · cases (Operation.isDirect_of_isCreate creates).symm.trans indirect
  · obtain ⟨now, op⟩ := step
    cases op with
    | create => cases releases
    | enter | pass | leave | addOccupants | removeOccupant | release | sweep | cutSweep
    | schedule => cases creates

namespace Turn

variable {turn : Turn} {i j first second : Instance} {player : PlayerId} {t : Template}
  {capacity perSlot : UInt32}

/-- A release brings nobody in. -/
theorem inside_before_release (keyed : turn.before.Keyed) (releases : turn.op.isRelease = true)
    (inside : turn.after.Inside i player) : turn.before.Inside i player := by
  obtain ⟨before, now, op⟩ := turn
  obtain ⟨occupants, live, inside⟩ := inside
  cases op with
  | release template key reason =>
    refine ⟨occupants, ?_, inside⟩
    have stays := keyed.instance?_release now template key reason i.template i.key
    split at stays
    · cases live.symm.trans stays
    · exact stays.symm.trans live
  | enter | pass | leave | create | addOccupants | removeOccupant | sweep | cutSweep | schedule =>
    cases releases

/-- One request brings its group to one place. -/
theorem Brings.same_place {request request' : Request} (one : turn.Brings request i player)
    (other : turn.Brings request' j player) : i.template = j.template ∧ i.key = j.key := by
  obtain ⟨-, occupants, created, ⟨-, ⟨a, answered, named, -⟩, -⟩, -⟩ := one
  obtain ⟨-, occupants', created', ⟨-, ⟨b, answered', named', -⟩, -⟩, -⟩ := other
  cases answered.symm.trans answered'
  obtain ⟨-, terms⟩ := Instance.terms_eq (Option.some.inj (named'.symm.trans named))
  rw [terms]
  exact ⟨rfl, rfl⟩

/-- A player who is in one slot comes into another one with the group of a request.
That slot is the lowest that is open to the group. It is below the first, or the first
is closed to the group because its instance has reached its deadline or has no room
for it. -/
def TakesSecondSlot (turn : Turn) (player : PlayerId) (capacity perSlot : UInt32)
    (first second : Instance) : Prop :=
  ∃ request pool slot other occupants,
    turn.Brings request second player ∧ second.key = .slot slot ∧
    turn.before.Live { first with occupants } ∧ occupants.contains player = true ∧
    first.key = .slot other ∧ turn.before.pool? first.template = some pool ∧
    IsLeast {index | pool.OpenTo turn.now request.members capacity perSlot index} slot ∧
    (slot < other ∨ first.expiresAt ≤ turn.now ∨
      perSlot.toNat < (occupants.players.toFinset ∪ request.members).card)

/-- A request that brings a group into a slot brings it into the lowest that is open to
it. -/
theorem Brings.least {request : Request} (brings : turn.Brings request second player)
    (keyed : turn.before.Keyed) {pool : Pool} (home : turn.before.pool? second.template = some pool)
    (pooled : pool.template.kind = .pooled capacity perSlot) :
    ∃ slot, second.key = .slot slot ∧
      IsLeast {index | pool.OpenTo turn.now request.members capacity perSlot index} slot := by
  obtain ⟨-, occupants, created, admits, -⟩ := brings
  obtain ⟨a, answered, named, -⟩ := admits.answered
  cases decision keyed admits.asked with
  | unchanged same alone => cases named.symm.trans (alone a answered)
  | granted fresh template b granted answer given =>
    cases answered.symm.trans answer
    obtain ⟨other, live, found, placed⟩ := granted.placed keyed named
    cases home.symm.trans found
    simp only [Pool.place, pooled] at placed
    rcases pool.placePooled_cases pooled turn.now (request.retarget template) with
      ⟨-, full⟩ | ⟨slot, _, least, chosen, -⟩
    · cases full.symm.trans placed
    · have same := Except.ok.inj (placed.symm.trans chosen)
      exact ⟨slot, congrArg Placement.key same, least⟩

/-- Who is in one slot and is brought into another takes a second one. -/
theorem Brings.takes_second_slot {request : Request} (brings : turn.Brings request second player)
    (keyed : turn.before.Keyed) (allotted : turn.before.All Pool.Allotted)
    (inside : turn.before.Inside first player) (same : second.template = first.template)
    (home : turn.before.template? first.template = some t)
    (pooled : t.kind = .pooled capacity perSlot) :
    first.key = second.key ∨ turn.TakesSecondSlot player capacity perSlot first second := by
  obtain ⟨occupants, live, within⟩ := inside
  obtain ⟨pool, found, held⟩ := Registry.instance?_eq_some_iff.mp live
  have known : pool.template = t := by
    rw [Registry.template?, show turn.before.pool? first.template = some pool from found] at home
    exact Option.some.inj home
  rw [← known] at pooled
  obtain ⟨other, key, below⟩ := (allotted _ pool found).2.slot pooled held
  obtain ⟨slot, place, least⟩ := brings.least keyed (same ▸ found) pooled
  by_cases here : slot = other
  · exact .inl (key.trans (here ▸ place.symm))
  refine .inr ⟨request, pool, slot, other, occupants, brings, place, live, within, key, found,
    least, ?_⟩
  -- A lower slot of the player that is open to the group would have been chosen.
  by_contra shut
  simp only [not_or, Nat.not_lt] at shut
  obtain ⟨behind, ahead, room⟩ := shut
  apply here
  apply UInt32.le_antisymm _ (UInt32.not_lt.mp behind)
  apply least.2
  refine ⟨below, fun i occupied => ?_⟩
  rw [← key] at occupied
  cases held.symm.trans occupied
  exact ⟨Int.not_le.mp ahead, room⟩

end Turn

namespace Run

variable {templates : List Template} {buffer : Nat}

/-- Whoever is in two slots has taken the second one in a turn. -/
theorem second_slot_taken {run : Run} (managed : run.Managed) {i j : Instance} {player : PlayerId}
    {t : Template} {capacity perSlot : UInt32}
    (home : (run.result templates buffer).template? i.template = some t)
    (pooled : t.kind = .pooled capacity perSlot) (same : i.template = j.template)
    (inside : (run.result templates buffer).Inside i player)
    (also : (run.result templates buffer).Inside j player) :
    i.key = j.key ∨ ∃ turn ∈ run.turns templates buffer,
      turn.TakesSecondSlot player capacity perSlot i j ∨
        turn.TakesSecondSlot player capacity perSlot j i := by
  induction run using Run.induction with
  | nil =>
    obtain ⟨occupants, live, -⟩ := inside
    exact absurd live (Registry.not_live_ofTemplates templates buffer _)
  | concat run now op ih =>
    have before : Run.Managed run := fun step member => managed step (List.mem_append_left _ member)
    let turn : Turn := ⟨run.result templates buffer, now, op⟩
    have keyed : turn.before.Keyed := run.keyed templates buffer
    have allotted : turn.before.All Pool.Allotted :=
      Run.allotted before.admitsOnly templates buffer
    rw [template?_result, ← template?_result run] at home
    rw [result_concat] at inside also
    rw [turns_concat]
    have arrived {k : Instance} (inside : turn.after.Inside k player) :
        turn.before.Inside k player ∨ ∃ request, turn.Brings request k player := by
      rcases managed (now, op) (by simp) with indirect | releases
      · exact turn.inside_before_or_brought keyed indirect inside
      · exact .inl (turn.inside_before_release keyed releases inside)
    have last : turn ∈ run.turns templates buffer ++ [turn] := by simp
    rcases arrived inside with stayed | ⟨request, brings⟩ <;>
      rcases arrived also with stayed' | ⟨request', brings'⟩
    · rcases ih before home stayed stayed' with here | ⟨earlier, member, taken⟩
      · exact .inl here
      · exact .inr ⟨earlier, List.mem_append_left _ member, taken⟩
    · rcases brings'.takes_second_slot keyed allotted stayed same.symm home pooled with here | taken
      · exact .inl here
      · exact .inr ⟨turn, last, .inl taken⟩
    · rcases brings.takes_second_slot keyed allotted stayed' same (same ▸ home) pooled with
        here | taken
      · exact .inl here.symm
      · exact .inr ⟨turn, last, .inr taken⟩
    · exact .inl (brings.same_place brings').2

end Run

/-- Every occupant of an instance has one notice of its end. -/
theorem Eviction.count_all {i : Instance} {player : PlayerId}
    (inside : i.occupants.contains player = true) :
    ((Eviction.all i).map Eviction.player).count player = 1 := by
  have players : (Eviction.all i).map Eviction.player = i.occupants.players := by
    simp [Eviction.all, Eviction.of, List.map_map, Function.comp_def]
  rw [players]
  exact List.count_eq_one_of_mem i.occupants.players_nodup (Occupants.mem_players.mpr inside)

/-- After every run of what the service does and releases on request, whoever is in two
live instances of a template with slots came into one of them while being in the other,
with the group of a request. It went to the lowest slot that was open to the group, as
always: that slot is below the other one, or the instance in the other one had reached
its deadline or had no room for the group. Of each instance there is one notice for each
occupant. -/
theorem Run.second_slots_are_entered_later {run : Run} (managed : run.Managed)
    (templates : List Template) (buffer : Nat) {t : Template} {capacity perSlot : UInt32}
    {i j : Instance} {player : PlayerId}
    (home : (run.result templates buffer).template? i.template = some t)
    (pooled : t.kind = .pooled capacity perSlot) (same : i.template = j.template)
    (live : (run.result templates buffer).Live i) (other : (run.result templates buffer).Live j)
    (inside : i.occupants.contains player = true) (also : j.occupants.contains player = true) :
    (i = j ∨ ∃ turn ∈ run.turns templates buffer,
      turn.TakesSecondSlot player capacity perSlot i j ∨
        turn.TakesSecondSlot player capacity perSlot j i) ∧
    ((Eviction.all i).map Eviction.player).count player = 1 := by
  constructor
  · rcases second_slot_taken managed home pooled same ⟨i.occupants, live, inside⟩
      ⟨j.occupants, other, also⟩ with here | taken
    · exact .inl (live.eq other same here)
    · exact .inr taken
  · exact Eviction.count_all inside

/-- A player who shares the first slot comes back with somebody for whom there is no
room in it. The two get the next slot, and the player is in both. -/
theorem Run.player_takes_the_next_slot_with_a_companion :
    let template : Template := { Template.pooled "a" 100 "entry" 0 (.ofSeconds 3600) with
      kind := .pooled 0 2 }
    let run : Run := [(.epoch, .enter (.ofNat 1) ((Request.new 1 900 "a").withCompanions [3])),
      (.epoch, .enter (.ofNat 2) ((Request.new 1 900 "a").withCompanions [2]))]
    let after := run.result [template] 16
    run.Managed ∧ ∃ i j, after.Live i ∧ after.Live j ∧ i.template = "a" ∧ j.template = "a" ∧
      i.key = .slot 0 ∧ j.key = .slot 1 ∧
      i.occupants.contains 1 = true ∧ j.occupants.contains 1 = true ∧
      ∃ turn ∈ run.turns [template] 16,
        turn.TakesSecondSlot 1 0 2 i j ∨ turn.TakesSecondSlot 1 0 2 j i := by
  intro template run after
  have managed : run.Managed := by decide
  have keyed : after.Keyed := run.keyed [template] 16
  have first : (after.instance? "a" (.slot 0)).any (·.occupants.contains 1) = true := by decide
  have second : (after.instance? "a" (.slot 1)).any (·.occupants.contains 1) = true := by decide
  obtain ⟨i, found, inside⟩ := (Option.any_eq_true _ _).mp first
  obtain ⟨j, other, also⟩ := (Option.any_eq_true _ _).mp second
  obtain ⟨place, key⟩ := keyed.own_place found
  obtain ⟨place', key'⟩ := keyed.own_place other
  have home : after.template? i.template = some template := by
    rw [place]
    decide
  refine ⟨managed, i, j, keyed.found_in_place found, keyed.found_in_place other, place, place', key,
    key', inside, also, ?_⟩
  rcases (second_slots_are_entered_later managed [template] 16 home rfl (place.trans place'.symm)
    (keyed.found_in_place found) (keyed.found_in_place other) inside also).1 with same | taken
  · rw [same, key'] at key
    cases key
  · exact taken

/-- A player in the second slot enters again when the first has become free, and is in
both, long before either ends. -/
theorem Run.player_is_in_two_slots :
    let template := Template.pooled "a" 100 "entry" 2 (.ofSeconds 3600)
    let run : Run := [(.epoch, .enter (.ofNat 1) (.new 1 900 "a")),
      (.epoch, .enter (.ofNat 2) (.new 2 900 "a")),
      (.epoch, .leave ⟨"a", .slot 0, .ofNat 1⟩ 1),
      (.epoch, .enter (.ofNat 3) (.new 2 900 "a"))]
    let after := run.result [template] 16
    run.Managed ∧ ∃ i j, after.Live i ∧ after.Live j ∧ i.template = "a" ∧ j.template = "a" ∧
      i ≠ j ∧ Instant.epoch < i.expiresAt ∧ Instant.epoch < j.expiresAt ∧
      i.occupants.contains 2 = true ∧ j.occupants.contains 2 = true := by
  intro template run after
  have keyed : after.Keyed := run.keyed [template] 16
  have first : (after.instance? "a" (.slot 0)).any
      (fun i => Instant.epoch < i.expiresAt ∧ i.occupants.contains 2) = true := by decide
  have second : (after.instance? "a" (.slot 1)).any
      (fun i => Instant.epoch < i.expiresAt ∧ i.occupants.contains 2) = true := by decide
  obtain ⟨i, found, here⟩ := (Option.any_eq_true _ _).mp first
  obtain ⟨j, other, there⟩ := (Option.any_eq_true _ _).mp second
  obtain ⟨ahead, inside⟩ := of_decide_eq_true here
  obtain ⟨ahead', inside'⟩ := of_decide_eq_true there
  obtain ⟨place, key⟩ := keyed.own_place found
  obtain ⟨place', key'⟩ := keyed.own_place other
  refine ⟨by decide, i, j, keyed.found_in_place found, keyed.found_in_place other, place,
    place', ?_, ahead, ahead', inside, inside'⟩
  intro same
  rw [same, key'] at key
  cases key

end InstancedAreas
