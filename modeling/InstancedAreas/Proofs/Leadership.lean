import InstancedAreas.Proofs.Admission.Party
import InstancedAreas.Proofs.Capacity
import InstancedAreas.Proofs.Run.Turns

/-! Who is inside. Whoever is in an instance came into it with the group of a
granted request and has been inside ever since. Where the instance is a party's,
that request was the leader's, and where it is a solo player's, it was that
player's own; a gate makes no difference. -/
namespace InstancedAreas

/-- A party's instance is entered by a leader of that party. -/
theorem Request.party_of_ownKey {request : Request} {party : PartyId} (leads : request.Leads)
    (key : request.ownKey = .party party) : request.party = some ⟨party, true⟩ := by
  cases belongs : request.party with
  | none => simp [ownKey, belongs] at key
  | some context =>
    obtain ⟨id, leader⟩ := context
    have same : id = party := by simpa [ownKey, belongs] using key
    rw [same, show leader = true from leads _ belongs]

/-- A solo player's instance is entered by that player without a party. -/
theorem Request.player_of_ownKey {request : Request} {player : PlayerId}
    (key : request.ownKey = .solo player) : request.party = none ∧ request.player = player := by
  cases belongs : request.party with
  | none => exact ⟨rfl, by simpa [ownKey, belongs] using key⟩
  | some context => simp [ownKey, belongs] at key

/-- Only where instances belong to parties is there one of a party or of a solo
player. -/
theorem Template.Allots.exclusive {t : Template} {key : InstanceKey} (allots : t.Allots key)
    (owned : ∀ index, key ≠ .slot index) : t.isExclusive = true := by
  cases kind : t.kind with
  | exclusive most => simp [isExclusive, kind]
  | pooled capacity perSlot =>
    cases key with
    | party | solo => simp [Allots, kind] at allots
    | slot index => exact absurd rfl (owned index)

/-- A player is in an instance that is live. -/
def Registry.Inside (r : Registry) (i : Instance) (player : PlayerId) : Prop :=
  ∃ occupants, r.Live { i with occupants } ∧ occupants.contains player = true

namespace Turn

variable {turn : Turn} {i : Instance} {player : PlayerId}

/-- A player comes into an instance with the group of a request, which creates it
or finds it live. -/
def Brings (turn : Turn) (request : Request) (i : Instance) (player : PlayerId) : Prop :=
  player ∈ request.members ∧ ∃ occupants created,
    turn.Admits request { i with occupants } created ∧ (created = true ∨ turn.before.Holds i)

/-- Whoever is inside after a turn of the service was inside before or came with
the group of a request. -/
theorem inside_before_or_brought (keyed : turn.before.Keyed) (indirect : turn.op.isDirect = false)
    (inside : turn.after.Inside i player) :
    turn.before.Inside i player ∨ ∃ request, turn.Brings request i player := by
  obtain ⟨occupants, live, inside⟩ := inside
  cases turn.origin keyed live with
  | stayed before => exact .inl ⟨occupants, before, inside⟩
  | joined j players found same way =>
    obtain ⟨rfl, terms⟩ := Instance.terms_eq same
    rw [terms] at found
    rw [Occupants.contains_insertAll, Bool.or_eq_true] at inside
    rcases inside with arrived | stayed
    · rcases way with direct | ⟨request, rfl, admits⟩
      · cases direct.symm.trans indirect
      · exact .inr ⟨request, Request.mem_members.mpr arrived, _, false, admits, .inr ⟨_, found⟩⟩
    · exact .inl ⟨j.occupants, found, stayed⟩
  | opened players only way =>
    rw [show occupants = _ from only, Occupants.contains_insertAll, Occupants.contains_empty,
      Bool.or_false] at inside
    rcases way with ⟨-, rfl⟩ | ⟨request, rfl, admits⟩
    · simp at inside
    · exact .inr ⟨request, Request.mem_members.mpr inside, _, true, admits, .inl rfl⟩
  | left t j other home found same =>
    obtain ⟨rfl, terms⟩ := Instance.terms_eq same
    rw [terms] at found
    rw [Occupants.contains_erase, Bool.and_eq_true] at inside
    exact .inl ⟨j.occupants, found, inside.2⟩

end Turn

namespace Run

/-- Whoever is inside was brought by a turn and has been inside ever since. -/
theorem brought {run : Run} (served : run.Served) (templates : List Template) (buffer : Nat)
    {i : Instance} {player : PlayerId} (inside : (run.result templates buffer).Inside i player) :
    ∃ early turn late, run.turns templates buffer = early ++ turn :: late ∧
      (∃ request, turn.Brings request i player) ∧
      ∀ later ∈ late, later.before.Inside i player := by
  induction run using Run.induction with
  | nil =>
    obtain ⟨occupants, live, -⟩ := inside
    exact absurd live (Registry.not_live_ofTemplates templates buffer _)
  | concat run now op ih =>
    rw [result_concat] at inside
    rw [turns_concat]
    rcases Turn.inside_before_or_brought (run.keyed templates buffer)
      (served (now, op) (by simp)) inside with before | brought
    · -- The turn that brought the player is an earlier one, and this one comes after it.
      obtain ⟨early, first, late, split, brings, ever⟩ :=
        ih (fun step member => served step (List.mem_append_left _ member)) before
      refine ⟨early, first, late ++ [⟨run.result templates buffer, now, op⟩], by simp [split], brings,
        fun later member => ?_⟩
      rcases List.mem_append.mp member with old | new
      · exact ever later old
      · obtain rfl := List.mem_singleton.mp new
        exact before
    · exact ⟨run.turns templates buffer, _, [], rfl, brought, List.forall_mem_nil _⟩

/-- After every run of what the service does, whoever is in an instance came into
it with the group of a granted request, the one that created the instance or one
that found it live, and has been inside ever since. Where the instance stands
under a party, its leader made that request; where it stands under a player, that
player did, without a party. -/
theorem occupants_came_with_their_leader {run : Run} (served : run.Served)
    (templates : List Template) (buffer : Nat) {template : TemplateId} {key : InstanceKey}
    {i : Instance} {player : PlayerId}
    (found : (run.result templates buffer).instance? template key = some i)
    (inside : i.occupants.contains player = true) :
    ∃ early turn late request a, run.turns templates buffer = early ++ turn :: late ∧
      turn.op.request? = some request ∧ turn.answer? = some a ∧
      a.handle = some ⟨template, key, i.id⟩ ∧ (a.created = true ∨ turn.before.Holds i) ∧
      player ∈ request.members ∧
      (∀ party, key = .party party → request.party = some ⟨party, true⟩) ∧
      (∀ leader, key = .solo leader → request.party = none ∧ request.player = leader) ∧
      ∀ later ∈ late, later.before.Inside i player := by
  obtain ⟨rfl, rfl⟩ := (run.keyed templates buffer).own_place found
  obtain ⟨early, turn, late, split, ⟨request, member, occupants, created, admits, first⟩, ever⟩ :=
    brought served templates buffer ⟨i.occupants, found, inside⟩
  obtain ⟨a, answered, named, same⟩ := admits.answered
  have own (owned : ∀ index, i.key ≠ .slot index) : request.Leads ∧ i.key = request.ownKey := by
    obtain ⟨pool, home, held⟩ := Registry.instance?_eq_some_iff.mp found
    obtain ⟨-, allotted⟩ := allotted served.admitsOnly templates buffer _ pool home
    have known : turn.before.template? i.template = some pool.template := by
      rw [template?_of_mem_turns (show turn ∈ run.turns templates buffer by simp [split]),
        Registry.template?, home]
      rfl
    exact admits.own _ known ((allotted _ i held).exclusive owned)
  refine ⟨early, turn, late, request, a, split, admits.asked, answered, ?_, same ▸ first, member,
    fun party key => ?_, fun leader key => ?_, ever⟩
  · simp [Admitted.handle, named]
  · obtain ⟨leads, same⟩ := own (by simp [key])
    exact Request.party_of_ownKey leads (same ▸ key)
  · obtain ⟨-, same⟩ := own (by simp [key])
    exact Request.player_of_ownKey (same ▸ key)

/-- A leader passes a gate with a companion, and the companion is found in the
party's instance. -/
theorem companion_came_through_the_gate :
    let template := Template.exclusive "a" 100 "entry" (.ofSeconds 3600)
    let policies := Gate.policiesOf [(Gate.Policy.toTemplate "north" "a").allowing "open"]
    let source : Gate.Source := .board (Gate.Board.empty.set "north" "open")
    let request := ((Request.new 1 900 "b").withParty 7 true).withCompanions [2]
    let run : Run := [(.epoch, .pass policies source (.ofNat 1) "north" request)]
    run.Served ∧ ∃ i, (run.result [template] 16).instance? "a" (.party 7) = some i ∧
      i.occupants.contains 2 = true ∧
      ∃ turn ∈ run.turns [template] 16, ∃ request a, turn.op.request? = some request ∧
        turn.answer? = some a ∧ a.handle = some ⟨"a", .party 7, i.id⟩ ∧ 2 ∈ request.members ∧
        request.party = some ⟨7, true⟩ := by
  intro template policies source request run
  have served : run.Served := by decide
  obtain ⟨i, found⟩ : ∃ i, (run.result [template] 16).instance? "a" (.party 7) = some i :=
    Option.isSome_iff_exists.mp (by decide)
  have inside : i.occupants.contains 2 = true := by
    have shown : ((run.result [template] 16).instance? "a" (.party 7)).map
        (·.occupants.contains 2) = some true := by decide
    rw [found] at shown
    exact Option.some.inj shown
  obtain ⟨early, turn, late, request, a, split, asked, answered, handle, -, member, leader, -⟩ :=
    occupants_came_with_their_leader served [template] 16 found inside
  exact ⟨served, i, found, inside, turn, by simp [split], request, a, asked, answered, handle,
    member, leader 7 rfl⟩

end Run

end InstancedAreas
