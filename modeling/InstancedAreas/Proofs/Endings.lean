import InstancedAreas.Proofs.Admission.Party
import InstancedAreas.Proofs.Admission.Pooled
import InstancedAreas.Proofs.Capacity
import InstancedAreas.Proofs.Run.Turns

/-! Instances end only for cause. What the service does ends an instance when a
sweep finds its deadline passed, or when its last occupant leaves and the
template asks for that; a template that does never has an empty instance. Under
the other policy an instance that everybody has left is there until its
deadline, and whoever is due its place gets into it. -/
namespace InstancedAreas

/-- A request is due the place under a key: it leads the party whose key that is,
or no lower slot is open to its group. -/
def Pool.Offers (pool : Pool) (now : Instant) (request : Request) (key : InstanceKey) : Prop :=
  match pool.template.kind with
  | .exclusive _ => request.Leads ∧ request.ownKey = key
  | .pooled capacity perSlot => ∀ slot lower, key = .slot slot →
      pool.OpenTo now request.members capacity perSlot lower → slot ≤ lower

namespace Registry

variable {r : Registry} {i : Instance} {t : Template} {player : PlayerId} {now : Instant}

/-- Until the deadline of an instance, every group that is due its place and that
there is room for joins it. -/
def Receives (r : Registry) (i : Instance) : Prop :=
  ∀ pool now deadline fresh request, r.pool? request.template = some pool →
    request.template = i.template → now < i.expiresAt →
    (request.lifetime pool.template).isZero = false →
    now.after? (request.lifetime pool.template) = some deadline →
    pool.Offers now request i.key → i.HasRoom request.members pool.template.occupantLimit →
      Entry.Joins (r.enter now fresh request) r pool.template request i.key i

section Entry

variable {pool : Pool} {deadline : Instant} {request : Request}

/-- Who leads a party joins the party's instance. -/
theorem Keyed.joins_party (keyed : r.Keyed) (home : r.pool? request.template = some pool)
    {most : Option UInt32} (kind : pool.template.kind = .exclusive most) (leads : request.Leads)
    (held : pool.instances.find? request.ownKey = some i) (ahead : now < i.expiresAt)
    (lasting : (request.lifetime pool.template).isZero = false)
    (ends : now.after? (request.lifetime pool.template) = some deadline)
    (room : i.HasRoom request.members most) (fresh : InstanceId) :
    Entry.Joins (r.enter now fresh request) r pool.template request request.ownKey i := by
  have applies : PartyRuling.joins.Applies pool most now request :=
    ⟨⟨leads, lasting, by simp [ends]⟩, i, held, ahead, room⟩
  obtain ⟨ruling, holds, yields⟩ := keyed.enter_exclusive home kind now fresh
  rw [PartyRuling.applies_unique holds applies] at yields
  obtain ⟨j, found, joins⟩ := yields
  cases found.symm.trans held
  exact joins

/-- A group joins the instance in the lowest slot that is open to it. -/
theorem Keyed.joins_slot (keyed : r.Keyed) (home : r.pool? request.template = some pool)
    {capacity perSlot slot : UInt32} (kind : pool.template.kind = .pooled capacity perSlot)
    (below : 0 < capacity → slot < capacity)
    (held : pool.instances.find? (.slot slot) = some i) (ahead : now < i.expiresAt)
    (lasting : (request.lifetime pool.template).isZero = false)
    (ends : now.after? (request.lifetime pool.template) = some deadline)
    (room : i.HasRoom request.members (some perSlot))
    (least : ∀ lower, pool.OpenTo now request.members capacity perSlot lower → slot ≤ lower)
    (fresh : InstanceId) :
    Entry.Joins (r.enter now fresh request) r pool.template request (.slot slot) i := by
  have limit : pool.template.occupantLimit = some perSlot := by simp [Template.occupantLimit, kind]
  have isOpen : pool.OpenTo now request.members capacity perSlot slot := by
    refine ⟨below, fun j found => ?_⟩
    cases found.symm.trans held
    exact ⟨ahead, room perSlot rfl⟩
  have allowed : (pool.template.isExclusive && request.party.any (!·.isLeader)) = false := by
    simp [Template.isExclusive, kind]
  have placed : pool.place now request = .ok ⟨.slot slot, true⟩ := by
    refine (Pool.place_pooled_iff kind).mpr ⟨slot, ⟨isOpen, least⟩, ?_⟩
    rw [held]
    rfl
  rw [enter_of_placed home allowed lasting ends fresh placed]
  exact occupy_joins keyed (keyed.home home) held (limit ▸ room)

end Entry

theorem Keyed.receives (keyed : r.Keyed) (allotted : r.All Pool.Allotted) (live : r.Live i) :
    r.Receives i := by
  intro pool now deadline fresh request home target ahead lasting ends offers room
  obtain ⟨other, homeOther, held⟩ := instance?_eq_some_iff.mp live
  rw [← target, home] at homeOther
  cases homeOther
  cases kind : pool.template.kind with
  | exclusive most =>
    obtain ⟨leads, key⟩ : request.Leads ∧ request.ownKey = i.key := by
      simpa only [Pool.Offers, kind] using offers
    have limit : pool.template.occupantLimit = most := by simp [Template.occupantLimit, kind]
    rw [← key] at held ⊢
    exact keyed.joins_party home kind leads held ahead lasting ends (limit ▸ room) fresh
  | pooled capacity perSlot =>
    obtain ⟨slot, key, below⟩ := (allotted _ pool home).2.slot kind held
    have least : ∀ lower, pool.OpenTo now request.members capacity perSlot lower → slot ≤ lower := by
      simp only [Pool.Offers, kind] at offers
      exact fun lower => offers slot lower key
    have limit : pool.template.occupantLimit = some perSlot := by
      simp [Template.occupantLimit, kind]
    rw [key] at held ⊢
    exact keyed.joins_slot home kind below held ahead lasting ends (limit ▸ room) least fresh

/-- Where instances stay until their deadline, the last to leave one leaves it
empty. -/
theorem Keyed.leave_last (keyed : r.Keyed) (live : r.Live i)
    (home : r.template? i.template = some t) (policy : t.release = .onExpiry)
    (alone : i.occupants.players = [player]) (now : Instant) :
    (r.leave now ⟨i.template, i.key, i.id⟩ player).2 = .ok false ∧
      (r.leave now ⟨i.template, i.key, i.id⟩ player).1.Live { i with occupants := .empty } := by
  have nobody : i.occupants.erase player = .empty := by
    simp [Occupants.erase, Occupants.empty, alone]
  have remains : i.without t player = some { i with occupants := .empty } := by
    simp [Instance.without, policy, nobody]
  obtain ⟨answered, places⟩ := keyed.leave_of_live live home now player
  rw [remains] at answered places
  exact ⟨answered, (places i.template i.key).trans (if_pos ⟨rfl, rfl⟩)⟩

end Registry

/-- Where instances stay until their deadline, a turn of the service before it ends
none. -/
theorem Turn.holds_before_deadline {turn : Turn} {i : Instance} {t : Template}
    (holds : turn.before.Holds i) (keyed : turn.before.Keyed)
    (home : turn.before.template? i.template = some t) (policy : t.release = .onExpiry)
    (indirect : turn.op.isDirect = false) (ahead : turn.now < i.expiresAt) :
    turn.after.Holds i := by
  obtain ⟨occupants, live⟩ := holds
  by_contra gone
  obtain ⟨ends, -⟩ := ends_of_gone keyed live gone
  cases ends with
  | swept sweeps due => exact absurd ahead (Int.not_lt.mpr due)
  | emptied other player known out alone released =>
    cases known.symm.trans home
    cases policy.symm.trans released
  | released reason asked =>
    rw [asked] at indirect
    cases indirect

namespace Registry

variable {r : Registry} {i : Instance} {t : Template}

/-- Where instances stay until their deadline, the service ends none before. -/
theorem Holds.until_deadline (holds : r.Holds i) (keyed : r.Keyed)
    (home : r.template? i.template = some t) (policy : t.release = .onExpiry) {more : Run}
    (served : more.Served) (ahead : ∀ step ∈ more, step.1 < i.expiresAt) :
    (r.after more).Holds i := by
  have stays : (r.after more).Holds i ∧ (r.after more).template? i.template = some t := by
    refine after_preserves (I := fun s => s.Holds i ∧ s.template? i.template = some t) ?_ keyed
      ⟨holds, home⟩
    rintro s now op member keyed ⟨holds, home⟩
    exact ⟨(⟨s, now, op⟩ : Turn).holds_before_deadline holds keyed home policy
      (served _ member) (ahead _ member), (template?_perform keyed now op _).trans home⟩
  exact stays.1

/-- No instance is empty whose template asks for its release then. -/
def Attended (r : Registry) : Prop :=
  ∀ i t, r.Live i → r.template? i.template = some t → t.release = .whenEmpty →
    i.occupants.players ≠ []

end Registry

/-- Where players come in or are inside already, somebody is inside. -/
theorem Occupants.insertAll_ne_nil {o : Occupants} {players : List PlayerId} {player : PlayerId}
    (some : player ∈ players ∨ player ∈ o.players) : (o.insertAll players).players ≠ [] := by
  have inside : (o.insertAll players).contains player = true := by
    rw [contains_insertAll]
    simpa [contains] using some
  exact List.ne_nil_of_mem (mem_players.mpr inside)

/-- What the service does leaves no instance empty whose template asks for its
release then. -/
theorem Turn.attended {turn : Turn} (keyed : turn.before.Keyed)
    (indirect : turn.op.isDirect = false) (attended : turn.before.Attended) :
    turn.after.Attended := by
  intro j t live home policy
  have home : turn.before.template? j.template = some t :=
    (Registry.template?_perform keyed ..).symm.trans home
  cases turn.origin keyed live with
  | stayed before => exact attended j t before home policy
  | joined i players found same =>
    subst same
    obtain ⟨player, inside⟩ := List.exists_mem_of_ne_nil _ (attended i t found home policy)
    exact Occupants.insertAll_ne_nil (.inr inside)
  | opened players only way =>
    rw [only]
    rcases way with ⟨creates, -⟩ | ⟨request, rfl, -⟩
    · cases (Operation.isDirect_of_isCreate creates).symm.trans indirect
    · exact Occupants.insertAll_ne_nil (.inl request.player_mem_group)
  | left known i player homeHere found same stays =>
    intro nobody
    have lasts := stays (by simpa [Occupants.isEmpty] using nobody)
    subst same
    cases homeHere.symm.trans home
    cases policy.symm.trans lasts

namespace Run

theorem attended {run : Run} (served : run.Served) (templates : List Template) (buffer : Nat) :
    (run.result templates buffer).Attended := by
  refine Registry.after_preserves (I := Registry.Attended) ?_
    (Registry.keyed_ofTemplates templates buffer) ?_
  · intro r now op member keyed attended
    exact (⟨r, now, op⟩ : Turn).attended keyed (served _ member) attended
  · intro i t live
    exact absurd live (Registry.not_live_ofTemplates templates buffer i)

/-- In every run of what the service does, an operation that ends an instance is a
sweep that finds its deadline passed, or takes its last occupant out under a
template that asks for its release then; under such a template no instance is
ever empty. Under the other policy, an instance that its last occupant leaves
stays with its terms whatever the service does before the deadline, and until
then receives who is due its place. -/
theorem instances_end_only_for_cause {run : Run} (served : run.Served)
    (templates : List Template) (buffer : Nat) :
    let after := run.result templates buffer
    (∀ turn ∈ run.turns templates buffer, ∀ template key i,
      turn.before.instance? template key = some i → ¬ turn.after.Holds i →
        turn.op.isSweep = true ∧ i.expiresAt ≤ turn.now ∨
          ∃ t player, turn.op = .leave ⟨template, key, i.id⟩ player ∧
            i.occupants.players = [player] ∧ turn.before.template? template = some t ∧
            t.release = .whenEmpty) ∧
    (∀ template key i t, after.instance? template key = some i →
      after.template? template = some t → t.release = .whenEmpty → i.occupants.players ≠ []) ∧
    ∀ early now i player more t,
      run = early ++ (now, .leave ⟨i.template, i.key, i.id⟩ player) :: more →
      let before := Run.result early templates buffer
      let left := before.leave now ⟨i.template, i.key, i.id⟩ player
      before.Live i → i.occupants.players = [player] →
      before.template? i.template = some t → t.release = .onExpiry →
        left.2 = .ok false ∧ left.1.Live { i with occupants := .empty } ∧
        ((∀ step ∈ more, step.1 < i.expiresAt) →
          ∃ j, j = { i with occupants := j.occupants } ∧ after.Live j ∧ after.Receives j) := by
  intro after
  refine ⟨?_, ?_, ?_⟩
  · intro turn member template key i found gone
    have keyed := keyed_of_mem_turns member
    obtain ⟨rfl, rfl⟩ := keyed.own_place found
    have indirect := served _ (mem_turns member).1
    cases (Turn.ends_of_gone keyed found gone).1 with
    | swept sweeps due => exact .inl ⟨sweeps, due⟩
    | emptied t player home out alone policy =>
      rcases out with left | removed
      · exact .inr ⟨t, player, left, alone, home, policy⟩
      · simp [removed, Operation.isDirect] at indirect
    | released reason asked => simp [asked, Operation.isDirect] at indirect
  · intro template key i t found home
    obtain ⟨rfl, rfl⟩ := (run.keyed templates buffer).own_place found
    exact attended served templates buffer i t found home
  · intro early now i player more t split before left live alone home policy
    have keyed : before.Keyed := Run.keyed early templates buffer
    obtain ⟨answered, empty⟩ := keyed.leave_last live home policy alone now
    refine ⟨answered, empty, ?_⟩
    intro ahead
    have servedMore : Run.Served more := by
      intro step member
      exact served step (by simp [split, member])
    have leads : after = left.1.after more := by
      simp only [after, split]
      exact result_append ..
    have keyedLeft : left.1.Keyed := Registry.perform_keyed keyed now (.leave _ player)
    have homeLeft : left.1.template? i.template = some t :=
      (Registry.template?_perform keyed now (.leave _ player) _).trans home
    obtain ⟨occupants, live⟩ :=
      (show left.1.Holds i from ⟨_, empty⟩).until_deadline keyedLeft homeLeft policy servedMore ahead
    rw [← leads] at live
    exact ⟨_, rfl, live, (run.keyed templates buffer).receives
      (allotted served.admitsOnly templates buffer) live⟩

/-- A player leaves an instance that stays until its deadline. A sweep does not
end it, and the player may come back. -/
theorem instance_that_everybody_left_receives :
    let template := Template.exclusive "a" 100 "entry" (.ofSeconds 3600)
    let entry : Run := [(.epoch, .enter (.ofNat 1) (.new 1 900 "a"))]
    let run : Run := entry ++ [(.epoch, .leave ⟨"a", .solo 1, .ofNat 1⟩ 1), (.epoch, .sweep)]
    run.Served ∧ ∃ j, j.id = .ofNat 1 ∧ (run.result [template] 16).Live j ∧
      (run.result [template] 16).Receives j := by
  intro template entry run
  have served : run.Served := by decide
  obtain ⟨i, found⟩ : ∃ i, (entry.result [template] 16).instance? "a" (.solo 1) = some i :=
    Option.isSome_iff_exists.mp (by decide)
  have shown : ((entry.result [template] 16).instance? "a" (.solo 1)).map (fun i =>
      (i.id, i.occupants.players, decide (Instant.epoch < i.expiresAt))) =
        some (.ofNat 1, [1], true) := by decide
  rw [found] at shown
  simp only [Option.map_some, Option.some.injEq, Prod.mk.injEq, decide_eq_true_eq] at shown
  obtain ⟨id, alone, ahead⟩ := shown
  obtain ⟨place, key⟩ := (entry.keyed [template] 16).own_place found
  have split : run = entry ++ (.epoch, .leave ⟨i.template, i.key, i.id⟩ 1) :: [(.epoch, .sweep)] := by
    rw [place, key, id]
  have live : (entry.result [template] 16).Live i := (entry.keyed [template] 16).found_in_place found
  have home : (entry.result [template] 16).template? i.template = some template := by
    rw [place]
    decide
  obtain ⟨-, -, stays⟩ := (instances_end_only_for_cause served [template] 16).2.2 entry .epoch i 1
    [(.epoch, .sweep)] template split live alone home rfl
  obtain ⟨j, same, liveJ, receives⟩ := stays (by simpa using ahead)
  exact ⟨served, j, by rw [same, id], liveJ, receives⟩

end Run

end InstancedAreas
