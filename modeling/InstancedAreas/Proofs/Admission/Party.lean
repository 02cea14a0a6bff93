import InstancedAreas.Proofs.Admission.Occupation
import InstancedAreas.Proofs.Run

/-! Admission to templates of parties. Seven things can become of a request, one
of which always does: leadership is looked at first, the lifetime second, and
then the instance under the key of the party, or of the player without one. An
instance past its deadline keeps that key until it is swept. -/
namespace InstancedAreas

/-- The player leads the party, if there is one. -/
def Request.Leads (request : Request) : Prop :=
  ∀ context, request.party = some context → context.isLeader = true

/-- The key of the party, or of the player without one. -/
def Request.ownKey (request : Request) : InstanceKey :=
  match request.party with
  | some context => .party context.party
  | none => .solo request.player

/-- What becomes of a request to a template of parties. -/
inductive PartyRuling where
  | notLeader
  | noLifetime
  | closing
  | joins
  | crowded
  | excess
  | opens
deriving DecidableEq

namespace PartyRuling

variable (pool : Pool) (most : Option UInt32) (now : Instant) (request : Request)

/-- A request that leadership and lifetime do not stand against. -/
def Eligible : Prop :=
  request.Leads ∧ (request.lifetime pool.template).isZero = false ∧
    now.after? (request.lifetime pool.template) ≠ none

/-- When it is that a request is ruled so. -/
def Applies : PartyRuling → Prop
  | notLeader => ¬ request.Leads
  | noLifetime => request.Leads ∧ ((request.lifetime pool.template).isZero = true ∨
      now.after? (request.lifetime pool.template) = none)
  | closing => Eligible pool now request ∧
      ∃ i, pool.instances.find? request.ownKey = some i ∧ i.expiresAt ≤ now
  | joins => Eligible pool now request ∧
      ∃ i, pool.instances.find? request.ownKey = some i ∧ now < i.expiresAt ∧
        i.HasRoom request.members most
  | crowded => Eligible pool now request ∧
      ∃ i, pool.instances.find? request.ownKey = some i ∧ now < i.expiresAt ∧
        ¬ i.HasRoom request.members most
  | excess => Eligible pool now request ∧ pool.instances.find? request.ownKey = none ∧
      ¬ request.Fits most
  | opens => Eligible pool now request ∧ pool.instances.find? request.ownKey = none ∧
      request.Fits most

/-- What a ruling leaves and answers. -/
def Yields (before : Registry) (fresh : InstanceId) (entry : Entry) : PartyRuling → Prop
  | notLeader => entry = (before, .error .notPartyLeader)
  | noLifetime => entry =
      (before, .error (.invalidLifetime pool.template.id (request.lifetime pool.template)))
  | closing => entry = (before, .error (.instancesFull pool.template.id))
  | joins => ∃ i, pool.instances.find? request.ownKey = some i ∧
      entry.Joins before pool.template request request.ownKey i
  | crowded | excess =>
    entry = (before, .error (.capacityExceeded pool.template.id request.ownKey))
  | opens => ∃ deadline, now.after? (request.lifetime pool.template) = some deadline ∧
      entry.Opens before pool.template request now fresh request.ownKey deadline

variable {pool most now request}

/-- No two rulings apply to one request. -/
theorem applies_unique {one other : PartyRuling} (first : one.Applies pool most now request)
    (second : other.Applies pool most now request) : one = other := by
  cases held : pool.instances.find? request.ownKey with
  | none => cases one <;> cases other <;> simp_all [Applies, Eligible]
  | some i =>
    have ahead : i.expiresAt ≤ now ↔ ¬ now < i.expiresAt := Int.not_lt.symm
    cases one <;> cases other <;> simp_all [Applies, Eligible]

end PartyRuling

/-- The place of a request to a template of parties. -/
theorem Pool.placeExclusive_eq (pool : Pool) (now : Instant) (request : Request) :
    pool.placeExclusive now request =
      (pool.instances.find? request.ownKey).elim (.ok ⟨request.ownKey, false⟩) fun i =>
        if i.expiresAt ≤ now then .error (.instancesFull pool.template.id)
        else .ok ⟨request.ownKey, true⟩ := by
  cases found : pool.instances.find? request.ownKey <;> cases belongs : request.party <;>
    simp_all [placeExclusive, Request.ownKey, Instance.isExpired]

theorem Request.any_not_leader {request : Request} :
    request.party.any (!·.isLeader) = true ↔ ¬ request.Leads := by
  cases belongs : request.party <;> simp [Leads, belongs]

namespace Registry

variable {r : Registry} {pool : Pool} {now : Instant} {request : Request} {most : Option UInt32}

/-- An eligible request gets a ruling by the instance under its key. -/
theorem Keyed.enter_eligible (keyed : r.Keyed) (home : r.pool? request.template = some pool)
    (exclusive : pool.template.kind = .exclusive most)
    (eligible : PartyRuling.Eligible pool now request) (fresh : InstanceId) :
    ∃ ruling : PartyRuling, ruling.Applies pool most now request ∧
      ruling.Yields pool now request r fresh (r.enter now fresh request) := by
  have leads := eligible.1
  have lasting := eligible.2.1
  obtain ⟨deadline, ends⟩ := Option.ne_none_iff_exists'.mp eligible.2.2
  have homeOwn := keyed.home home
  have limit : pool.template.occupantLimit = most := by simp [Template.occupantLimit, exclusive]
  have allowed : (pool.template.isExclusive && request.party.any (!·.isLeader)) = false := by
    simpa using fun _ => mt Request.any_not_leader.mp (not_not_intro leads)
  have placed : pool.place now request = pool.placeExclusive now request := by
    simp only [Pool.place, exclusive]
  rw [Pool.placeExclusive_eq] at placed
  cases held : pool.instances.find? request.ownKey with
  | none =>
    rw [held] at placed
    have taken := enter_of_placed home allowed lasting ends fresh placed
    by_cases fits : request.Fits most
    · refine ⟨.opens, ⟨eligible, held, fits⟩, deadline, ends, ?_⟩
      exact taken ▸ occupy_opens homeOwn held ends (limit ▸ fits)
    · refine ⟨.excess, ⟨eligible, held, fits⟩, ?_⟩
      exact taken.trans (occupy_of_excess _ (limit ▸ fits))
  | some i =>
    rw [held] at placed
    by_cases reached : i.expiresAt ≤ now
    · refine ⟨.closing, ⟨eligible, i, held, reached⟩, ?_⟩
      exact enter_of_no_place home allowed lasting ends fresh (placed.trans (if_pos reached))
    · have ahead : now < i.expiresAt := Int.not_le.mp reached
      have taken := enter_of_placed home allowed lasting ends fresh
        (placed.trans (if_neg reached))
      by_cases room : i.HasRoom request.members most
      · refine ⟨.joins, ⟨eligible, i, held, ahead, room⟩, i, held, ?_⟩
        exact taken ▸ occupy_joins keyed homeOwn held (limit ▸ room)
      · refine ⟨.crowded, ⟨eligible, i, held, ahead, room⟩, ?_⟩
        exact taken.trans (occupy_of_crowd keyed homeOwn held (limit ▸ room))

/-- A request to a template of parties gets a ruling that applies to it. -/
theorem Keyed.enter_exclusive (keyed : r.Keyed) (home : r.pool? request.template = some pool)
    (exclusive : pool.template.kind = .exclusive most) (now : Instant) (fresh : InstanceId) :
    ∃ ruling : PartyRuling, ruling.Applies pool most now request ∧
      ruling.Yields pool now request r fresh (r.enter now fresh request) := by
  have parties : pool.template.isExclusive = true := by simp [Template.isExclusive, exclusive]
  by_cases leads : request.Leads
  · have allowed : request.party.any (!·.isLeader) = false := by
      simpa using mt Request.any_not_leader.mp (not_not_intro leads)
    by_cases endless : (request.lifetime pool.template).isZero = true ∨
        now.after? (request.lifetime pool.template) = none
    · refine ⟨.noLifetime, ⟨leads, endless⟩, ?_⟩
      have refused : ((request.lifetime pool.template).isZero ||
          (now.after? (request.lifetime pool.template)).isNone) = true := by simpa using endless
      simp only [Request.lifetime] at refused
      simp [PartyRuling.Yields, enter, home, parties, allowed, refused, Request.lifetime]
    · have eligible : PartyRuling.Eligible pool now request := by
        simpa [PartyRuling.Eligible, leads] using endless
      exact keyed.enter_eligible home exclusive eligible fresh
  · refine ⟨.notLeader, leads, ?_⟩
    simp [PartyRuling.Yields, enter, home, parties, Request.any_not_leader.mpr leads]

end Registry

/-- After every run, just one of seven rulings applies to a request to a template
of parties, and that is what becomes of it. -/
theorem Run.party_admission_follows_its_table (run : Run) (templates : List Template)
    (buffer : Nat) (now : Instant) (fresh : InstanceId) (request : Request) {pool : Pool}
    {most : Option UInt32}
    (home : (run.result templates buffer).pool? request.template = some pool)
    (exclusive : pool.template.kind = .exclusive most) :
    let before := run.result templates buffer
    (∃! ruling : PartyRuling, ruling.Applies pool most now request) ∧
      ∀ ruling : PartyRuling, ruling.Applies pool most now request →
        ruling.Yields pool now request before fresh (before.enter now fresh request) := by
  intro before
  obtain ⟨ruling, applies, yields⟩ :=
    (run.keyed templates buffer).enter_exclusive home exclusive now fresh
  refine ⟨⟨ruling, applies, fun other holds => PartyRuling.applies_unique holds applies⟩,
    fun other holds => ?_⟩
  rw [PartyRuling.applies_unique holds applies]
  exact yields

/-- The instance of a party has reached its deadline and has not been swept. Its
leader neither gets back into it nor gets another one. -/
theorem Run.ended_instance_keeps_its_key :
    let template := (Template.exclusive "a" 100 "entry" (.ofSeconds 3600)).withMostOccupants 2
    let request := (Request.new 1 900 "a").withParty 7 true
    let run : Run := [(.epoch, .enter (.ofNat 1) (request.withLifetime (.ofSeconds 60)))]
    let late := (Instant.epoch.after? (.ofSeconds 60)).getD .epoch
    let before := run.result [template] 16
    ∃ pool, before.pool? request.template = some pool ∧
      pool.template.kind = .exclusive (some 2) ∧
      PartyRuling.closing.Applies pool (some 2) late request ∧
      before.enter late (.ofNat 2) request =
        (before, .error (.instancesFull pool.template.id)) := by
  intro template request run late before
  have ended : (before.instance? "a" (.party 7)).any (·.expiresAt ≤ late) = true := by decide
  obtain ⟨i, live, reached⟩ := (Option.any_eq_true _ _).mp ended
  obtain ⟨pool, home, held⟩ := Registry.instance?_eq_some_iff.mp live
  have own : pool.template = template := by
    have shown : (before.pool? "a").map Pool.template = some template := by decide
    rw [home] at shown
    exact Option.some.inj shown
  have exclusive : pool.template.kind = .exclusive (some 2) := by rw [own]; rfl
  have eligible : PartyRuling.Eligible pool late request := by
    rw [PartyRuling.Eligible, own]
    exact ⟨fun context belongs => by cases belongs; rfl, by decide, by decide⟩
  have applies : PartyRuling.closing.Applies pool (some 2) late request :=
    ⟨eligible, i, held, of_decide_eq_true reached⟩
  exact ⟨pool, home, exclusive, applies,
    (party_admission_follows_its_table run [template] 16 late (.ofNat 2) request home exclusive).2
      .closing applies⟩

end InstancedAreas
