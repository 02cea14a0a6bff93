import InstancedAreas.CommandLine.Run
import InstancedAreas.Proofs.Clock
import InstancedAreas.Proofs.Service.FirstEntry
import InstancedAreas.Proofs.Sweep.Census

/-! What a simulation reports. The players that it sends are all different, so what is
live at the end is told by the answers, and it all has one deadline, the template's
lifetime ahead. The clock is then moved by that lifetime, but in whole milliseconds. So
the sweep comes in time if the lifetime has no part of a millisecond, and otherwise it
comes before the deadline and ends nothing. -/
namespace InstancedAreas.CommandLine

/-- Whether an answer in a simulation reports a new instance. -/
def reportsNew (told : PlayerId × Except AdmissionError Admitted) : Bool :=
  told.2.toOption.any (·.created)

/-- Whether an answer in a simulation reports that the player was admitted. -/
def reportsAdmitted (told : PlayerId × Except AdmissionError Admitted) : Bool :=
  told.2.toOption.isSome

/-- The player with a number comes alone, for the template and its own lifetime. -/
theorem numberedRequest_eq (template : TemplateId) (party : Option PartyId) (n : Nat) :
    let request := numberedRequest template party n
    request.template = template ∧ request.player = .ofNat n ∧ request.group = [request.player] ∧
      request.lifetimeOverride = none := by
  cases party <;> exact ⟨rfl, rfl, rfl, rfl⟩

theorem lifetime_numberedRequest (template : TemplateId) (party : Option PartyId) (n : Nat)
    (t : Template) : (numberedRequest template party n).lifetime t = t.lifetime := by
  rw [Request.lifetime, (numberedRequest_eq template party n).2.2.2]
  rfl

theorem told_succ (service : Service) (fresh : Nat → InstanceId) (template : TemplateId)
    (party : Option PartyId) (count n : Nat) :
    (sendRequests fresh template party (count + 1) n service).2 =
      ((numberedRequest template party n).player,
        (service.enter (fresh n) (numberedRequest template party n)).2) ::
      (sendRequests fresh template party count (n + 1)
        (service.enter (fresh n) (numberedRequest template party n)).1).2 := rfl

/-- What is known while requests are sent: what is live was opened at one time for the
lifetime of the template, and those who are inside have smaller numbers than the players
to come. -/
structure Tally (r : Registry) (now : Instant) (t : Template) (n : Nat)
    (lives : List Instance) : Prop where
  census : r.Census lives
  home : r.template? t.id = some t
  deadlines : ∀ i ∈ lives, now.after? t.lifetime = some i.expiresAt
  numbered : ∀ player ∈ Instance.everybody lives, player.toNat < n

variable {r : Registry} {now : Instant} {t : Template} {n : Nat} {lives : List Instance}

/-- The request of the next player adds to the tally what is reported of it. -/
theorem Tally.enter (tally : Tally r now t n lives) (small : n < UInt64.size)
    (fresh : InstanceId) (party : Option PartyId) :
    let answer := (r.enter now fresh (numberedRequest t.id party n)).2
    ∃ after, Tally (r.enter now fresh (numberedRequest t.id party n)).1 now t (n + 1) after ∧
      after.length = lives.length + (if answer.toOption.any (·.created) then 1 else 0) ∧
      (Instance.everybody after).length =
        (Instance.everybody lives).length + (if answer.toOption.isSome then 1 else 0) := by
  intro answer
  obtain ⟨target, player, group, -⟩ := numberedRequest_eq t.id party n
  rw [player] at group
  have number : (UInt64.ofNat n).toNat = n := UInt64.toNat_ofNat_of_lt' small
  have outside : ∀ player ∈ (numberedRequest t.id party n).group,
      player ∉ Instance.everybody lives := by
    intro player member inside
    rw [group, List.mem_singleton] at member
    have below := tally.numbered player inside
    rw [member, number] at below
    exact Nat.lt_irrefl n below
  obtain ⟨after, census, grown⟩ := tally.census.enter now fresh outside
  have home := tally.home
  refine ⟨after, ⟨census, ?_, fun j counted => ?_, fun player inside => ?_⟩, grown.instances, ?_⟩
  · exact (Registry.template?_perform tally.census.keyed now (.enter fresh _) t.id).trans home
  · rcases grown.deadlines j counted with ⟨i, before, same⟩ | ⟨other, known, ends⟩
    · rw [same]
      exact tally.deadlines i before
    · rw [target, home] at known
      cases known
      rwa [lifetime_numberedRequest] at ends
  · rcases List.mem_append.mp (grown.players.mem_iff.mp inside) with new | old
    · have same : player = .ofNat n := by
        rw [group] at new
        split at new
        · exact List.mem_singleton.mp new
        · cases new
      rw [same, number]
      exact Nat.lt_succ_self n
    · exact Nat.lt_succ_of_lt (tally.numbered player old)
  · rw [grown.players.length_eq, List.length_append, Nat.add_comm, group]
    congr 1
    exact apply_ite List.length ..

/-- Sending requests adds to the tally what is reported, and leaves all of the service
but its registry alone. -/
theorem Tally.send {service : Service} (tally : Tally service.registry service.now t n lives)
    (fresh : Nat → InstanceId) (party : Option PartyId) (count : Nat)
    (small : n + count ≤ UInt64.size) :
    let sent := sendRequests fresh t.id party count n service
    ∃ after, Tally sent.1.registry service.now t (n + count) after ∧
      sent.1 = { service with registry := sent.1.registry } ∧
      after.length = lives.length + sent.2.countP reportsNew ∧
      (Instance.everybody after).length =
        (Instance.everybody lives).length + sent.2.countP reportsAdmitted := by
  induction count generalizing service n lives with
  | zero => exact ⟨lives, tally, rfl, rfl, rfl⟩
  | succ count ih =>
    intro sent
    obtain ⟨next, entered, births, arrivals⟩ := tally.enter (by omega) (fresh n) party
    let first := service.enter (fresh n) (numberedRequest t.id party n)
    have tallied : Tally first.1.registry first.1.now t (n + 1) next := entered
    obtain ⟨after, reached, rest, instances, players⟩ := ih tallied (by omega)
    have told : sent.2 = _ := told_succ service fresh t.id party count n
    refine ⟨after, ?_, rest, ?_, ?_⟩
    · rw [show n + (count + 1) = n + 1 + count by omega]
      exact reached
    · rw [instances, births, told, List.countP_cons, Nat.add_assoc, Nat.add_comm (ite ..)]
      rfl
    · rw [players, arrivals, told, List.countP_cons, Nat.add_assoc, Nat.add_comm (ite ..)]
      rfl

/-- The first player finds nothing live, and opens an instance if that has a deadline. -/
theorem Tally.first_is_new {service : Service}
    (tally : Tally service.registry service.now t 1 []) (legal : t.Legal)
    (ends : service.now.after? t.lifetime ≠ none) (fresh : Nat → InstanceId)
    (party : Option PartyId) (count : Nat) :
    0 < (sendRequests fresh t.id party (count + 1) 1 service).2.countP reportsNew := by
  obtain ⟨target, -, group, -⟩ := numberedRequest_eq t.id party 1
  have empty (key : InstanceKey) :
      service.registry.instance? (numberedRequest t.id party 1).template key = none := by
    apply Option.eq_none_iff_forall_not_mem.mpr
    intro i found
    exact List.not_mem_nil ((tally.census.mem_iff i).mpr (tally.census.keyed.found_in_place found))
  have admissible : (numberedRequest t.id party 1).Admissible service.now t := by
    refine ⟨fun _ => ?_, ?_, ?_⟩
    · intro context same
      cases party with
      | none => cases same
      | some party =>
        cases same
        rfl
    · rw [lifetime_numberedRequest]
      exact legal.lasting
    · rwa [lifetime_numberedRequest]
  have home := tally.home
  rw [← target] at home
  obtain ⟨a, -, answer, created, -⟩ := tally.census.keyed.opens_of_empty home empty admissible
    (Request.fits_of_alone group legal.limit_ne_zero) (fresh 1)
  have entered : (service.enter (fresh 1) (numberedRequest t.id party 1)).2 = .ok a := answer
  rw [told_succ, entered]
  exact List.countP_pos_iff.mpr ⟨_, List.mem_cons_self, created⟩

/-- In a simulation nothing is live when the first player is sent. -/
theorem Tally.of_plan {plan : Blueprint} (legal : plan.whole.Legal)
    (member : t ∈ plan.whole.templates) (policies : List Gate.Policy) (now : Instant) :
    Tally (plan.assembled policies).subscribe.1.registry now t 1 [] where
  census :=
    { keyed := Blueprint.keyed_assembled plan policies
      covered := fun template key i live => by
        cases live.symm.trans (Blueprint.instance?_assembled plan policies template key)
      once := .nil
      mem_iff := fun i => by
        refine iff_of_false List.not_mem_nil fun live => ?_
        cases live.symm.trans (Blueprint.instance?_assembled plan policies i.template i.key) }
  home := by
    change (plan.assembled policies).registry.template? t.id = some t
    rw [Registry.template?, Blueprint.pool?_assembled]
    exact (Registry.template?_ofTemplates legal.ids).mpr ⟨member, rfl⟩
  deadlines := List.forall_mem_nil _
  numbered := List.forall_mem_nil _

/-- When the lifetime has passed, all is due if the clock could be moved by just the
lifetime, and else nothing is. -/
theorem Tally.due {start : Instant} (begun : start.millis ≤ Clock.latestMillis)
    (tally : Tally r (Clock.startingAt start).now t n lives) :
    (lives.filter fun i => i.expiresAt ≤ ((Clock.startingAt start).advance t.lifetime).now) =
      if t.lifetime.nanos % nanosPerMilli = 0 then lives else [] := by
  have reaches : ∀ i ∈ lives, i.expiresAt ≤ ((Clock.startingAt start).advance t.lifetime).now ↔
      t.lifetime.nanos % nanosPerMilli = 0 := fun i member =>
    Clock.advance_reaches_iff begun (tally.deadlines i member)
  split
  · rename_i whole
    exact List.filter_eq_self.mpr fun i member => decide_eq_true ((reaches i member).mpr whole)
  · rename_i part
    exact List.filter_eq_nil_iff.mpr fun i member due =>
      part ((reaches i member).mp (of_decide_eq_true due))

section Reports

variable {service : Service} (tally : Tally service.registry service.now t 1 [])
  (fresh : Nat → InstanceId) (party : Option PartyId) (requests : UInt32)

include tally

/-- When all requests have been sent, all that is live was reported. -/
theorem Tally.all :
    let sent := sendRequests fresh t.id party requests.toNat 1 service
    ∃ lives n, Tally sent.1.registry service.now t n lives ∧
      sent.1 = { service with registry := sent.1.registry } ∧
      lives.length = sent.2.countP reportsNew ∧
      (Instance.everybody lives).length = sent.2.countP reportsAdmitted := by
  intro sent
  have few : 1 + requests.toNat ≤ UInt64.size := by
    have below := requests.toNat_lt_size
    simp only [UInt32.size, UInt64.size] at below ⊢
    omega
  obtain ⟨lives, counted, rest, instances, players⟩ := tally.send fresh party requests.toNat few
  rw [List.length_nil, Nat.zero_add] at instances
  rw [Instance.everybody_nil, List.length_nil, Nat.zero_add] at players
  exact ⟨lives, _, counted, rest, instances, players⟩

/-- When the lifetime has passed, a sweep reports all that was reported before if the
clock could be moved by just the lifetime, and else nothing. -/
theorem Tally.report {start : Instant} (begun : start.millis ≤ Clock.latestMillis)
    (clock : service.clock = .startingAt start) :
    let sent := sendRequests fresh t.id party requests.toNat 1 service
    let report := (sent.1.advance t.lifetime).sweep.2
    let whole := t.lifetime.nanos % nanosPerMilli = 0
    report.released.length = (if whole then sent.2.countP reportsNew else 0) ∧
      report.evicted = if whole then sent.2.countP reportsAdmitted else 0 := by
  intro sent report whole
  obtain ⟨lives, n, counted, rest, instances, players⟩ := tally.all fresh party requests
  have moved : (sent.1.advance t.lifetime).now =
      ((Clock.startingAt start).advance t.lifetime).now := by
    change (sent.1.clock.advance t.lifetime).now = _
    rw [rest, clock]
  have shown : service.now = (Clock.startingAt start).now := congrArg Clock.now clock
  rw [shown] at counted
  have due := counted.due begun
  rw [← moved] at due
  obtain ⟨released, evicted⟩ := counted.census.sweep (sent.1.advance t.lifetime).now
    sent.1.relocator sent.1.patience
  rw [due, apply_ite List.length, instances] at released
  rw [due, apply_ite Instance.everybody, apply_ite List.length, players] at evicted
  exact ⟨released, evicted⟩

/-- Nobody is let in if there is no deadline for an instance. -/
theorem Tally.nobody (never : service.now.after? t.lifetime = none) :
    let sent := sendRequests fresh t.id party requests.toNat 1 service
    sent.2.countP reportsNew = 0 ∧ sent.2.countP reportsAdmitted = 0 := by
  intro sent
  obtain ⟨lives, n, counted, -, instances, players⟩ := tally.all fresh party requests
  have nothing : lives = [] := List.eq_nil_iff_forall_not_mem.mpr fun i member => by
    cases never.symm.trans (counted.deadlines i member)
  subst nothing
  exact ⟨instances.symm, players.symm⟩

end Reports

/-- What is told by a simulation in which the lifetime passes at the end. -/
theorem simulate_eq {config : Configuration} (legal : config.Legal) (member : t ∈ config.templates)
    (now : Instant) (fresh : Nat → InstanceId) {simulation : Simulation}
    (target : simulation.template = t.id) (expires : simulation.expire = true)
    {service : Service}
    (built : Blueprint.build ⟨config, [], [], .startingAt now, .none, none, true⟩ = .ok service) :
    let sent := sendRequests fresh t.id simulation.party simulation.requests.toNat 1
      service.subscribe.1
    ∃ events : List Event, simulate config now fresh simulation =
      .ok (sent.2.map (fun told => .words (requestLine told.1 told.2)) ++
        [.words (sweepLine (sent.1.advance t.lifetime).sweep.2)] ++ events.map .event) := by
  intro sent
  have found : config.template? t.id = some t := Configuration.find?_of_nodup legal.ids member
  refine ⟨if simulation.json then
    eventsBeforeGap (((sent.1.advance t.lifetime).sweep.1.registry.feed.drain
      service.subscribe.2).2) else [], ?_⟩
  simp only [simulate, target, found, built, expires, bind, Except.bind, if_true]
  cases simulation.json <;> rfl

/-- A simulation after which the lifetime passes reports as many ended instances as it
reported new ones, and as many evicted players as it let in, exactly if the lifetime has
no part of a millisecond or nobody could be let in. Otherwise it ends nothing. -/
theorem simulation_ends_all_exactly_for_whole_lifetimes (config : Configuration) (now : Instant)
    (fresh : Nat → InstanceId) (simulation : Simulation) (t : Template)
    (valid : config.validate = .ok ()) (member : t ∈ config.templates)
    (begun : now.millis ≤ Clock.latestMillis) (target : simulation.template = t.id)
    (expires : simulation.expire = true) :
    ∃ service : Service,
      Blueprint.build ⟨config, [], [], .startingAt now, .none, none, true⟩ = .ok service ∧
      let sent := sendRequests fresh t.id simulation.party simulation.requests.toNat 1
        service.subscribe.1
      let report := (sent.1.advance t.lifetime).sweep.2
      (∃ events : List Event, simulate config now fresh simulation =
        .ok (sent.2.map (fun told => .words (requestLine told.1 told.2)) ++
          [.words (sweepLine report)] ++ events.map .event)) ∧
      (report.released.length = sent.2.countP reportsNew ∧
          report.evicted = sent.2.countP reportsAdmitted ↔
        t.lifetime.nanos % nanosPerMilli = 0 ∨ simulation.requests = 0 ∨
          (Clock.startingAt now).now.after? t.lifetime = none) ∧
      (t.lifetime.nanos % nanosPerMilli ≠ 0 → report.released = [] ∧ report.evicted = 0) := by
  have legal := Configuration.validate_eq_ok_iff.mp valid
  obtain ⟨all, policies, built, -⟩ :=
    Blueprint.build_of_legal legal (.startingAt now) .none none true
  refine ⟨_, built, simulate_eq legal member now fresh target expires built, ?_⟩
  have tally := Tally.of_plan (all.symm ▸ legal) (all.symm ▸ member) policies
    (Clock.startingAt now).now
  obtain ⟨released, evicted⟩ :=
    tally.report fresh simulation.party simulation.requests begun rfl
  refine ⟨?_, fun part => ⟨List.eq_nil_of_length_eq_zero (released.trans (if_neg part)),
    evicted.trans (if_neg part)⟩⟩
  rw [released, evicted]
  constructor
  · intro same
    by_contra! fails
    obtain ⟨part, asked, ends⟩ := fails
    obtain ⟨count, sends⟩ := Nat.exists_eq_succ_of_ne_zero fun zero =>
      asked (UInt32.toNat_inj.mp zero)
    have first := tally.first_is_new (legal.templates t member) ends fresh simulation.party count
    rw [if_neg part, sends] at same
    exact Nat.ne_of_lt first same.1
  · rintro (whole | unasked | never)
    · exact ⟨if_pos whole, if_pos whole⟩
    · rw [unasked]
      exact ⟨ite_self 0, ite_self 0⟩
    · obtain ⟨new, admitted⟩ := tally.nobody fresh simulation.party simulation.requests never
      rw [new, admitted]
      exact ⟨ite_self 0, ite_self 0⟩

/-- After an hour, all that three players opened in a harbour is ended. -/
theorem harbour_is_ended_after_an_hour :
    let harbour := Template.pooled "harbour" 100 "pier" 4 (.ofSeconds 3600)
    let config : Configuration := ⟨.default, [harbour], []⟩
    let simulation : Simulation := ⟨"harbour", 3, none, true, false⟩
    config.validate = .ok () ∧ ∃ service : Service,
      Blueprint.build ⟨config, [], [], .startingAt .epoch, .none, none, true⟩ = .ok service ∧
      let sent := sendRequests .ofNat harbour.id simulation.party simulation.requests.toNat 1
        service.subscribe.1
      let report := (sent.1.advance harbour.lifetime).sweep.2
      report.released.length = sent.2.countP reportsNew ∧
        report.evicted = sent.2.countP reportsAdmitted := by
  intro harbour config simulation
  have valid : config.validate = .ok () := by decide
  obtain ⟨service, built, -, all, -⟩ := simulation_ends_all_exactly_for_whole_lifetimes config
    .epoch .ofNat simulation harbour valid (List.mem_singleton_self harbour) (by decide) rfl rfl
  exact ⟨valid, service, built, all.mpr (.inl (by decide))⟩

/-- A lifetime of a millisecond and a half does not pass, and the player who was let in
stays. -/
theorem simulation_ends_nothing_after_part_of_a_millisecond :
    let harbour := Template.pooled "harbour" 100 "pier" 4 ⟨1500000, by decide⟩
    let config : Configuration := ⟨.default, [harbour], []⟩
    config.validate = .ok () ∧
      simulate config .epoch .ofNat ⟨"harbour", 1, none, true, false⟩ =
        .ok [.words "player    1: admitted to 100 slot:0 (new)",
          .words "expired 0 instances, evicted 0 occupants"] :=
  ⟨rfl, rfl⟩

end InstancedAreas.CommandLine
