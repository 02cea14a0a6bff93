import InstancedAreas.Proofs.Retry
import InstancedAreas.Proofs.Service.Build

/-! What a valid configuration is good for. It makes a service without anything
added, which has the policy of each configured gate, and into each of its templates
the first player can go at any time from which the lifetime ends within the
calendar. -/
namespace InstancedAreas

/-- A group of one fits wherever somebody has a place. -/
theorem Request.fits_of_alone {request : Request} (alone : request.group = [request.player])
    {limit : Option UInt32} (nonzero : limit ≠ some 0) : request.Fits limit := by
  intro most bounded
  have positive : most.toNat ≠ 0 := fun zero =>
    nonzero (bounded.trans (congrArg Option.some (UInt32.toNat_inj.mp zero)))
  have one : request.members.card = 1 := by rw [← length_group, alone]; rfl
  omega

/-- Where nothing is live, a group that an instance can hold has one opened for it. -/
theorem Registry.Keyed.opens_of_empty {r : Registry} (keyed : r.Keyed) {now : Instant}
    {request : Request} {t : Template} (home : r.template? request.template = some t)
    (empty : ∀ key, r.instance? request.template key = none)
    (admissible : request.Admissible now t) (fits : request.Fits t.occupantLimit)
    (fresh : InstanceId) :
    ∃ a deadline, (r.enter now fresh request).2 = .ok a ∧ a.created = true ∧
      now.after? (request.lifetime t) = some deadline ∧ a.expiresAt = some deadline := by
  obtain ⟨a, answer⟩ := keyed.enter_of_free home (empty _) admissible fits fresh
  rcases keyed.enter_cases now fresh request with ⟨error, refused, -⟩ | ⟨s, b, entry, granted⟩
  · rw [refused] at answer
    cases answer
  · rw [entry] at answer
    cases answer
    cases granted with
    | joins pool i known target leads placed held =>
      have live := instance?_eq_some_iff.mpr ⟨pool, known, held⟩
      rw [← target] at live
      cases live.symm.trans (empty i.key)
    | opens pool key deadline born known target leads placed free ends fits new =>
      have same : pool.template = t := by
        rw [target, template?, known] at home
        exact Option.some.inj home
      refine ⟨_, deadline, congrArg Prod.snd entry, rfl, same ▸ ends, ?_⟩
      rw [new]
      rfl

/-- The registry of a service is one of keyed pools in which nothing is live. -/
theorem Blueprint.keyed_assembled (plan : Blueprint) (policies : List Gate.Policy) :
    (plan.assembled policies).registry.Keyed := by
  intro id pool found
  rw [pool?_assembled] at found
  exact Registry.keyed_ofTemplates _ _ id pool found

theorem Blueprint.instance?_assembled (plan : Blueprint) (policies : List Gate.Policy)
    (template : TemplateId) (key : InstanceKey) :
    (plan.assembled policies).registry.instance? template key = none := by
  rw [Registry.instance?, pool?_assembled]
  exact Registry.instance?_ofTemplates ..

/-- The first player who is alone, or leads a party, goes into any legal template at a
time from which its lifetime ends within the calendar. -/
theorem Blueprint.first_entry {plan : Blueprint} (legal : plan.whole.Legal)
    (policies : List Gate.Policy) {t : Template} (member : t ∈ plan.whole.templates)
    {now : Instant} (fresh : InstanceId) {request : Request} (target : request.template = t.id)
    (alone : request.group = [request.player]) (leads : request.Leads)
    (plain : request.lifetimeOverride = none)
    (within : now.nanos + t.lifetime.nanos ≤ Instant.latestNanos) :
    ∃ a deadline, ((plan.assembled policies).registry.enter now fresh request).2 = .ok a ∧
      a.created = true ∧ now.after? t.lifetime = some deadline ∧
      a.expiresAt = some deadline ∧ now < deadline := by
  have rules := legal.templates t member
  have lifetime : request.lifetime t = t.lifetime := by rw [Request.lifetime, plain]; rfl
  have known : (plan.assembled policies).registry.template? request.template = some t := by
    rw [Registry.template?, pool?_assembled, target]
    exact (Registry.template?_ofTemplates legal.ids).mpr ⟨member, rfl⟩
  have ends : now.after? t.lifetime ≠ none := by
    rw [ne_eq, Instant.after?_eq_none_iff, not_or]
    exact ⟨Nat.not_lt.mpr rules.finite, Int.not_lt.mpr within⟩
  have admissible : request.Admissible now t := by
    constructor
    · exact fun _ => leads
    · rw [lifetime]
      exact rules.lasting
    · rwa [lifetime]
  obtain ⟨a, deadline, answer, created, reached, end_⟩ :=
    (keyed_assembled plan policies).opens_of_empty known (instance?_assembled plan policies _)
      admissible (Request.fits_of_alone alone rules.limit_ne_zero) fresh
  rw [lifetime] at reached
  exact ⟨a, deadline, answer, created, reached, end_, Instant.lt_of_after? rules.lasting reached⟩

/-- A configuration that passes validation makes a service. Its gates have just the
policies of the configured ones, each under its own name, and into each template a player
who is alone, or leads a party, can go at every time from which the lifetime ends within
the calendar: an instance is created, and ends a lifetime ahead. -/
theorem valid_configuration_makes_a_usable_service (config : Configuration) (clock : Clock)
    (relocator : Relocator) (board : Option Gate.Board) (logEvents : Bool)
    (valid : config.validate = .ok ()) :
    ∃ service, Blueprint.build ⟨config, [], [], clock, relocator, board, logEvents⟩ = .ok service ∧
      (service.policies.values.map .ok).Perm (config.gates.map Gate.Setting.policy) ∧
      (∀ gate ∈ config.gates, ∃ policy, gate.policy = .ok policy ∧
        service.policies.find? gate.name = some policy) ∧
      ∀ t ∈ config.templates, ∀ (now : Instant) (fresh : InstanceId) (request : Request),
        request.template = t.id → request.group = [request.player] → request.Leads →
        request.lifetimeOverride = none → now.nanos + t.lifetime.nanos ≤ Instant.latestNanos →
          ∃ a deadline, (service.registry.enter now fresh request).2 = .ok a ∧
            a.created = true ∧ now.after? t.lifetime = some deadline ∧
            a.expiresAt = some deadline ∧ now < deadline := by
  let plan : Blueprint := ⟨config, [], [], clock, relocator, board, logEvents⟩
  have whole : plan.whole = config := by
    simp [Blueprint.whole, plan]
  have legal := Configuration.validate_eq_ok_iff.mp valid
  obtain ⟨configured, made⟩ := legal.policies
  have once : (configured.map Gate.Policy.name).Nodup := by
    rw [Configuration.map_name_policies made]
    exact legal.names
  have built : plan.build = .ok (plan.assembled configured) := by
    refine Blueprint.build_eq_ok_iff.mpr ⟨whole ▸ legal, configured, whole ▸ made, nofun, ?_, ?_⟩
    · rwa [List.append_nil]
    · rw [List.append_nil]
  have held : (Gate.policiesOf configured).values.Perm configured :=
    Gate.values_policiesOf_perm once
  refine ⟨_, built, ?_, fun gate member => ?_, ?_⟩
  · rw [Blueprint.policies_assembled, Configuration.policies_eq_ok_iff.mp made]
    exact held.map _
  · obtain ⟨policy, same, -⟩ := (legal.gates gate member).leads
    refine ⟨policy, same, ?_⟩
    rw [Blueprint.policies_assembled, Gate.find?_policiesOf once]
    exact ⟨(Configuration.mem_policies_iff made).mpr ⟨gate, member, same⟩,
      (Gate.Setting.of_policy same).1⟩
  · intro t member now fresh request target alone leads plain within
    exact Blueprint.first_entry (whole ▸ legal) configured (whole ▸ member) fresh target alone
      leads plain within

/-- A player comes to a harbour that nobody has entered before. -/
theorem first_player_enters_the_harbour :
    let harbour := Template.exclusive "harbour" 100 "pier" (.ofSeconds 3600)
    let ferry : Gate.Setting := ⟨"ferry", ["OPEN"], [], some "harbour", none, none, []⟩
    let config : Configuration := ⟨.default, [harbour], [ferry]⟩
    config.validate = .ok () ∧
      ∃ service, Blueprint.build ⟨config, [], [], ⟨0⟩, .none, none, false⟩ = .ok service ∧
        service.policies.find? "ferry" = some ⟨"ferry", ["OPEN"], [], .template "harbour"⟩ ∧
        ∃ a deadline, (service.registry.enter .epoch (.ofNat 1) (.new 1 900 "harbour")).2 = .ok a ∧
          a.created = true ∧ Instant.epoch.after? (.ofSeconds 3600) = some deadline ∧
          a.expiresAt = some deadline ∧ Instant.epoch < deadline := by
  intro harbour ferry config
  have legal : harbour.Legal := ⟨by decide, by decide, by decide, nofun⟩
  have leads : ferry.Legal ["harbour"] :=
    ⟨by decide, by decide, _, rfl, List.mem_singleton_self _⟩
  have valid : config.validate = .ok () := Configuration.validate_eq_ok_iff.mpr
    ⟨by decide, by decide, List.forall_mem_singleton.mpr legal, List.nodup_singleton _,
      List.forall_mem_singleton.mpr leads, List.nodup_singleton _⟩
  obtain ⟨service, built, -, named, enters⟩ :=
    valid_configuration_makes_a_usable_service config ⟨0⟩ .none none false valid
  obtain ⟨policy, made, found⟩ := named ferry (List.mem_singleton_self ferry)
  cases made
  refine ⟨valid, service, built, found, ?_⟩
  exact enters harbour (List.mem_singleton_self harbour) .epoch (.ofNat 1) (.new 1 900 "harbour")
    rfl rfl nofun rfl (by decide)

end InstancedAreas
