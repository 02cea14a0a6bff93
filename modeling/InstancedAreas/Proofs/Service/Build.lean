import InstancedAreas.Proofs.Configuration.Validation
import InstancedAreas.Proofs.Registry.Lookup
import InstancedAreas.Service

/-! How a service is built. A plan is built exactly if its whole configuration keeps
the rules, no gate that was added has the name of another, and each leads to where
something is. The registry looks through the ids of the templates once more, and finds
none repeated where validation found none. The service then has the policies of the
configured gates and the added ones, each as it was given: what a gate's name and states
must be is asked of the configured ones alone. -/
namespace InstancedAreas

namespace Registry

variable {templates : List Template} {buffer : Nat} (once : (templates.map Template.id).Nodup)

include once

/-- The entries of a registry for templates whose ids are used once. -/
theorem entries_ofTemplates_perm : (ofTemplates templates buffer).pools.entries.Perm
    (templates.map fun t => (t.id, ⟨t, .empty⟩)) :=
  Table.entries_ofList_perm (by rwa [List.map_map])

/-- What a registry knows under an id is the template that has it. -/
theorem template?_ofTemplates {id : TemplateId} {t : Template} :
    (ofTemplates templates buffer).template? id = some t ↔ t ∈ templates ∧ t.id = id := by
  simp only [template?, pool?, Option.map_eq_some_iff, Table.find?_eq_some_iff,
    (entries_ofTemplates_perm once).mem_iff, List.mem_map]
  constructor
  · rintro ⟨pool, ⟨other, member, same⟩, rfl⟩
    obtain ⟨rfl, rfl⟩ := Prod.mk.inj same
    exact ⟨member, rfl⟩
  · rintro ⟨member, rfl⟩
    exact ⟨⟨t, .empty⟩, ⟨t, member, rfl⟩, rfl⟩

/-- The templates of a registry are the ones that it was made of. -/
theorem templates_ofTemplates_perm : (ofTemplates templates buffer).templates.Perm templates := by
  have same : ((templates.map fun t => (t.id, Pool.mk t .empty)).map Prod.snd).map Pool.template =
      templates := by
    simp [Function.comp_def]
  have perm := ((@entries_ofTemplates_perm templates buffer once).map Prod.snd).map Pool.template
  rwa [same] at perm

end Registry

namespace Gate

variable {policies : List Gate.Policy} (once : (policies.map Gate.Policy.name).Nodup)

include once

/-- The entries for policies whose names are used once. -/
theorem entries_policiesOf_perm :
    (policiesOf policies).entries.Perm (policies.map fun p => (p.name, p)) :=
  Table.entries_ofList_perm (by rwa [List.map_map])

/-- The policy held under a name is the one that has it. -/
theorem find?_policiesOf {name : String} {policy : Gate.Policy} :
    (policiesOf policies).find? name = some policy ↔ policy ∈ policies ∧ policy.name = name := by
  rw [Table.find?_eq_some_iff, (entries_policiesOf_perm once).mem_iff, List.mem_map]
  constructor
  · rintro ⟨other, member, same⟩
    obtain ⟨rfl, rfl⟩ := Prod.mk.inj same
    exact ⟨member, rfl⟩
  · rintro ⟨member, rfl⟩
    exact ⟨policy, member, rfl⟩

/-- The policies held are those of the list. -/
theorem values_policiesOf_perm : (policiesOf policies).values.Perm policies := by
  have same : (policies.map fun p => (p.name, p)).map Prod.snd = policies := by
    simp [Function.comp_def]
  have perm := (entries_policiesOf_perm once).map Prod.snd
  rwa [same] at perm

end Gate

namespace Service

/-- No id is found that stands earlier or is repeated exactly if there is none. -/
theorem firstRepeated?_eq_none_iff {earlier ids : List TemplateId} (once : earlier.Nodup) :
    firstRepeated? earlier ids = none ↔ (ids ++ earlier).Nodup := by
  induction ids generalizing earlier with
  | nil => simpa [firstRepeated?] using once
  | cons id rest ih =>
    have turn : (id :: rest ++ earlier).Nodup ↔ (rest ++ id :: earlier).Nodup :=
      List.perm_middle.symm.nodup_iff
    rw [turn]
    by_cases used : id ∈ earlier
    · simp [firstRepeated?, used, List.nodup_append]
    · simpa [firstRepeated?, used] using ih (List.nodup_cons.mpr ⟨used, once⟩)

/-- A registry is made of templates exactly if no two have one id. -/
theorem registryOf_eq_ok_iff {templates : List Template} {buffer : Nat} {r : Registry} :
    registryOf templates buffer = .ok r ↔
      (templates.map Template.id).Nodup ∧ r = .ofTemplates templates buffer := by
  have once : firstRepeated? [] (templates.map Template.id) = none ↔ _ :=
    firstRepeated?_eq_none_iff List.nodup_nil
  rw [List.append_nil] at once
  rw [← once, registryOf]
  cases firstRepeated? [] (templates.map Template.id) <;> simp [eq_comm]

end Service

namespace Configuration

/-- The policies of all gates are those of each, in order. -/
theorem policies_eq_ok_iff {config : Configuration} {policies : List Gate.Policy} :
    config.policies = .ok policies ↔ config.gates.map Gate.Setting.policy = policies.map .ok := by
  unfold Configuration.policies
  generalize config.gates = gates
  induction gates generalizing policies with
  | nil => cases policies <;> simp [pure, Except.pure]
  | cons gate rest ih =>
    rw [List.mapM_cons]
    cases made : gate.policy with
    | error problem => cases policies <;> simp [bind, Except.bind, made]
    | ok policy =>
      cases others : rest.mapM Gate.Setting.policy with
      | error problem => cases policies <;> simp [bind, Except.bind, ← ih, others, made]
      | ok _ => cases policies <;> simp [bind, Except.bind, pure, Except.pure, ← ih, others, made]

/-- Every gate of a legal configuration makes a policy. -/
theorem Legal.policies {config : Configuration} (legal : config.Legal) :
    ∃ policies, config.policies = .ok policies := by
  simp only [policies_eq_ok_iff]
  have each : ∀ gate ∈ config.gates, ∃ policy, gate.policy = .ok policy := fun gate member =>
    let ⟨policy, made, _⟩ := (legal.gates gate member).leads
    ⟨policy, made⟩
  generalize config.gates = gates at each
  induction gates with
  | nil => exact ⟨[], rfl⟩
  | cons gate rest ih =>
    obtain ⟨⟨policy, made⟩, others⟩ := List.forall_mem_cons.mp each
    obtain ⟨policies, listed⟩ := ih others
    exact ⟨policy :: policies, by rw [List.map_cons, List.map_cons, made, listed]⟩

section Policies

variable {config : Configuration} {policies : List Gate.Policy}
  (made : config.policies = .ok policies)

include made

theorem mem_policies_iff {policy : Gate.Policy} :
    policy ∈ policies ↔ ∃ gate ∈ config.gates, gate.policy = .ok policy := by
  have listed : (.ok policy : Except Problem _) ∈ policies.map .ok ↔ policy ∈ policies := by simp
  rw [← listed, ← policies_eq_ok_iff.mp made, List.mem_map]

/-- The policies have the names of the gates. -/
theorem map_name_policies :
    policies.map Gate.Policy.name = config.gates.map Gate.Setting.name := by
  have listed := policies_eq_ok_iff.mp made
  clear made
  generalize config.gates = gates at listed
  induction gates generalizing policies with
  | nil => cases policies with
    | nil => rfl
    | cons policy rest => cases listed
  | cons gate rest ih => cases policies with
    | nil => cases listed
    | cons policy policies =>
      obtain ⟨first, others⟩ := List.cons.inj listed
      rw [List.map_cons, List.map_cons, ih others, (Gate.Setting.of_policy first).1]

end Policies

end Configuration

namespace Blueprint

/-- The configuration with the further templates in it. -/
def whole (plan : Blueprint) : Configuration :=
  { plan.config with templates := plan.config.templates ++ plan.templates }

/-- The registry of all templates. -/
def registry (plan : Blueprint) : Registry :=
  .ofTemplates plan.whole.templates plan.whole.expiry.eventBuffer.toNat

/-- The service with some policies, before anybody reads along. -/
def unread (plan : Blueprint) (policies : List Gate.Policy) : Service where
  config := plan.whole
  clock := plan.clock
  registry := plan.registry
  policies := Gate.policiesOf policies
  source := match plan.board with
    | some board => .board board
    | none => .timetable (timetable plan.whole)
  relocator := plan.relocator
  patience := plan.whole.expiry.notifyTimeout

/-- The service with some policies, whether or not the plan keeps the rules. -/
def assembled (plan : Blueprint) (policies : List Gate.Policy) : Service :=
  if plan.logEvents then (plan.unread policies).subscribe.1 else plan.unread policies

@[simp]
theorem policies_assembled (plan : Blueprint) (policies : List Gate.Policy) :
    (plan.assembled policies).policies = Gate.policiesOf policies := by
  unfold assembled
  split <;> rfl

theorem source_assembled (plan : Blueprint) (policies : List Gate.Policy) :
    (plan.assembled policies).source = (plan.unread policies).source := by
  unfold assembled
  split <;> rfl

/-- Reading along from the beginning changes nothing but the feed. -/
theorem pools_assembled (plan : Blueprint) (policies : List Gate.Policy) :
    (plan.assembled policies).registry.pools = plan.registry.pools := by
  unfold assembled
  split <;> rfl

@[simp]
theorem pool?_assembled (plan : Blueprint) (policies : List Gate.Policy) (id : TemplateId) :
    (plan.assembled policies).registry.pool? id = plan.registry.pool? id :=
  congrArg (Table.find? · id) (pools_assembled plan policies)

/-- What validation refuses is not built. -/
theorem build_of_invalid {plan : Blueprint} {problem : Configuration.Problem}
    (invalid : plan.whole.validate = .error problem) : plan.build = .error problem := by
  change plan.whole.validate.bind _ = _
  rw [invalid]
  rfl

/-- Of a legal configuration the registry is made without an objection: what it asks of the ids
of the templates, validation has asked before. Then the policies of the gates are made, and the
others are added. -/
theorem build_eq {plan : Blueprint} (legal : plan.whole.Legal) :
    plan.build = plan.whole.policies.bind fun configured =>
      (plan.gates.foldlM (addGate plan.registry) configured).bind fun policies =>
        .ok (plan.assembled policies) := by
  have valid : plan.whole.validate = .ok () := Configuration.validate_eq_ok_iff.mpr legal
  have made : Service.registryOf plan.whole.templates plan.whole.expiry.eventBuffer.toNat =
      .ok plan.registry := Service.registryOf_eq_ok_iff.mpr ⟨legal.ids, rfl⟩
  change plan.whole.validate.bind _ = _
  rw [valid]
  change (Service.registryOf plan.whole.templates plan.whole.expiry.eventBuffer.toNat).bind _ = _
  rw [made]
  rfl

/-- A gate is added if it leads to where something is and its name is new. -/
theorem addGate_eq_ok_iff {templates : List Template} {buffer : Nat}
    (once : (templates.map Template.id).Nodup) {policies after : List Gate.Policy}
    {policy : Gate.Policy} :
    addGate (.ofTemplates templates buffer) policies policy = .ok after ↔
      policy.destination.Within (templates.map Template.id) ∧
        policy.name ∉ policies.map Gate.Policy.name ∧ after = policies ++ [policy] := by
  have known (id : TemplateId) : ((Registry.ofTemplates templates buffer).template? id).isNone ↔
      id ∉ templates.map Template.id := by
    rw [Option.isNone_iff_eq_none, Option.eq_none_iff_forall_ne_some, List.mem_map, not_exists]
    exact forall_congr' fun t => not_congr (Registry.template?_ofTemplates once)
  have named : (if policies.any (·.name = policy.name) then .error (.duplicateGate policy.name)
      else .ok (policies ++ [policy]) : Except Configuration.Problem _) = .ok after ↔
      policy.name ∉ policies.map Gate.Policy.name ∧ after = policies ++ [policy] := by
    cases used : policies.any (·.name = policy.name) with
    | true =>
      have taken : policy.name ∈ policies.map Gate.Policy.name := by simpa using used
      exact ⟨nofun, fun accepted => absurd taken accepted.1⟩
    | false =>
      have new : policy.name ∉ policies.map Gate.Policy.name := by simpa using used
      exact ⟨fun same => ⟨new, (Except.ok.inj same).symm⟩, fun accepted => accepted.2 ▸ rfl⟩
  cases leads : policy.destination with
  | area place spawnPoint => simpa [addGate, leads, Gate.Destination.Within] using named
  | template id =>
    by_cases listed : id ∈ templates.map Template.id
    · have found := mt (known id).mp (not_not_intro listed)
      simpa [addGate, leads, found, Gate.Destination.Within, listed] using named
    · have missing := (known id).mpr listed
      simp [addGate, leads, missing, Gate.Destination.Within, listed]

/-- Gates are added in order, if each leads to where something is and no name is used twice. -/
theorem addGates_eq_ok_iff {templates : List Template} {buffer : Nat}
    (once : (templates.map Template.id).Nodup) {policies gates after : List Gate.Policy}
    (distinct : (policies.map Gate.Policy.name).Nodup) :
    gates.foldlM (addGate (.ofTemplates templates buffer)) policies = .ok after ↔
      (∀ p ∈ gates, p.destination.Within (templates.map Template.id)) ∧
        ((policies ++ gates).map Gate.Policy.name).Nodup ∧ after = policies ++ gates := by
  induction gates generalizing policies with
  | nil =>
    rw [List.append_nil]
    exact ⟨fun same => ⟨nofun, distinct, (Except.ok.inj same).symm⟩,
      fun accepted => accepted.2.2 ▸ rfl⟩
  | cons gate rest ih =>
    have first := @addGate_eq_ok_iff templates buffer once policies (policies ++ [gate]) gate
    by_cases accepted : gate.destination.Within (templates.map Template.id) ∧
        gate.name ∉ policies.map Gate.Policy.name
    · have longer : ((policies ++ [gate]).map Gate.Policy.name).Nodup := by
        rw [List.map_append, (List.perm_append_comm).nodup_iff]
        exact List.nodup_cons.mpr ⟨accepted.2, distinct⟩
      rw [List.foldlM_cons, first.mpr ⟨accepted.1, accepted.2, rfl⟩, List.forall_mem_cons,
        and_iff_right accepted.1, List.append_cons policies gate rest]
      exact ih longer
    · have refused (after : List Gate.Policy) :
          addGate (.ofTemplates templates buffer) policies gate ≠ .ok after := fun added =>
        accepted ⟨((addGate_eq_ok_iff once).mp added).1, ((addGate_eq_ok_iff once).mp added).2.1⟩
      constructor
      · intro added
        rw [List.foldlM_cons] at added
        cases step : addGate (.ofTemplates templates buffer) policies gate with
        | error problem => simp [step, bind, Except.bind] at added
        | ok after => exact absurd step (refused after)
      · rintro ⟨within, once', -⟩
        refine absurd ⟨within gate (List.mem_cons_self ..), fun used => ?_⟩ accepted
        rw [List.map_append, List.nodup_append] at once'
        exact once'.2.2 gate.name used gate.name (List.mem_cons_self ..) rfl

/-- What building takes, and what it makes. -/
theorem build_eq_ok_iff {plan : Blueprint} {service : Service} :
    plan.build = .ok service ↔ plan.whole.Legal ∧
      ∃ configured, plan.whole.policies = .ok configured ∧
        (∀ p ∈ plan.gates, p.destination.Within (plan.whole.templates.map Template.id)) ∧
          ((configured ++ plan.gates).map Gate.Policy.name).Nodup ∧
            service = plan.assembled (configured ++ plan.gates) := by
  by_cases legal : plan.whole.Legal
  · obtain ⟨configured, made⟩ := legal.policies
    have distinct : (configured.map Gate.Policy.name).Nodup := by
      rw [Configuration.map_name_policies made]
      exact legal.names
    have added {after : List Gate.Policy} :
        plan.gates.foldlM (addGate plan.registry) configured = .ok after ↔ _ :=
      addGates_eq_ok_iff legal.ids distinct
    have built : plan.build = .ok service ↔
        ∃ policies, plan.gates.foldlM (addGate plan.registry) configured = .ok policies ∧
          service = plan.assembled policies := by
      rw [build_eq legal, made]
      simp only [Except.bind]
      cases plan.gates.foldlM (addGate plan.registry) configured <;> simp [eq_comm]
    rw [built, and_iff_right legal, made]
    simp [added, and_assoc]
  · have refused : plan.build ≠ .ok service := by
      cases valid : plan.whole.validate with
      | error problem =>
        rw [build_of_invalid valid]
        exact nofun
      | ok _ => exact absurd (Configuration.validate_eq_ok_iff.mp valid) legal
    simp [refused, legal]

/-- The service that is built of a valid configuration alone. -/
theorem build_of_legal {config : Configuration} (legal : config.Legal) (clock : Clock)
    (relocator : Relocator) (board : Option Gate.Board) (logEvents : Bool) :
    let plan : Blueprint := ⟨config, [], [], clock, relocator, board, logEvents⟩
    plan.whole = config ∧ ∃ configured, plan.build = .ok (plan.assembled configured) ∧
      ∀ gate ∈ config.gates, ∃ policy, gate.policy = .ok policy ∧
        (Gate.policiesOf configured).find? gate.name = some policy := by
  intro plan
  have whole : plan.whole = config :=
    congrArg (fun templates => { config with templates }) (List.append_nil config.templates)
  obtain ⟨configured, made⟩ := legal.policies
  have once : (configured.map Gate.Policy.name).Nodup := by
    rw [Configuration.map_name_policies made]
    exact legal.names
  refine ⟨whole, configured, build_eq_ok_iff.mpr ⟨whole ▸ legal, configured, whole ▸ made,
    List.forall_mem_nil _, ?_, ?_⟩, fun gate member => ?_⟩
  · rwa [List.append_nil]
  · rw [List.append_nil]
  · obtain ⟨policy, same, -⟩ := (legal.gates gate member).leads
    refine ⟨policy, same, (Gate.find?_policiesOf once).mpr ⟨?_, (Gate.Setting.of_policy same).1⟩⟩
    exact (Configuration.mem_policies_iff made).mpr ⟨gate, member, same⟩

/-- A service that was built has the templates of the plan. -/
theorem built_templates_perm {plan : Blueprint} {service : Service}
    (built : plan.build = .ok service) :
    service.registry.templates.Perm plan.whole.templates := by
  obtain ⟨legal, configured, -, -, -, rfl⟩ := build_eq_ok_iff.mp built
  rw [Registry.templates, pools_assembled]
  exact Registry.templates_ofTemplates_perm legal.ids

/-- A service that was built has the policies of the configured gates and the added ones. -/
theorem built_policies_perm {plan : Blueprint} {service : Service}
    (built : plan.build = .ok service) {configured : List Gate.Policy}
    (made : plan.whole.policies = .ok configured) :
    service.policies.values.Perm (configured ++ plan.gates) := by
  obtain ⟨-, policies, made', -, once, rfl⟩ := build_eq_ok_iff.mp built
  cases made.symm.trans made'
  rw [policies_assembled]
  exact Gate.values_policiesOf_perm once

end Blueprint

end InstancedAreas
