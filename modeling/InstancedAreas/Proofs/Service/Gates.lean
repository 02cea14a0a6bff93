import InstancedAreas.Proofs.Service.Build

/-! The gates of a service, from wherever they came. Whatever is said before it is
built, and in whatever order, its templates keep the rules, its gates have different
names and lead to where something is. The names and states of its gates keep the rules
as well exactly if those of the added ones do by themselves, since building does not
look at them. -/
namespace InstancedAreas.Blueprint

/-- What is said of a service before it is built. -/
inductive Call where
  | config (config : Configuration)
  | template (template : Template)
  | gate (policy : Gate.Policy)

/-- The plan after one more call. A configuration takes the place of the one before,
templates and gates come on top. -/
def call (plan : Blueprint) : Call → Blueprint
  | .config config => { plan with config }
  | .template template => { plan with templates := plan.templates ++ [template] }
  | .gate policy => { plan with gates := plan.gates ++ [policy] }

/-- The plan that calls make of the default configuration. -/
def ofCalls (clock : Clock) (relocator : Relocator) (board : Option Gate.Board)
    (logEvents : Bool) (calls : List Call) : Blueprint :=
  calls.foldl call ⟨.default, [], [], clock, relocator, board, logEvents⟩

/-- The added gates are the earlier ones and those of the calls. -/
theorem mem_gates_calls {plan : Blueprint} {calls : List Call} {policy : Gate.Policy} :
    policy ∈ (calls.foldl call plan).gates ↔ policy ∈ plan.gates ∨ .gate policy ∈ calls := by
  induction calls generalizing plan with
  | nil => simp
  | cons first rest ih =>
    rw [List.foldl_cons, ih]
    cases first <;> simp [call, or_assoc]

section Built

variable {clock : Clock} {relocator : Relocator} {board : Option Gate.Board} {logEvents : Bool}
  {calls : List Call} {service : Service}

/-- However a service was made up, its templates are legal and have different ids, its
gates have different names and lead to an area or into one of the templates. Their names
and states are legal exactly if those of the gates that were added to the configured
ones are. -/
theorem built_gates_are_legal_exactly_if_the_added_are
    (built : (ofCalls clock relocator board logEvents calls).build = .ok service) :
    (∀ t ∈ service.registry.templates, t.Legal ∧ t.occupantLimit ≠ some 0) ∧
      (service.registry.templates.map Template.id).Nodup ∧
      (service.policies.values.map Gate.Policy.name).Nodup ∧
      (∀ p ∈ service.policies.values,
        p.destination.Within (service.registry.templates.map Template.id)) ∧
      ((∀ p ∈ service.policies.values, p.Legal) ↔ ∀ p, .gate p ∈ calls → p.Legal) := by
  obtain ⟨legal, configured, made, within, once, -⟩ := build_eq_ok_iff.mp built
  have policies := built_policies_perm built made
  have templates := built_templates_perm built
  have ids := templates.map Template.id
  have member (p : Gate.Policy) : p ∈ service.policies.values ↔
      p ∈ configured ∨ .gate p ∈ calls := by
    rw [policies.mem_iff, List.mem_append, ofCalls, mem_gates_calls, List.mem_nil_iff, false_or]
  have given (p : Gate.Policy) (first : p ∈ configured) :
      p.Legal ∧ p.destination.Within (service.registry.templates.map Template.id) := by
    obtain ⟨gate, listed, same⟩ := (Configuration.mem_policies_iff made).mp first
    rw [Gate.Destination.within_congr fun _ => ids.mem_iff]
    exact (legal.gates gate listed).policy same
  refine ⟨fun t held => ?_, ids.nodup_iff.mpr legal.ids,
    (policies.map Gate.Policy.name).nodup_iff.mpr once, fun p held => ?_, ?_⟩
  · have kept := legal.templates t (templates.mem_iff.mp held)
    exact ⟨kept, kept.limit_ne_zero⟩
  · rcases List.mem_append.mp (policies.mem_iff.mp held) with first | later
    · exact (given p first).2
    · rw [Gate.Destination.within_congr fun _ => ids.mem_iff]
      exact within p later
  · constructor
    · exact fun all p added => all p ((member p).mpr (.inr added))
    · intro added p held
      rcases (member p).mp held with first | later
      · exact (given p first).1
      · exact added p later

end Built

/-- A harbour and a gate into it that says when it is open: all gates are legal. -/
theorem harbour_gate_is_legal :
    let harbour := Template.exclusive "harbour" 100 "pier" (.ofSeconds 3600)
    let gate := ((Gate.Policy.toTemplate "ferry" "harbour").allowing "OPEN").retrying "CLOSING"
    ∃ service, (ofCalls ⟨0⟩ .none none false [.gate gate, .template harbour]).build = .ok service ∧
      gate ∈ service.policies.values ∧ ∀ p ∈ service.policies.values, p.Legal := by
  intro harbour gate
  have legal : gate.Legal := ⟨by decide, by decide⟩
  let plan := ofCalls ⟨0⟩ .none none false [.gate gate, .template harbour]
  have succeeds : plan.build.isOk = true := by decide
  cases built : plan.build with
  | error problem => rw [built] at succeeds; cases succeeds
  | ok service =>
    refine ⟨service, rfl, ?_, ?_⟩
    · exact (built_policies_perm built rfl).mem_iff.mpr (List.mem_singleton_self gate)
    · refine (built_gates_are_legal_exactly_if_the_added_are built).2.2.2.2.mpr fun p added => ?_
      obtain rfl : p = gate := by simpa using added
      exact legal

/-- A gate whose name is blank, and another that is open and closing in one state, are
added to a service that is built. -/
theorem illegal_gates_are_added :
    let place := Gate.Destination.area 100 "pier"
    ∃ service, (ofCalls ⟨0⟩ .none none false
        [.gate ⟨" ", ["OPEN"], [], place⟩, .gate ⟨"ferry", ["OPEN"], ["OPEN"], place⟩]).build =
          .ok service ∧
      (∃ p ∈ service.policies.values, Text.blank p.name = true) ∧
      ∃ p ∈ service.policies.values, ∃ state ∈ p.allow, state ∈ p.retry :=
  ⟨_, rfl, by decide, by decide⟩

end InstancedAreas.Blueprint
