import InstancedAreas.Proofs.Admission.Grant
import InstancedAreas.Proofs.Run

/-! What gates add to admission. The verdict on a gate's state is all that they look
at themselves. A gate that is not open refuses everybody and changes nothing; an open
one lets a group through to an area whatever admission would say, or leaves all to
admission to its own template. No refusal of admission can be taken for one of a
gate. -/
namespace InstancedAreas

namespace Gate

/-- What a state means by a policy, if there is one. A state that is listed as open is
open, whether or not it is listed as closing. -/
inductive Policy.Means (p : Policy) : Option String → Verdict → Prop where
  | opens (state : String) (listed : state ∈ p.allow) : p.Means (some state) .allow
  | closes (state : String) (shut : state ∉ p.allow) (listed : state ∈ p.retry) :
      p.Means (some state) .denyRetryable
  | unlisted (state : String) (shut : state ∉ p.allow) (idle : state ∉ p.retry) :
      p.Means (some state) .denyNotYet
  | stateless : p.Means none .denyNotYet

theorem Policy.means_decide (p : Policy) (state : Option String) :
    p.Means state (p.decide state) := by
  cases state with
  | none => exact .stateless
  | some state =>
    simp only [decide, List.contains_iff_mem]
    split
    · exact .opens state ‹_›
    · split
      · exact .closes state ‹_› ‹_›
      · exact .unlisted state ‹_› ‹_›

/-- The verdict on a state is what it means by the policy. -/
theorem Policy.decide_eq_iff {p : Policy} {state : Option String} {verdict : Verdict} :
    p.decide state = verdict ↔ p.Means state verdict := by
  constructor
  · rintro rfl
    exact p.means_decide state
  · intro meant
    cases meant with
    | opens state listed => simp [decide, listed]
    | closes state shut listed => simp [decide, shut, listed]
    | unlisted state shut idle => simp [decide, shut, idle]
    | stateless => rfl

/-- A gate that is closing is in a state. -/
theorem Policy.state_of_retryable {p : Policy} {state : Option String}
    (closing : p.decide state = .denyRetryable) : ∃ label, state = some label := by
  cases decide_eq_iff.mp closing with
  | closes label => exact ⟨label, rfl⟩

/-- No policy is held under a name that none of them has. -/
theorem find?_policiesOf_eq_none_iff {policies : List Policy} {gate : String} :
    (policiesOf policies).find? gate = none ↔ ∀ p ∈ policies, p.name ≠ gate := by
  rw [policiesOf, Table.find?_ofList_eq_none_iff, List.map_map]
  simp

/-- A policy that is held under a name is one of those that have it. -/
theorem mem_of_find?_policiesOf {policies : List Policy} {gate : String} {policy : Policy}
    (held : (policiesOf policies).find? gate = some policy) :
    policy ∈ policies ∧ policy.name = gate := by
  obtain ⟨p, member, same⟩ := List.mem_map.mp (Table.mem_of_find?_ofList held)
  obtain ⟨rfl, rfl⟩ := Prod.mk.inj same
  exact ⟨member, rfl⟩

end Gate

/-- Whether a refusal is that of a gate. -/
def AdmissionError.isOfGate : AdmissionError → Bool
  | unknownGate _ | gateRetryLater .. | gateNotYet .. => true
  | _ => false

/-- The verdict that an answer at a gate tells: the one that it was refused for, or else
that the gate was open. There is none for a gate that nobody has heard of. -/
def Gate.ruling? : Except AdmissionError Admitted → Option Verdict
  | .error (.unknownGate _) => none
  | .error (.gateRetryLater ..) => some .denyRetryable
  | .error (.gateNotYet ..) => some .denyNotYet
  | _ => some .allow

theorem Gate.ruling?_eq_allow {answer : Except AdmissionError Admitted}
    (never : ∀ error, error.isOfGate = true → answer ≠ .error error) :
    ruling? answer = some .allow := by
  cases answer with
  | ok a => rfl
  | error error =>
    cases error with
    | unknownGate | gateRetryLater | gateNotYet => exact absurd rfl (never _ rfl)
    | unknownTemplate | notPartyLeader | instancesFull | capacityExceeded | invalidLifetime
      | internal => rfl

/-- Admission never refuses as gates do. -/
theorem Refused.not_of_gate {r : Registry} {now : Instant} {request : Request}
    {error : AdmissionError} (refused : Refused r now request error) : error.isOfGate = false := by
  cases refused with
  | barred barred => cases barred <;> rfl
  | full | crowded | excess => rfl

theorem Registry.Keyed.enter_not_of_gate {r : Registry} (keyed : r.Keyed) (now : Instant)
    (fresh : InstanceId) (request : Request) {error : AdmissionError}
    (ofGate : error.isOfGate = true) : (r.enter now fresh request).2 ≠ .error error := by
  intro answer
  rcases keyed.enter_cases now fresh request with ⟨other, refused, why⟩ | ⟨s, a, entry, -⟩
  · rw [refused] at answer
    cases answer
    cases ofGate.symm.trans why.not_of_gate
  · rw [entry] at answer
    cases answer

/-! ## Passing -/

namespace Gate

section Pass

variable {policies : Policies} {source : Source} {r : Registry} {now : Instant} {gate : String}
  {policy : Policy}

theorem pass_of_unknown (unknown : policies.find? gate = none) (fresh : InstanceId)
    (request : Request) :
    pass policies source r now fresh gate request = (r, .error (.unknownGate gate)) := by
  simp only [pass, unknown]

variable (held : policies.find? gate = some policy)

include held

theorem pass_of_closing {label : String} (state : source.state? now gate = some label)
    (closing : policy.decide (some label) = .denyRetryable) (fresh : InstanceId)
    (request : Request) :
    pass policies source r now fresh gate request = (r, .error (.gateRetryLater gate label)) := by
  simp only [pass, held, state, closing, Option.getD_some]

theorem pass_of_not_yet (shut : policy.decide (source.state? now gate) = .denyNotYet)
    (fresh : InstanceId) (request : Request) :
    pass policies source r now fresh gate request =
      (r, .error (.gateNotYet gate (source.state? now gate))) := by
  simp only [pass, held, shut]

variable (isOpen : policy.decide (source.state? now gate) = .allow)

include isOpen

theorem pass_of_area {area : AreaId} {spawnPoint : String}
    (leads : policy.destination = .area area spawnPoint) (fresh : InstanceId) (request : Request) :
    pass policies source r now fresh gate request =
      (r, .ok ⟨area, spawnPoint, request.group, none, false⟩) := by
  simp only [pass, held, isOpen, leads]

theorem pass_of_template {template : TemplateId} (leads : policy.destination = .template template)
    (fresh : InstanceId) (request : Request) :
    pass policies source r now fresh gate request =
      r.enter now fresh (request.retarget template) := by
  simp only [pass, held, isOpen, leads]

/-- An open gate refuses nobody by itself. -/
theorem pass_not_of_gate (keyed : r.Keyed) (fresh : InstanceId) (request : Request)
    {error : AdmissionError} (ofGate : error.isOfGate = true) :
    (pass policies source r now fresh gate request).2 ≠ .error error := by
  cases leads : policy.destination with
  | area area spawnPoint =>
    rw [pass_of_area held isOpen leads]
    exact nofun
  | template template =>
    rw [pass_of_template held isOpen leads]
    exact keyed.enter_not_of_gate now fresh _ ofGate

omit isOpen in
/-- What is answered at a gate tells its verdict. -/
theorem ruling?_pass (keyed : r.Keyed) (fresh : InstanceId) (request : Request) :
    ruling? (pass policies source r now fresh gate request).2 =
      some (policy.decide (source.state? now gate)) := by
  cases verdict : policy.decide (source.state? now gate) with
  | allow => exact ruling?_eq_allow fun _ => pass_not_of_gate held verdict keyed fresh request
  | denyRetryable =>
    obtain ⟨label, state⟩ := policy.state_of_retryable verdict
    rw [pass_of_closing held state (state ▸ verdict)]
    rfl
  | denyNotYet =>
    rw [pass_of_not_yet held verdict]
    rfl

end Pass

end Gate

/-- After every run, a gate refines admission. Nobody has heard of a gate that no policy
is held for. A gate that is closing or not open yet refuses everybody, with its state,
and changes nothing; each refusal comes of that verdict alone. An open gate to an area
lets the group through, whoever leads it and whatever lifetime it asks for, and changes
nothing. One into a template does what admission there does, whatever template the
request was for. -/
theorem Run.gates_refine_admission (run : Run) (templates : List Template) (buffer : Nat)
    (policies : List Gate.Policy) (source : Gate.Source) (now : Instant) (fresh : InstanceId)
    (gate : String) (request : Request) :
    let before := run.result templates buffer
    let passing (request : Request) : Entry :=
      Gate.pass (Gate.policiesOf policies) source before now fresh gate request
    let entry := passing request
    let state := source.state? now gate
    (∀ other, entry.2 = .error (.unknownGate other) ↔
        other = gate ∧ ∀ p ∈ policies, p.name ≠ gate) ∧
      ((∀ p ∈ policies, p.name ≠ gate) → entry.1 = before) ∧
      ∀ policy, (Gate.policiesOf policies).find? gate = some policy →
        policy ∈ policies ∧ policy.name = gate ∧ ∃ verdict, policy.Means state verdict ∧
          (∀ other label, entry.2 = .error (.gateRetryLater other label) ↔
            other = gate ∧ state = some label ∧ verdict = .denyRetryable) ∧
          (∀ other label, entry.2 = .error (.gateNotYet other label) ↔
            other = gate ∧ label = state ∧ verdict = .denyNotYet) ∧
          (verdict ≠ .allow → entry.1 = before) ∧
          (verdict = .allow →
            (∀ area spawnPoint, policy.destination = .area area spawnPoint →
              ∀ party lifetimeOverride, passing { request with party, lifetimeOverride } =
                (before, .ok ⟨area, spawnPoint, request.group, none, false⟩)) ∧
            ∀ template, policy.destination = .template template → ∀ other,
              passing { request with template := other } =
                before.enter now fresh { request with template }) := by
  intro before passing entry state
  have keyed : before.Keyed := run.keyed templates buffer
  rw [← Gate.find?_policiesOf_eq_none_iff]
  cases found : (Gate.policiesOf policies).find? gate with
  | none =>
    have refused : entry = _ := Gate.pass_of_unknown found fresh request
    refine ⟨fun other => ?_, fun _ => congrArg Prod.fst refused, nofun⟩
    simp [refused, eq_comm]
  | some policy =>
    have ruled : Gate.ruling? entry.2 = _ := Gate.ruling?_pass found keyed fresh request
    have known (other : String) : entry.2 ≠ .error (.unknownGate other) := by
      intro unknown
      rw [unknown] at ruled
      cases ruled
    refine ⟨fun other => ⟨fun unknown => absurd unknown (known other), nofun⟩, nofun,
      fun policy' same => ?_⟩
    cases same
    obtain ⟨member, name⟩ := Gate.mem_of_find?_policiesOf found
    refine ⟨member, name, policy.decide state, policy.means_decide state, ?_⟩
    cases verdict : policy.decide state with
    | allow =>
      have never {error : AdmissionError} (ofGate : error.isOfGate = true) :
          entry.2 ≠ .error error := Gate.pass_not_of_gate found verdict keyed fresh request ofGate
      refine ⟨fun other label => ⟨fun refused => absurd refused (never rfl), nofun⟩,
        fun other label => ⟨fun refused => absurd refused (never rfl), nofun⟩, nofun,
        fun _ => ⟨?_, ?_⟩⟩
      · intro area spawnPoint leads party lifetimeOverride
        exact Gate.pass_of_area found verdict leads fresh _
      · intro template leads other
        exact Gate.pass_of_template found verdict leads fresh _
    | denyRetryable =>
      obtain ⟨label, closing⟩ := policy.state_of_retryable verdict
      have refused : entry = _ :=
        Gate.pass_of_closing found closing (closing ▸ verdict) fresh request
      rw [refused, closing]
      simp [eq_comm]
    | denyNotYet =>
      have refused : entry = _ := Gate.pass_of_not_yet found verdict fresh request
      rw [refused]
      simp [eq_comm, state]

/-- Who asks for the inn at the ferry, while that is open, is admitted as if it had been
the harbour, where somebody is already. -/
theorem Run.ferry_leads_to_the_harbour :
    let harbour := Template.pooled "harbour" 100 "pier" 4 (.ofSeconds 3600)
    let inn := Template.pooled "inn" 200 "door" 4 (.ofSeconds 3600)
    let ferry := (Gate.Policy.toTemplate "ferry" "harbour").allowing "OPEN"
    let source := Gate.Source.board (Gate.Board.empty.set "ferry" "OPEN")
    let run : Run := [(.epoch, .enter (.ofNat 1) (.new 1 900 "harbour"))]
    let before := run.result [harbour, inn] 16
    (Gate.policiesOf [ferry]).find? "ferry" = some ferry ∧
      Gate.pass (Gate.policiesOf [ferry]) source before .epoch (.ofNat 2) "ferry"
          (.new 2 900 "inn") =
        before.enter .epoch (.ofNat 2) (.new 2 900 "harbour") := by
  intro harbour inn ferry source run before
  have held : (Gate.policiesOf [ferry]).find? "ferry" = some ferry := by decide
  obtain ⟨-, -, each⟩ := gates_refine_admission run [harbour, inn] 16 [ferry] source .epoch
    (.ofNat 2) "ferry" (.new 2 900 "harbour")
  obtain ⟨-, -, verdict, meant, -, -, -, onward⟩ := each ferry held
  obtain rfl : Gate.Verdict.allow = verdict := Gate.Policy.decide_eq_iff.mpr meant
  exact ⟨held, (onward rfl).2 "harbour" rfl "inn"⟩

end InstancedAreas
