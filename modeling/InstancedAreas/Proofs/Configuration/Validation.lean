import InstancedAreas.Configuration

/-! What validation accepts. The rules are stated apart from the checks: what is
asked of a template and of a gate by itself, and that no id and no name is used
twice. A configuration passes exactly if it keeps them, so that whatever is read
off the rules holds of every configuration that a service is built from. -/
namespace InstancedAreas

/-- An instance has a place for somebody, and where the slots are bounded, a slot
takes no more than there are slots. -/
def Template.Kind.Legal : Template.Kind → Prop
  | .exclusive most => most ≠ some 0
  | .pooled capacity perSlot => perSlot ≠ 0 ∧ (0 < capacity → perSlot ≤ capacity)

/-- What is asked of a template by itself. -/
structure Template.Legal (t : Template) : Prop where
  named : Text.blank t.id = false
  lasting : t.lifetime.isZero = false
  finite : t.lifetime.nanos ≤ Instant.furthestNanos
  kind : t.kind.Legal

/-- An instance of a legal template has a place for somebody. -/
theorem Template.Legal.limit_ne_zero {t : Template} (legal : t.Legal) :
    t.occupantLimit ≠ some 0 := by
  have kind := legal.kind
  cases same : t.kind with
  | exclusive most => simpa [occupantLimit, same, Kind.Legal] using kind
  | pooled capacity perSlot =>
    rw [same] at kind
    simpa [occupantLimit, same] using kind.1

namespace Gate

/-- The name says something, and no state is both open and closing. -/
structure Policy.Legal (p : Policy) : Prop where
  named : Text.blank p.name = false
  decided : ∀ state ∈ p.allow, state ∉ p.retry

/-- The templates that a destination needs are among those with some ids. -/
def Destination.Within (templates : List TemplateId) : Destination → Prop
  | area .. => True
  | template id => id ∈ templates

/-- Only which ids there are matters. -/
theorem Destination.within_congr {left right : List TemplateId}
    (same : ∀ id, id ∈ left ↔ id ∈ right) {destination : Destination} :
    destination.Within left ↔ destination.Within right := by
  cases destination with
  | area => exact Iff.rfl
  | template id => exact same id

/-- What is asked of a configured gate among templates: it makes a legal policy, and
leads to where something is. -/
structure Setting.Legal (templates : List TemplateId) (gate : Setting) : Prop where
  named : Text.blank gate.name = false
  decided : ∀ state ∈ gate.allow, state ∉ gate.retry
  leads : ∃ policy, gate.policy = .ok policy ∧ policy.destination.Within templates

/-- The policy of a gate has the gate's name and states. -/
theorem Setting.of_policy {gate : Setting} {policy : Policy} (made : gate.policy = .ok policy) :
    policy.name = gate.name ∧ policy.allow = gate.allow ∧ policy.retry = gate.retry := by
  unfold Setting.policy at made
  split at made <;> cases made <;> exact ⟨rfl, rfl, rfl⟩

/-- The policy of a legal gate is legal. -/
theorem Setting.Legal.policy {templates : List TemplateId} {gate : Setting} {policy : Policy}
    (legal : gate.Legal templates) (made : gate.policy = .ok policy) :
    policy.Legal ∧ policy.destination.Within templates := by
  obtain ⟨name, allow, retry⟩ := Setting.of_policy made
  obtain ⟨other, same, within⟩ := legal.leads
  cases made.symm.trans same
  refine ⟨⟨?_, ?_⟩, within⟩
  · rw [name]
    exact legal.named
  · rw [allow, retry]
    exact legal.decided

end Gate

/-! ### The rules in full -/

/-- A text that is not blank has a character that shows. -/
theorem Text.blank_eq_false_iff {text : String} :
    blank text = false ↔ ∃ c ∈ text.toList, isBlank c = false := by
  simp only [blank, List.all_eq_false, Bool.not_eq_true]

theorem Duration.isZero_eq_false_iff {d : Duration} : d.isZero = false ↔ d ≠ .zero := by
  rw [isZero, beq_eq_false_iff_ne]
  refine not_congr ⟨fun same => ?_, fun same => congrArg nanos same⟩
  cases d
  cases same
  rfl

theorem Template.legal_iff {t : Template} :
    t.Legal ↔ (∃ c ∈ t.id.toList, Text.isBlank c = false) ∧ t.lifetime ≠ .zero ∧
      (t.lifetime.nanos : Int) ≤ Int64.maxValue.toInt * 1000000 ∧
      (∀ most, t.kind = .exclusive most → most ≠ some 0) ∧
      ∀ capacity perSlot, t.kind = .pooled capacity perSlot →
        perSlot ≠ 0 ∧ (0 < capacity → perSlot ≤ capacity) := by
  have finite : (t.lifetime.nanos : Int) ≤ Int64.maxValue.toInt * 1000000 ↔
      t.lifetime.nanos ≤ Instant.furthestNanos := Int.ofNat_le
  have kind : t.kind.Legal ↔ (∀ most, t.kind = .exclusive most → most ≠ some 0) ∧
      ∀ capacity perSlot, t.kind = .pooled capacity perSlot →
        perSlot ≠ 0 ∧ (0 < capacity → perSlot ≤ capacity) := by
    cases t.kind <;> simp [Kind.Legal]
  rw [← Text.blank_eq_false_iff, ← Duration.isZero_eq_false_iff, finite, ← kind]
  exact ⟨fun legal => ⟨legal.named, legal.lasting, legal.finite, legal.kind⟩,
    fun ⟨named, lasting, finite, kind⟩ => ⟨named, lasting, finite, kind⟩⟩

/-- A gate leads to where something is exactly if it names an area and no template, with a
spawn point or without, or one of the templates and nothing else. -/
theorem Gate.Setting.leads_iff {templates : List TemplateId} {gate : Setting} :
    (∃ policy, gate.policy = .ok policy ∧ policy.destination.Within templates) ↔
      gate.template = none ∧ gate.area ≠ none ∨
      ∃ id ∈ templates, gate.template = some id ∧ gate.area = none ∧ gate.spawnPoint = none := by
  cases gate with
  | mk name allow retry template area spawnPoint cycle =>
    cases template <;> cases area <;> cases spawnPoint <;> simp [policy, Destination.Within]

theorem Gate.Setting.legal_iff {templates : List TemplateId} {gate : Setting} :
    gate.Legal templates ↔ (∃ c ∈ gate.name.toList, Text.isBlank c = false) ∧
      (∀ state ∈ gate.allow, state ∉ gate.retry) ∧
      (gate.template = none ∧ gate.area ≠ none ∨
        ∃ id ∈ templates,
          gate.template = some id ∧ gate.area = none ∧ gate.spawnPoint = none) := by
  rw [← Text.blank_eq_false_iff, ← leads_iff]
  exact ⟨fun legal => ⟨legal.named, legal.decided, legal.leads⟩,
    fun ⟨named, decided, leads⟩ => ⟨named, decided, leads⟩⟩

namespace Configuration

/-- Where names are used once, what is found under the name of a member is that
member. -/
theorem find?_of_nodup {α β : Type} [DecidableEq β] {name : α → β} {members : List α}
    (once : (members.map name).Nodup) {a : α} (member : a ∈ members) :
    members.find? (name · = name a) = some a := by
  induction members with
  | nil => cases member
  | cons first rest ih =>
    obtain ⟨apart, others⟩ := List.nodup_cons.mp once
    rcases List.mem_cons.mp member with rfl | inside
    · simp
    · have differs : name first ≠ name a := fun same =>
        apart (same ▸ List.mem_map_of_mem inside)
      rw [List.find?_cons_of_neg (by simpa using differs)]
      exact ih others inside

/-- The rules of configurations. -/
structure Legal (config : Configuration) : Prop where
  ticking : config.expiry.tick.isZero = false
  patient : config.expiry.notifyTimeout.isZero = false
  templates : ∀ t ∈ config.templates, t.Legal
  ids : (config.templates.map Template.id).Nodup
  gates : ∀ gate ∈ config.gates, gate.Legal (config.templates.map Template.id)
  names : (config.gates.map Gate.Setting.name).Nodup

/-- Checking a template by itself accepts exactly the legal ones. -/
theorem checkTemplate_eq_ok_iff {t : Template} : checkTemplate t = .ok () ↔ t.Legal := by
  unfold checkTemplate
  split
  · rename_i blank
    exact ⟨nofun, fun legal => absurd blank (by simp [legal.named])⟩
  · rename_i named
    split
    · rename_i endless
      exact ⟨nofun, fun legal => absurd endless (by simp [legal.lasting])⟩
    · rename_i lasting
      split
      · rename_i beyond
        exact ⟨nofun, fun legal => absurd beyond (Nat.not_lt.mpr legal.finite)⟩
      · rename_i finite
        have rules : t.Legal ↔ t.kind.Legal := ⟨Template.Legal.kind, fun kind =>
          ⟨by simpa using named, by simpa using lasting, Nat.not_lt.mp finite, kind⟩⟩
        rw [rules]
        cases t.kind with
        | exclusive most => by_cases nobody : most = some 0 <;> simp [nobody, Template.Kind.Legal]
        | pooled capacity perSlot =>
          by_cases nobody : perSlot = 0
          · simp [nobody, Template.Kind.Legal]
          · by_cases crowded : 0 < capacity ∧ capacity < perSlot <;>
              simp_all [Template.Kind.Legal, UInt32.not_lt]

/-- Checking templates in order accepts exactly legal ones whose ids are used once. -/
theorem checkTemplates_eq_ok_iff {earlier : List TemplateId} {templates : List Template}
    (once : earlier.Nodup) :
    checkTemplates earlier templates = .ok () ↔
      (∀ t ∈ templates, t.Legal) ∧ (templates.map Template.id ++ earlier).Nodup := by
  induction templates generalizing earlier with
  | nil => simpa [checkTemplates] using once
  | cons t rest ih =>
    have turn : ((t :: rest).map Template.id ++ earlier).Nodup ↔
        (rest.map Template.id ++ t.id :: earlier).Nodup := List.perm_middle.symm.nodup_iff
    rw [List.forall_mem_cons, turn, ← checkTemplate_eq_ok_iff]
    cases checked : checkTemplate t with
    | error problem => simp [checkTemplates, checked]
    | ok _ =>
      by_cases used : t.id ∈ earlier
      · simp [checkTemplates, checked, used, List.nodup_append]
      · rw [checkTemplates, checked]
        simpa [used] using ih (List.nodup_cons.mpr ⟨used, once⟩)

/-- Checking a gate accepts exactly legal ones whose name is new. -/
theorem checkGate_eq_ok_iff {templates : List TemplateId} {earlier : List String}
    {gate : Gate.Setting} :
    checkGate templates earlier gate = .ok () ↔ gate.Legal templates ∧ gate.name ∉ earlier := by
  have decided : gate.allow.find? gate.retry.contains = none ↔
      ∀ state ∈ gate.allow, state ∉ gate.retry := by simp
  unfold checkGate
  split
  · rename_i blank
    exact ⟨nofun, fun accepted => absurd blank (by simp [accepted.1.named])⟩
  · rename_i named
    split
    · rename_i used
      exact ⟨nofun, fun accepted => absurd used (by simpa using accepted.2)⟩
    · rename_i new
      split
      · rename_i state found
        exact ⟨nofun, fun accepted => nomatch found.symm.trans (decided.mpr accepted.1.decided)⟩
      · rename_i apart
        have rules : gate.Legal templates ∧ gate.name ∉ earlier ↔
            ∃ policy, gate.policy = .ok policy ∧ policy.destination.Within templates :=
          ⟨fun accepted => accepted.1.leads, fun leads =>
            ⟨⟨by simpa using named, decided.mp apart, leads⟩, by simpa using new⟩⟩
        rw [rules]
        cases gate.policy with
        | error problem => simp
        | ok policy => cases same : policy.destination <;> simp [same, Gate.Destination.Within]

/-- Checking gates in order accepts exactly legal ones whose names are used once. -/
theorem checkGates_eq_ok_iff {templates : List TemplateId} {earlier : List String}
    {gates : List Gate.Setting} (once : earlier.Nodup) :
    checkGates templates earlier gates = .ok () ↔
      (∀ gate ∈ gates, gate.Legal templates) ∧
        (gates.map Gate.Setting.name ++ earlier).Nodup := by
  induction gates generalizing earlier with
  | nil => simpa [checkGates] using once
  | cons gate rest ih =>
    have turn : ((gate :: rest).map Gate.Setting.name ++ earlier).Nodup ↔
        (rest.map Gate.Setting.name ++ gate.name :: earlier).Nodup :=
      List.perm_middle.symm.nodup_iff
    rw [List.forall_mem_cons, turn]
    by_cases used : gate.name ∈ earlier
    · have refused : checkGates templates earlier (gate :: rest) ≠ .ok () := by
        cases checked : checkGate templates earlier gate with
        | error problem => simp [checkGates, checked]
        | ok _ => exact absurd used (checkGate_eq_ok_iff.mp checked).2
      simp [refused, used, List.nodup_append]
    · have accepted : gate.Legal templates ↔ checkGate templates earlier gate = .ok () := by
        rw [checkGate_eq_ok_iff, and_iff_left used]
      rw [accepted]
      cases checked : checkGate templates earlier gate with
      | error problem => simp [checkGates, checked]
      | ok _ =>
        rw [checkGates, checked]
        simpa using ih (List.nodup_cons.mpr ⟨used, once⟩)

/-- Validation accepts exactly the configurations that keep the rules. -/
theorem validate_eq_ok_iff {config : Configuration} : config.validate = .ok () ↔ config.Legal := by
  have templates : checkTemplates [] config.templates = .ok () ↔ _ :=
    checkTemplates_eq_ok_iff List.nodup_nil
  have gates : checkGates (config.templates.map Template.id) [] config.gates = .ok () ↔ _ :=
    checkGates_eq_ok_iff List.nodup_nil
  rw [List.append_nil] at templates gates
  unfold validate
  split
  · rename_i endless
    exact ⟨nofun, fun legal => absurd endless (by simp [legal.ticking])⟩
  · rename_i ticking
    split
    · rename_i endless
      exact ⟨nofun, fun legal => absurd endless (by simp [legal.patient])⟩
    · rename_i patient
      split
      · rename_i problem found
        rw [found] at templates
        exact ⟨nofun, fun legal => nomatch templates.mpr ⟨legal.templates, legal.ids⟩⟩
      · rename_i checked
        obtain ⟨each, ids⟩ := templates.mp checked
        rw [gates]
        exact ⟨fun accepted => ⟨by simpa using ticking, by simpa using patient, each, ids,
          accepted.1, accepted.2⟩, fun legal => ⟨legal.gates, legal.names⟩⟩

/-- Validation accepts exactly the configurations in which sweeps have a tick and patience
with relocators; templates have names that show, no two the same, a lifetime that is not zero
and at most 2^63 - 1 milliseconds, and a place for somebody; and gates have names that show,
no two the same, no state that is open as well as closing, and one way to lead: to an area, or
to a configured template and nothing else. -/
theorem accepted_configurations_are_the_legal_ones (config : Configuration) :
    config.validate = .ok () ↔
      config.expiry.tick ≠ .zero ∧ config.expiry.notifyTimeout ≠ .zero ∧
      (∀ t ∈ config.templates, (∃ c ∈ t.id.toList, Text.isBlank c = false) ∧
        t.lifetime ≠ .zero ∧ (t.lifetime.nanos : Int) ≤ Int64.maxValue.toInt * 1000000 ∧
        (∀ most, t.kind = .exclusive most → most ≠ some 0) ∧
        ∀ capacity perSlot, t.kind = .pooled capacity perSlot →
          perSlot ≠ 0 ∧ (0 < capacity → perSlot ≤ capacity)) ∧
      (config.templates.map Template.id).Nodup ∧
      (∀ gate ∈ config.gates, (∃ c ∈ gate.name.toList, Text.isBlank c = false) ∧
        (∀ state ∈ gate.allow, state ∉ gate.retry) ∧
        (gate.template = none ∧ gate.area ≠ none ∨
          ∃ id ∈ config.templates.map Template.id,
            gate.template = some id ∧ gate.area = none ∧ gate.spawnPoint = none)) ∧
      (config.gates.map Gate.Setting.name).Nodup := by
  simp only [← Template.legal_iff, ← Gate.Setting.legal_iff]
  rw [validate_eq_ok_iff, ← Duration.isZero_eq_false_iff, ← Duration.isZero_eq_false_iff]
  exact ⟨fun legal => ⟨legal.ticking, legal.patient, legal.templates, legal.ids, legal.gates,
    legal.names⟩, fun ⟨ticking, patient, templates, ids, gates, names⟩ =>
    ⟨ticking, patient, templates, ids, gates, names⟩⟩

end Configuration

end InstancedAreas
