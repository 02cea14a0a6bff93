import InstancedAreas.Admission.Shape
import InstancedAreas.Configuration.Shape
import InstancedAreas.Proofs.Duration.Human
import InstancedAreas.Proofs.Json.Shape

/-! The forms of configurations, of their parts and of requests. Spans are written as
human text. A template holds the fields of its kind among its own, wherever they stand,
and what a value leaves out is read as its default. All of these forms are faithful. -/
namespace InstancedAreas

open Text (bind_eq)
open Json (Faithful faithful_text faithful_bool faithful_uint32 faithful_uint64)

theorem Duration.faithful : Faithful Duration.toJson Duration.ofJson? where
  restored d := ofHuman?_human d
  plain _ := .text _
  present _ := nofun

theorem ReleasePolicy.faithful : Faithful (fun release => .text (word release)) ofJson? where
  restored release := by cases release <;> rfl
  plain _ := .text _
  present _ := nofun

namespace Template

namespace Kind

/-- The names of the fields of kinds, in their order. -/
def fieldNames : List String := ["kind", "max_occupants", "capacity", "occupants_per_slot"]

theorem plain_toFields (kind : Kind) : Json.PlainFields fieldNames kind.toFields := by
  cases kind with
  | exclusive most =>
    have bound := (faithful_uint32.plain_fieldIfSome "max_occupants" most).append
      (.empty ["capacity", "occupants_per_slot"])
    rw [List.append_nil] at bound
    exact .field (.text _) bound
  | pooled capacity perSlot =>
    exact .field (.text _) (.without (.field (.nat _) (.field (.nat _) .nil)))

/-- A kind is read from its fields wherever they stand. -/
theorem ofFields?_of_lookup {kind : Kind} {fields : List (String × Json)}
    (found : ∀ name ∈ fieldNames, fields.lookup name = kind.toFields.lookup name) :
    ofFields? fields = some kind := by
  cases kind with
  | exclusive most =>
    refine bind_eq (a := true) (bind_eq (found "kind" (by decide)) rfl) ?_
    have bound : fields.lookup "max_occupants" = most.map fun n : UInt32 => .nat n.toNat := by
      rw [found "max_occupants" (by decide)]
      simp [toFields, List.lookup_cons, Json.lookup_fieldIfSome]
    exact Option.map_eq_some_iff.mpr ⟨most, faithful_uint32.nullable (.inr bound), rfl⟩
  | pooled capacity perSlot =>
    refine bind_eq (a := false) (bind_eq (found "kind" (by decide)) rfl) ?_
    refine bind_eq (faithful_uint32.required (found "capacity" (by decide))) ?_
    refine bind_eq (faithful_uint32.optional (found "occupants_per_slot" (by decide)) 1) ?_
    rfl

end Kind

theorem faithful : Faithful toJson ofJson? where
  restored t := by
    simp only [ofJson?, toJson, Option.bind_eq_bind]
    refine bind_eq rfl ?_
    refine bind_eq (faithful_text.required rfl) ?_
    refine bind_eq (faithful_uint32.required rfl) ?_
    refine bind_eq (faithful_text.required rfl) ?_
    refine bind_eq (a := t.kind) (Kind.ofFields?_of_lookup ?_) ?_
    · simp [Kind.fieldNames, List.lookup_append, List.lookup_cons, Json.lookup_fieldIfSome]
    -- The other fields stand behind those of the kind.
    have behind {name : String} (other : name ∉ Kind.fieldNames) :
        t.kind.toFields.lookup name = none :=
      t.kind.plain_toFields.lookup_eq_none other
    refine bind_eq (a := t.lifetime) (Duration.faithful.required ?_) ?_
    · simp [behind, Kind.fieldNames, List.lookup_append, List.lookup_cons]
    refine bind_eq (a := t.returnArea) (faithful_uint32.nullable (.inr ?_)) ?_
    · simp [behind, Kind.fieldNames, List.lookup_append, List.lookup_cons, Json.lookup_fieldIfSome]
    refine bind_eq (a := t.release) (ReleasePolicy.faithful.optional ?_ _) ?_
    · simp [behind, Kind.fieldNames, List.lookup_append, List.lookup_cons, Json.lookup_fieldIfSome]
    rfl
  plain t := by
    have front : Json.PlainFields ["id", "destination", "spawn_point"] _ :=
      .field (.text t.id) (.field (.nat t.destination.toNat) (.field (.text t.spawnPoint) .nil))
    have lifetime : Json.PlainFields ["lifetime"] _ :=
      .field (Duration.faithful.plain t.lifetime) .nil
    have release : Json.PlainFields ["release"] _ :=
      .field (ReleasePolicy.faithful.plain t.release) .nil
    exact ((((front.append t.kind.plain_toFields).append lifetime).append
      (faithful_uint32.plain_fieldIfSome "return_area" t.returnArea)).append release).object
      (by decide)
  present _ := nofun

end Template

namespace Gate

theorem faithful_states : Faithful statesJson (Json.listOf? Json.text?) := faithful_text.list

theorem Phase.faithful : Faithful Phase.toJson Phase.ofJson? where
  restored phase := by
    simp only [ofJson?, toJson, Option.bind_eq_bind]
    refine bind_eq rfl ?_
    refine bind_eq (faithful_text.required rfl) ?_
    refine bind_eq (Duration.faithful.required rfl) ?_
    rfl
  plain phase :=
    have fields : Json.PlainFields ["state", "duration"] _ :=
      .field (.text phase.state) (.field (Duration.faithful.plain phase.duration) .nil)
    fields.object (by decide)
  present _ := nofun

theorem Destination.faithful : Faithful Destination.toJson Destination.ofJson? where
  restored destination := by
    cases destination with
    | area place spawnPoint =>
      simp only [ofJson?, toJson, Option.bind_eq_bind]
      refine bind_eq rfl ?_
      refine bind_eq (faithful_text.required rfl) ?_
      refine bind_eq (faithful_uint32.required rfl) ?_
      refine bind_eq (faithful_text.required rfl) ?_
      rfl
    | template id =>
      simp only [ofJson?, toJson, Option.bind_eq_bind]
      refine bind_eq rfl ?_
      refine bind_eq (faithful_text.required rfl) ?_
      rfl
  plain destination := by
    cases destination with
    | area place spawnPoint =>
      have fields : Json.PlainFields ["type", "area", "spawn_point"] _ :=
        .field (.text "area") (.field (.nat place.toNat) (.field (.text spawnPoint) .nil))
      exact fields.object (by decide)
    | template id =>
      have fields : Json.PlainFields ["type", "template"] _ :=
        .field (.text "template") (.field (.text id) .nil)
      exact fields.object (by decide)
  present destination := by cases destination <;> exact nofun

theorem Policy.faithful : Faithful Policy.toJson Policy.ofJson? where
  restored policy := by
    simp only [ofJson?, toJson, Option.bind_eq_bind]
    refine bind_eq rfl ?_
    refine bind_eq (faithful_text.required rfl) ?_
    refine bind_eq (faithful_states.required rfl) ?_
    refine bind_eq (faithful_states.optional rfl []) ?_
    refine bind_eq (Destination.faithful.required rfl) ?_
    rfl
  plain policy :=
    have fields : Json.PlainFields ["name", "allow", "retry", "destination"] _ :=
      .field (.text policy.name) (.field (faithful_states.plain policy.allow)
        (.field (faithful_states.plain policy.retry)
          (.field (Destination.faithful.plain policy.destination) .nil)))
    fields.object (by decide)
  present _ := nofun

/-- A cycle is read, whose field is left out when there are no phases. -/
theorem Setting.read_cycle (gate : Setting) {fields : List (String × Json)}
    (found : fields.lookup "cycle" =
      (if gate.cycle.isEmpty then [] else [("cycle", .list (gate.cycle.map Phase.toJson))]).lookup
        "cycle") :
    Json.optional? fields "cycle" (Json.listOf? Phase.ofJson?) [] = some gate.cycle := by
  cases cycle : gate.cycle with
  | nil =>
    rw [cycle] at found
    rw [Json.optional?, found]
    rfl
  | cons phase rest =>
    rw [cycle] at found
    exact Phase.faithful.list.optional found []

theorem Setting.faithful : Faithful Setting.toJson Setting.ofJson? where
  restored gate := by
    simp only [ofJson?, toJson, Option.bind_eq_bind]
    refine bind_eq rfl ?_
    refine bind_eq (faithful_text.required rfl) ?_
    refine bind_eq (faithful_states.optional rfl []) ?_
    refine bind_eq (faithful_states.optional rfl []) ?_
    refine bind_eq (a := gate.template) (faithful_text.nullable (.inr ?_)) ?_
    · cases gate.cycle <;> simp [List.lookup_cons, List.lookup_append, Json.lookup_fieldIfSome]
    refine bind_eq (a := gate.area) (faithful_uint32.nullable (.inr ?_)) ?_
    · cases gate.cycle <;> simp [List.lookup_cons, List.lookup_append, Json.lookup_fieldIfSome]
    refine bind_eq (a := gate.spawnPoint) (faithful_text.nullable (.inr ?_)) ?_
    · cases gate.cycle <;> simp [List.lookup_cons, List.lookup_append, Json.lookup_fieldIfSome]
    refine bind_eq (a := gate.cycle) (gate.read_cycle ?_) ?_
    · simp [List.lookup_cons, List.lookup_append, Json.lookup_fieldIfSome]
    rfl
  plain gate := by
    have states : Json.PlainFields ["name", "allow", "retry"] _ :=
      .field (.text gate.name) (.field (faithful_states.plain gate.allow)
        (.field (faithful_states.plain gate.retry) .nil))
    have cycle : Json.PlainFields ["cycle"] (if gate.cycle.isEmpty then []
        else [("cycle", .list (gate.cycle.map Phase.toJson))]) := by
      split
      · exact .empty _
      · exact .field (Phase.faithful.list.plain gate.cycle) .nil
    exact ((((states.append (faithful_text.plain_fieldIfSome "template" gate.template)).append
      (faithful_uint32.plain_fieldIfSome "area" gate.area)).append
      (faithful_text.plain_fieldIfSome "spawn_point" gate.spawnPoint)).append cycle).object
      (by decide)
  present _ := nofun

end Gate

theorem PartyContext.faithful : Faithful PartyContext.toJson PartyContext.ofJson? where
  restored context := by
    simp only [ofJson?, toJson, Option.bind_eq_bind]
    refine bind_eq rfl ?_
    refine bind_eq (faithful_uint64.required rfl) ?_
    refine bind_eq (faithful_bool.required rfl) ?_
    rfl
  plain context :=
    have fields : Json.PlainFields ["party_id", "is_leader"] _ :=
      .field (.nat context.party.toNat) (.field (.bool context.isLeader) .nil)
    fields.object (by decide)
  present _ := nofun

theorem Request.faithful : Faithful Request.toJson Request.ofJson? where
  restored request := by
    simp only [ofJson?, toJson, Option.bind_eq_bind]
    refine bind_eq rfl ?_
    refine bind_eq (faithful_uint64.required rfl) ?_
    refine bind_eq (faithful_uint32.required rfl) ?_
    refine bind_eq (PartyContext.faithful.nullable (.inl rfl)) ?_
    refine bind_eq (faithful_text.required rfl) ?_
    refine bind_eq (faithful_uint32.nullable (.inl rfl)) ?_
    refine bind_eq (Duration.faithful.nullable (.inl rfl)) ?_
    refine bind_eq (faithful_uint64.list.optional rfl []) ?_
    rfl
  plain request :=
    have fields : Json.PlainFields ["player", "current_area", "party", "template",
        "origin_override", "lifetime_override", "companions"] _ :=
      .field (.nat request.player.toNat) (.field (.nat request.currentArea.toNat)
        (.field (PartyContext.faithful.plain_orNull request.party)
          (.field (.text request.template)
            (.field (faithful_uint32.plain_orNull request.originOverride)
              (.field (Duration.faithful.plain_orNull request.lifetimeOverride)
                (.field (faithful_uint64.list.plain request.companions) .nil))))))
    fields.object (by decide)
  present _ := nofun

theorem ExpirySettings.faithful : Faithful ExpirySettings.toJson ExpirySettings.ofJson? where
  restored settings := by
    simp only [ofJson?, toJson, Option.bind_eq_bind]
    refine bind_eq rfl ?_
    refine bind_eq (Duration.faithful.optional rfl _) ?_
    refine bind_eq (faithful_uint64.optional rfl _) ?_
    refine bind_eq (Duration.faithful.optional rfl _) ?_
    rfl
  plain settings :=
    have fields : Json.PlainFields ["tick", "event_buffer", "notify_timeout"] _ :=
      .field (Duration.faithful.plain settings.tick) (.field (.nat settings.eventBuffer.toNat)
        (.field (Duration.faithful.plain settings.notifyTimeout) .nil))
    fields.object (by decide)
  present _ := nofun

theorem Configuration.faithful : Faithful Configuration.toJson Configuration.ofJson? where
  restored config := by
    simp only [ofJson?, toJson, Option.bind_eq_bind]
    refine bind_eq rfl ?_
    refine bind_eq (ExpirySettings.faithful.optional rfl _) ?_
    refine bind_eq (Template.faithful.list.optional rfl _) ?_
    refine bind_eq (Gate.Setting.faithful.list.optional rfl _) ?_
    rfl
  plain config :=
    have fields : Json.PlainFields ["expiry", "templates", "gates"] _ :=
      .field (ExpirySettings.faithful.plain config.expiry)
        (.field (Template.faithful.list.plain config.templates)
          (.field (Gate.Setting.faithful.list.plain config.gates) .nil))
    fields.object (by decide)
  present _ := nofun

/-- Whatever texts, numbers and spans they are made of, templates, phases, gates,
policies, requests and configurations survive writing and reading. Spans are written as
human text, which spells just the span. -/
theorem configuration_values_survive_writing_and_reading :
    (∀ d : Duration, Duration.ofHuman? d.human = some d) ∧
      Json.Survives Template.toJson Template.ofJson? ∧
      Json.Survives Gate.Phase.toJson Gate.Phase.ofJson? ∧
      Json.Survives Gate.Setting.toJson Gate.Setting.ofJson? ∧
      Json.Survives Gate.Policy.toJson Gate.Policy.ofJson? ∧
      Json.Survives Request.toJson Request.ofJson? ∧
      Json.Survives Configuration.toJson Configuration.ofJson? :=
  ⟨Duration.ofHuman?_human, Template.faithful.survives, Gate.Phase.faithful.survives,
    Gate.Setting.faithful.survives, Gate.Policy.faithful.survives, Request.faithful.survives,
    Configuration.faithful.survives⟩

end InstancedAreas
