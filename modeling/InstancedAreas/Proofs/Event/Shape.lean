import InstancedAreas.Admission.Shape
import InstancedAreas.Event.Shape
import InstancedAreas.Eviction.Shape
import InstancedAreas.Instance.Occupants.Lemmas
import InstancedAreas.Proofs.Instance.Id
import InstancedAreas.Proofs.Instant.Rfc3339
import InstancedAreas.Proofs.Json.Shape

/-! The forms of what a service tells its callers: events, instances, granted requests
and eviction notices. Times and ids are written as text, keys and kinds of events with a
field that names them, and occupants as a list; an event reads the names inside it more
loosely, which changes nothing for what is written. All of these forms are faithful. -/
namespace InstancedAreas

open Text (bind_eq)
open Json (Faithful faithful_text faithful_bool faithful_uint32 faithful_uint64)

theorem Instant.faithful : Faithful Instant.toJson Instant.ofJson? where
  restored t := bind_eq rfl (ofRfc3339?_rfc3339 t)
  plain _ := .text _
  present _ := nofun

theorem InstanceId.faithful : Faithful InstanceId.toJson InstanceId.ofJson? where
  restored id := bind_eq rfl (ofText?_text id)
  plain _ := .text _
  present _ := nofun

namespace InstanceKey

/-- A key is read with every way of reading names that reads texts. -/
theorem ofFields?_toJson {name? : Json → Option String}
    (texts : ∀ name, name? (.text name) = some name) (key : InstanceKey) :
    key.toJson.fields?.bind (ofFields? name?) = some key := by
  refine bind_eq rfl (bind_eq (texts key.word) ?_)
  cases key with
  | party id => exact Option.map_eq_some_iff.mpr ⟨id, faithful_uint64.required rfl, rfl⟩
  | solo player => exact Option.map_eq_some_iff.mpr ⟨player, faithful_uint64.required rfl, rfl⟩
  | slot index => exact Option.map_eq_some_iff.mpr ⟨index, faithful_uint32.required rfl, rfl⟩

theorem plain (key : InstanceKey) : key.toJson.Plain :=
  have fields : Json.PlainFields ["type", "id"] _ :=
    .field (.text key.word) (.field (.nat key.number) .nil)
  fields.object (by decide)

theorem faithful : Faithful toJson ofJson? := ⟨ofFields?_toJson fun _ => rfl, plain, nofun⟩

theorem faithful_inEvents : Faithful toJson ofEventJson? :=
  ⟨ofFields?_toJson fun _ => rfl, plain, nofun⟩

end InstanceKey

/-- The set of the players of a set is the set. -/
theorem Occupants.ofList_players (o : Occupants) : ofList o.players = o :=
  ext_contains fun player => by
    rw [ofList, contains_insertAll, contains_empty, Bool.or_false, contains]

theorem Instance.faithful : Faithful toJson ofJson? where
  restored i := by
    simp only [ofJson?, toJson, Option.bind_eq_bind]
    refine bind_eq rfl ?_
    refine bind_eq (InstanceId.faithful.required rfl) ?_
    refine bind_eq (faithful_text.required rfl) ?_
    refine bind_eq (InstanceKey.faithful.required rfl) ?_
    refine bind_eq (Instant.faithful.required rfl) ?_
    refine bind_eq (Instant.faithful.required rfl) ?_
    refine bind_eq (faithful_uint32.required rfl) ?_
    refine bind_eq (faithful_uint64.list.required rfl) ?_
    rw [Occupants.ofList_players]
  plain i :=
    have fields : Json.PlainFields ["id", "template", "key", "created_at", "expires_at",
        "origin_area", "occupants"] _ :=
      .field (InstanceId.faithful.plain i.id) (.field (.text i.template)
        (.field i.key.plain (.field (Instant.faithful.plain i.createdAt)
          (.field (Instant.faithful.plain i.expiresAt) (.field (.nat i.originArea.toNat)
            (.field (faithful_uint64.list.plain i.occupants.players) .nil))))))
    fields.object (by decide)
  present _ := nofun

theorem Admitted.faithful : Faithful Admitted.toJson Admitted.ofJson? where
  restored granted := by
    simp only [ofJson?, toJson, Option.bind_eq_bind]
    refine bind_eq rfl ?_
    refine bind_eq (faithful_uint32.required rfl) ?_
    refine bind_eq (faithful_text.required rfl) ?_
    refine bind_eq (faithful_uint64.list.required rfl) ?_
    refine bind_eq (Instance.faithful.nullable (.inl rfl)) ?_
    refine bind_eq (faithful_bool.required rfl) ?_
    rfl
  plain granted :=
    have fields : Json.PlainFields ["destination", "spawn_point", "admitted", "record",
        "created"] _ :=
      .field (.nat granted.destination.toNat) (.field (.text granted.spawnPoint)
        (.field (faithful_uint64.list.plain granted.admitted)
          (.field (Instance.faithful.plain_orNull granted.instance?)
            (.field (.bool granted.created) .nil))))
    fields.object (by decide)
  present _ := nofun

theorem Eviction.faithful : Faithful Eviction.toJson Eviction.ofJson? where
  restored notice := by
    simp only [ofJson?, toJson, Option.bind_eq_bind]
    refine bind_eq rfl ?_
    refine bind_eq (InstanceId.faithful.required rfl) ?_
    refine bind_eq (faithful_text.required rfl) ?_
    refine bind_eq (faithful_uint64.required rfl) ?_
    refine bind_eq (faithful_uint32.required rfl) ?_
    rfl
  plain notice :=
    have fields : Json.PlainFields ["instance_id", "template", "player", "origin_area"] _ :=
      .field (InstanceId.faithful.plain notice.instanceId) (.field (.text notice.template)
        (.field (.nat notice.player.toNat) (.field (.nat notice.originArea.toNat) .nil)))
    fields.object (by decide)
  present _ := nofun

/-- Within an event, a reason is read from its word. -/
theorem ReleaseReason.faithful : Faithful (fun reason => .text (word reason)) ofEventJson? where
  restored reason := by cases reason <;> rfl
  plain _ := .text _
  present _ := nofun

namespace Event

namespace Kind

/-- The names of the fields of kinds of events, in their order. -/
def fieldNames : List String :=
  ["destination", "expires_at", "players", "player", "origin_area", "reason"]

theorem plain_toFields (kind : Kind) : Json.PlainFields fieldNames kind.toFields := by
  cases kind with
  | created destination expiresAt =>
    exact .field (.nat destination.toNat) (.field (Instant.faithful.plain expiresAt) (.empty _))
  | admitted players =>
    exact .without (.without (.field (faithful_uint64.list.plain players) (.empty _)))
  | evicted player originArea =>
    exact .without (.without (.without (.field (.nat player.toNat)
      (.field (.nat originArea.toNat) (.empty _)))))
  | released reason =>
    exact .without (.without (.without (.without (.without (.field (.text reason.word) .nil)))))

/-- What happened is read from its word and its own fields, wherever they stand. -/
theorem ofFields?_of_lookup {kind : Kind} {fields : List (String × Json)}
    (word : fields.lookup "type" = some (.text kind.word))
    (found : ∀ name ∈ fieldNames, fields.lookup name = kind.toFields.lookup name) :
    ofFields? fields = some kind := by
  refine bind_eq (faithful_text.required word) ?_
  cases kind with
  | created destination expiresAt =>
    refine bind_eq (faithful_uint32.required (found "destination" (by decide))) ?_
    refine bind_eq (Instant.faithful.required (found "expires_at" (by decide))) ?_
    rfl
  | admitted players =>
    exact Option.map_eq_some_iff.mpr
      ⟨players, faithful_uint64.list.required (found "players" (by decide)), rfl⟩
  | evicted player originArea =>
    refine bind_eq (faithful_uint64.required (found "player" (by decide))) ?_
    refine bind_eq (faithful_uint32.required (found "origin_area" (by decide))) ?_
    rfl
  | released reason =>
    exact Option.map_eq_some_iff.mpr
      ⟨reason, ReleaseReason.faithful.required (found "reason" (by decide)), rfl⟩

end Kind

theorem faithful : Faithful toJson ofJson? where
  restored event := by
    simp only [ofJson?, toJson, Option.bind_eq_bind]
    refine bind_eq rfl ?_
    refine bind_eq (a := event.kind) (Kind.ofFields?_of_lookup rfl ?_) ?_
    · simp [Kind.fieldNames, List.lookup_append, List.lookup_cons]
    refine bind_eq (InstanceId.faithful.required rfl) ?_
    refine bind_eq (faithful_text.required rfl) ?_
    refine bind_eq (InstanceKey.faithful_inEvents.required rfl) ?_
    refine bind_eq (a := event.timestamp) (Instant.faithful.required ?_) ?_
    · have behind : event.kind.toFields.lookup "timestamp" = none :=
        event.kind.plain_toFields.lookup_eq_none (by decide)
      simp [behind, List.lookup_append, List.lookup_cons]
    rfl
  plain event := by
    have front : Json.PlainFields ["type", "instance_id", "template", "key"] _ :=
      .field (.text event.kind.word) (.field (InstanceId.faithful.plain event.instanceId)
        (.field (.text event.template) (.field event.key.plain .nil)))
    have timestamp : Json.PlainFields ["timestamp"] _ :=
      .field (Instant.faithful.plain event.timestamp) .nil
    exact ((front.append event.kind.plain_toFields).append timestamp).object (by decide)
  present _ := nofun

end Event

/-- Whatever keys, players and occupants they have and whenever they happened, events,
instances, granted requests and eviction notices survive writing and reading. The text
of every moment of the calendar names just that moment. -/
theorem runtime_values_survive_writing_and_reading :
    (∀ t : Instant, Instant.ofRfc3339? t.rfc3339 = some t) ∧
      Json.Survives Event.toJson Event.ofJson? ∧
      Json.Survives Instance.toJson Instance.ofJson? ∧
      Json.Survives Admitted.toJson Admitted.ofJson? ∧
      Json.Survives Eviction.toJson Eviction.ofJson? :=
  ⟨Instant.ofRfc3339?_rfc3339, Event.faithful.survives, Instance.faithful.survives,
    Admitted.faithful.survives, Eviction.faithful.survives⟩

end InstancedAreas
