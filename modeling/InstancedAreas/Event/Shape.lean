import InstancedAreas.Event
import InstancedAreas.Instance.Shape

/-! The JSON form of lifecycle events. What happened is named by the field
`type`, whose value decides which further fields there are. Names in those
fields are read loosely. -/
namespace InstancedAreas

namespace ReleaseReason

/-- The word for a reason. -/
def word : ReleaseReason → String
  | expired => "expired"
  | emptied => "emptied"
  | manual => "manual"

/-- The reason with a word. -/
def ofWord? : String → Option ReleaseReason
  | "expired" => some expired
  | "emptied" => some emptied
  | "manual" => some manual
  | _ => none

/-- The reason that a JSON value names. -/
def ofJson? (json : Json) : Option ReleaseReason := json.name?.bind ofWord?

/-- The reason that a JSON value within an event names. -/
def ofEventJson? (json : Json) : Option ReleaseReason := json.looseName?.bind ofWord?

end ReleaseReason

namespace Event

/-- The fields of what happened. -/
def Kind.toFields : Kind → List (String × Json)
  | created destination expiresAt =>
    [("destination", areaJson destination), ("expires_at", expiresAt.toJson)]
  | admitted players => [("players", .list (players.map playerJson))]
  | evicted player originArea =>
    [("player", playerJson player), ("origin_area", areaJson originArea)]
  | released reason => [("reason", .text reason.word)]

/-- What the fields of an object say has happened. -/
def Kind.ofFields? (fields : List (String × Json)) : Option Kind := do
  match ← Json.required? fields "type" Json.text? with
  | "instance_created" => do
    let destination ← Json.required? fields "destination" Json.uint32?
    let expiresAt ← Json.required? fields "expires_at" Instant.ofJson?
    some (created destination expiresAt)
  | "occupants_admitted" =>
    (Json.required? fields "players" (Json.listOf? Json.uint64?)).map admitted
  | "occupant_evicted" => do
    let player ← Json.required? fields "player" Json.uint64?
    let originArea ← Json.required? fields "origin_area" Json.uint32?
    some (evicted player originArea)
  | "instance_released" =>
    (Json.required? fields "reason" ReleaseReason.ofEventJson?).map released
  | _ => none

/-- The JSON form of an event. -/
def toJson (event : Event) : Json :=
  .object <|
    [("type", .text event.kind.word), ("instance_id", event.instanceId.toJson),
      ("template", .text event.template), ("key", event.key.toJson)] ++
    event.kind.toFields ++
    [("timestamp", event.timestamp.toJson)]

/-- The event that a JSON object describes. -/
def ofJson? (json : Json) : Option Event := do
  let fields ← json.fields?
  let kind ← Kind.ofFields? fields
  let instanceId ← Json.required? fields "instance_id" InstanceId.ofJson?
  let template ← Json.required? fields "template" Json.text?
  let key ← Json.required? fields "key" InstanceKey.ofEventJson?
  let timestamp ← Json.required? fields "timestamp" Instant.ofJson?
  some { instanceId, template, key, timestamp, kind }

end Event

end InstancedAreas
