import InstancedAreas.Instance
import InstancedAreas.Instant.Rfc3339

/-! The JSON form of instances, and of the ids and times inside them. -/
namespace InstancedAreas

/-- The JSON form of an instant is its RFC 3339 text. -/
def Instant.toJson (t : Instant) : Json := .text t.rfc3339

/-- The instant that a JSON text names. -/
def Instant.ofJson? (json : Json) : Option Instant := json.text?.bind ofRfc3339?

/-- The JSON form of an id is its UUID text. -/
def InstanceId.toJson (id : InstanceId) : Json := .text id.text

/-- The id that a JSON text spells. -/
def InstanceId.ofJson? (json : Json) : Option InstanceId := json.text?.bind ofText?

/-- The JSON form of an area. -/
def areaJson (area : AreaId) : Json := .nat area.toNat

/-- The JSON form of a player. -/
def playerJson (player : PlayerId) : Json := .nat player.toNat

namespace Instance

/-- The JSON form of an instance. -/
def toJson (i : Instance) : Json :=
  .object [("id", i.id.toJson), ("template", .text i.template), ("key", i.key.toJson),
    ("created_at", i.createdAt.toJson), ("expires_at", i.expiresAt.toJson),
    ("origin_area", areaJson i.originArea),
    ("occupants", .list (i.occupants.players.map playerJson))]

/-- The instance that a JSON object describes. -/
def ofJson? (json : Json) : Option Instance := do
  let fields ← json.fields?
  let id ← Json.required? fields "id" InstanceId.ofJson?
  let template ← Json.required? fields "template" Json.text?
  let key ← Json.required? fields "key" InstanceKey.ofJson?
  let createdAt ← Json.required? fields "created_at" Instant.ofJson?
  let expiresAt ← Json.required? fields "expires_at" Instant.ofJson?
  let originArea ← Json.required? fields "origin_area" Json.uint32?
  let players ← Json.required? fields "occupants" (Json.listOf? Json.uint64?)
  some { id, template, key, createdAt, expiresAt, originArea, occupants := .ofList players }

end Instance

end InstancedAreas
