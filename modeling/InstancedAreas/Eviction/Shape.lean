import InstancedAreas.Eviction
import InstancedAreas.Instance.Shape

/-! The JSON form of eviction notices. -/
namespace InstancedAreas.Eviction

/-- The JSON form of a notice. -/
def toJson (notice : Eviction) : Json :=
  .object [("instance_id", notice.instanceId.toJson), ("template", .text notice.template),
    ("player", playerJson notice.player), ("origin_area", areaJson notice.originArea)]

/-- The notice that a JSON object describes. -/
def ofJson? (json : Json) : Option Eviction := do
  let fields ← json.fields?
  let instanceId ← Json.required? fields "instance_id" InstanceId.ofJson?
  let template ← Json.required? fields "template" Json.text?
  let player ← Json.required? fields "player" Json.uint64?
  let originArea ← Json.required? fields "origin_area" Json.uint32?
  some { instanceId, template, player, originArea }

end InstancedAreas.Eviction
