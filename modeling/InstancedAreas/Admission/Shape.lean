import InstancedAreas.Admission
import InstancedAreas.Instance.Shape
import InstancedAreas.Template.Shape

/-! The JSON form of requests, handles and granted requests. -/
namespace InstancedAreas

/-- The JSON form of a party context. -/
def PartyContext.toJson (context : PartyContext) : Json :=
  .object [("party_id", .nat context.party.toNat), ("is_leader", .bool context.isLeader)]

/-- The party context that a JSON object describes. -/
def PartyContext.ofJson? (json : Json) : Option PartyContext := do
  let fields ← json.fields?
  let party ← Json.required? fields "party_id" Json.uint64?
  let isLeader ← Json.required? fields "is_leader" Json.bool?
  some { party, isLeader }

/-- The JSON form of a request. -/
def Request.toJson (r : Request) : Json :=
  .object [("player", playerJson r.player), ("current_area", areaJson r.currentArea),
    ("party", Json.orNull PartyContext.toJson r.party), ("template", .text r.template),
    ("origin_override", Json.orNull areaJson r.originOverride),
    ("lifetime_override", Json.orNull Duration.toJson r.lifetimeOverride),
    ("companions", .list (r.companions.map playerJson))]

/-- The request that a JSON object describes. -/
def Request.ofJson? (json : Json) : Option Request := do
  let fields ← json.fields?
  let player ← Json.required? fields "player" Json.uint64?
  let currentArea ← Json.required? fields "current_area" Json.uint32?
  let party ← Json.nullable? fields "party" PartyContext.ofJson?
  let template ← Json.required? fields "template" Json.text?
  let originOverride ← Json.nullable? fields "origin_override" Json.uint32?
  let lifetimeOverride ← Json.nullable? fields "lifetime_override" Duration.ofJson?
  let companions ← Json.optional? fields "companions" (Json.listOf? Json.uint64?) []
  some { player, currentArea, party, template, originOverride, lifetimeOverride, companions }

/-- The JSON form of a handle. -/
def Handle.toJson (handle : Handle) : Json :=
  .object [("template", .text handle.template), ("key", handle.key.toJson),
    ("instance_id", handle.instanceId.toJson)]

/-- The JSON form of a granted request. -/
def Admitted.toJson (a : Admitted) : Json :=
  .object [("destination", areaJson a.destination), ("spawn_point", .text a.spawnPoint),
    ("admitted", .list (a.admitted.map playerJson)),
    ("record", Json.orNull Instance.toJson a.instance?), ("created", .bool a.created)]

/-- The granted request that a JSON object describes. -/
def Admitted.ofJson? (json : Json) : Option Admitted := do
  let fields ← json.fields?
  let destination ← Json.required? fields "destination" Json.uint32?
  let spawnPoint ← Json.required? fields "spawn_point" Json.text?
  let admitted ← Json.required? fields "admitted" (Json.listOf? Json.uint64?)
  let instance? ← Json.nullable? fields "record" Instance.ofJson?
  let created ← Json.required? fields "created" Json.bool?
  some { destination, spawnPoint, admitted, instance?, created }

end InstancedAreas
