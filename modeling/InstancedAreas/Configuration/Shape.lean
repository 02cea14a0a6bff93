import InstancedAreas.Configuration
import InstancedAreas.Gate.Shape
import InstancedAreas.Template.Shape

/-! The JSON form of configurations, which is also the form of the tables that
are read from a configuration file. -/
namespace InstancedAreas

/-- The JSON form of a configured gate. -/
def Gate.Setting.toJson (setting : Gate.Setting) : Json :=
  .object <|
    [("name", .text setting.name), ("allow", statesJson setting.allow),
      ("retry", statesJson setting.retry)] ++
    Json.fieldIfSome "template" Json.text setting.template ++
    Json.fieldIfSome "area" (fun area : AreaId => .nat area.toNat) setting.area ++
    Json.fieldIfSome "spawn_point" Json.text setting.spawnPoint ++
    (if setting.cycle.isEmpty then []
      else [("cycle", .list (setting.cycle.map Phase.toJson))])

/-- The configured gate that a JSON object describes. -/
def Gate.Setting.ofJson? (json : Json) : Option Gate.Setting := do
  let fields ← json.fields?
  let name ← Json.required? fields "name" Json.text?
  let allow ← Json.optional? fields "allow" (Json.listOf? Json.text?) []
  let retry ← Json.optional? fields "retry" (Json.listOf? Json.text?) []
  let template ← Json.nullable? fields "template" Json.text?
  let area ← Json.nullable? fields "area" Json.uint32?
  let spawnPoint ← Json.nullable? fields "spawn_point" Json.text?
  let cycle ← Json.optional? fields "cycle" (Json.listOf? Phase.ofJson?) []
  some { name, allow, retry, template, area, spawnPoint, cycle }

/-- The JSON form of the settings for expiry. -/
def ExpirySettings.toJson (settings : ExpirySettings) : Json :=
  .object [("tick", settings.tick.toJson), ("event_buffer", .nat settings.eventBuffer.toNat),
    ("notify_timeout", settings.notifyTimeout.toJson)]

/-- The settings for expiry that a JSON object describes. What it leaves out
has its default. -/
def ExpirySettings.ofJson? (json : Json) : Option ExpirySettings := do
  let fields ← json.fields?
  let tick ← Json.optional? fields "tick" Duration.ofJson? default.tick
  let eventBuffer ← Json.optional? fields "event_buffer" Json.uint64? default.eventBuffer
  let notifyTimeout ←
    Json.optional? fields "notify_timeout" Duration.ofJson? default.notifyTimeout
  some { tick, eventBuffer, notifyTimeout }

namespace Configuration

/-- The JSON form of a configuration. -/
def toJson (config : Configuration) : Json :=
  .object [("expiry", config.expiry.toJson),
    ("templates", .list (config.templates.map Template.toJson)),
    ("gates", .list (config.gates.map Gate.Setting.toJson))]

/-- The configuration that a JSON object describes. -/
def ofJson? (json : Json) : Option Configuration := do
  let fields ← json.fields?
  let expiry ← Json.optional? fields "expiry" ExpirySettings.ofJson? .default
  let templates ← Json.optional? fields "templates" (Json.listOf? Template.ofJson?) []
  let gates ← Json.optional? fields "gates" (Json.listOf? Gate.Setting.ofJson?) []
  some { expiry, templates, gates }

end Configuration

end InstancedAreas
