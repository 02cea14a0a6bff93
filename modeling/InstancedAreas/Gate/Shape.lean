import InstancedAreas.Gate
import InstancedAreas.Gate.Timetable
import InstancedAreas.Template.Shape

/-! The JSON form of gate policies, destinations, verdicts and phases. -/
namespace InstancedAreas.Gate

/-- The JSON form of a destination. -/
def Destination.toJson : Destination → Json
  | area place spawnPoint =>
    .object [("type", .text "area"), ("area", .nat place.toNat),
      ("spawn_point", .text spawnPoint)]
  | template id => .object [("type", .text "template"), ("template", .text id)]

/-- The destination that a JSON object describes. -/
def Destination.ofJson? (json : Json) : Option Destination := do
  let fields ← json.fields?
  match ← Json.required? fields "type" Json.text? with
  | "area" => do
    let place ← Json.required? fields "area" Json.uint32?
    let spawnPoint ← Json.required? fields "spawn_point" Json.text?
    some (area place spawnPoint)
  | "template" => (Json.required? fields "template" Json.text?).map template
  | _ => none

/-- The word for a verdict. -/
def Verdict.word : Verdict → String
  | allow => "allow"
  | denyRetryable => "deny_retryable"
  | denyNotYet => "deny_not_yet"

/-- The JSON form of a list of states. -/
def statesJson (states : List String) : Json := .list (states.map .text)

/-- The JSON form of a policy. -/
def Policy.toJson (p : Policy) : Json :=
  .object [("name", .text p.name), ("allow", statesJson p.allow), ("retry", statesJson p.retry),
    ("destination", p.destination.toJson)]

/-- The policy that a JSON object describes. -/
def Policy.ofJson? (json : Json) : Option Policy := do
  let fields ← json.fields?
  let name ← Json.required? fields "name" Json.text?
  let allow ← Json.required? fields "allow" (Json.listOf? Json.text?)
  let retry ← Json.optional? fields "retry" (Json.listOf? Json.text?) []
  let destination ← Json.required? fields "destination" Destination.ofJson?
  some { name, allow, retry, destination }

/-- The JSON form of a phase. -/
def Phase.toJson (phase : Phase) : Json :=
  .object [("state", .text phase.state), ("duration", phase.duration.toJson)]

/-- The phase that a JSON object describes. -/
def Phase.ofJson? (json : Json) : Option Phase := do
  let fields ← json.fields?
  let state ← Json.required? fields "state" Json.text?
  let duration ← Json.required? fields "duration" Duration.ofJson?
  some { state, duration }

end InstancedAreas.Gate
