import InstancedAreas.Duration.Human
import InstancedAreas.Json
import InstancedAreas.Template

/-! The JSON form of templates. The fields of the kind stand beside the others,
and the fields of the other kind are of no concern. -/
namespace InstancedAreas

/-- The JSON form of a span is its human text. -/
def Duration.toJson (d : Duration) : Json := .text d.human

/-- The span that a JSON text spells. -/
def Duration.ofJson? (json : Json) : Option Duration := json.text?.bind ofHuman?

namespace ReleasePolicy

/-- The word for a release policy. -/
def word : ReleasePolicy → String
  | onExpiry => "on_expiry"
  | whenEmpty => "when_empty"

/-- The release policy that a JSON value names. -/
def ofJson? (json : Json) : Option ReleasePolicy := do
  match ← json.name? with
  | "on_expiry" => some onExpiry
  | "when_empty" => some whenEmpty
  | _ => none

end ReleasePolicy

namespace Template

/-- The fields of a kind. -/
def Kind.toFields : Kind → List (String × Json)
  | .exclusive most =>
    ("kind", .text "party_exclusive") ::
      Json.fieldIfSome "max_occupants" (fun n : UInt32 => .nat n.toNat) most
  | .pooled capacity perSlot =>
    [("kind", .text "pooled"), ("capacity", .nat capacity.toNat),
      ("occupants_per_slot", .nat perSlot.toNat)]

/-- Whether instances belong to parties, by the word for the kind or by its
place among the two, which is a number without a sign. -/
def Kind.isExclusive? : Json → Option Bool
  | .text "party_exclusive" | .nat 0 => some true
  | .text "pooled" | .nat 1 => some false
  | _ => none

/-- The kind that the fields of an object describe. -/
def Kind.ofFields? (fields : List (String × Json)) : Option Kind := do
  if ← Json.required? fields "kind" Kind.isExclusive? then
    (Json.nullable? fields "max_occupants" Json.uint32?).map Kind.exclusive
  else
    let capacity ← Json.required? fields "capacity" Json.uint32?
    let perSlot ← Json.optional? fields "occupants_per_slot" Json.uint32? 1
    some (.pooled capacity perSlot)

/-- The JSON form of a template. -/
def toJson (t : Template) : Json :=
  .object <|
    [("id", .text t.id), ("destination", .nat t.destination.toNat),
      ("spawn_point", .text t.spawnPoint)] ++
    t.kind.toFields ++
    [("lifetime", t.lifetime.toJson)] ++
    Json.fieldIfSome "return_area" (fun area : AreaId => .nat area.toNat) t.returnArea ++
    [("release", .text t.release.word)]

/-- The template that a JSON object describes. -/
def ofJson? (json : Json) : Option Template := do
  let fields ← json.fields?
  let id ← Json.required? fields "id" Json.text?
  let destination ← Json.required? fields "destination" Json.uint32?
  let spawnPoint ← Json.required? fields "spawn_point" Json.text?
  let kind ← Kind.ofFields? fields
  let lifetime ← Json.required? fields "lifetime" Duration.ofJson?
  let returnArea ← Json.nullable? fields "return_area" Json.uint32?
  let release ← Json.optional? fields "release" ReleasePolicy.ofJson? .onExpiry
  some { id, destination, spawnPoint, kind, lifetime, returnArea, release }

end Template

end InstancedAreas
