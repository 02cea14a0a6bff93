import InstancedAreas.Duration.Decimal
import InstancedAreas.Instance.Key

/-! What can be wrong with an operation on the live instances. -/
namespace InstancedAreas

/-- Why an operation on the live instances failed. -/
inductive RegistryError where
  | unknownTemplate (template : TemplateId)
  | alreadyExists (template : TemplateId) (key : InstanceKey)
  | capacityExceeded (template : TemplateId) (key : InstanceKey) (limit : UInt32)
  | invalidLifetime (template : TemplateId) (lifetime : Duration)
  | notFound (template : TemplateId) (key : InstanceKey)
deriving DecidableEq

namespace RegistryError

/-- The wording of a failure. -/
def message : RegistryError → String
  | unknownTemplate template => "Unknown template: " ++ template
  | alreadyExists template key =>
    "Instance " ++ template ++ "/" ++ key.text ++ " already exists"
  | capacityExceeded template key limit =>
    "Instance " ++ template ++ "/" ++ key.text ++ " is at capacity (" ++
      Text.decimal limit.toNat ++ " occupants)"
  | invalidLifetime template lifetime =>
    "Lifetime " ++ lifetime.decimal ++ " of " ++ template ++ " is out of range"
  | notFound template key => "Instance " ++ template ++ "/" ++ key.text ++ " not found"

/-- The word for the kind of a failure. -/
def kind : RegistryError → String
  | unknownTemplate _ => "unknown_template"
  | alreadyExists .. => "already_exists"
  | capacityExceeded .. => "capacity_exceeded"
  | invalidLifetime .. => "invalid_lifetime"
  | notFound .. => "not_found"

end RegistryError

end InstancedAreas
