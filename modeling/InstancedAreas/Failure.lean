import InstancedAreas.Configuration.Problem
import InstancedAreas.Eviction
import InstancedAreas.Registry.Error

/-! Every way in which the service as a whole can fail. -/
namespace InstancedAreas

/-- A failure of the service. -/
inductive Failure where
  | configuration (problem : Configuration.Problem)
  | registry (error : RegistryError)
  | eviction (error : EvictionError)
  | serialization (reason : String)
  | other (reason : String)
deriving DecidableEq

namespace Failure

/-- The wording of a failure. -/
def message : Failure → String
  | configuration problem => "Configuration error: " ++ problem.message
  | registry error => "Registry error: " ++ error.message
  | eviction error => "Eviction error: " ++ error.message
  | serialization reason => "Serialization error: " ++ reason
  | other reason => reason

/-- The word for the kind of a failure. -/
def kind : Failure → String
  | configuration _ => "configuration"
  | registry _ => "registry"
  | eviction _ => "eviction"
  | serialization _ => "serialization"
  | other _ => "other"

end Failure

end InstancedAreas
