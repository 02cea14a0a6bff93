import InstancedAreas.Identity
import InstancedAreas.Text.Digits

/-! What can be wrong with a configuration that can be read. -/
namespace InstancedAreas.Configuration

/-- A rule that a configuration breaks. -/
inductive Problem where
  | zeroTick
  | zeroNotifyTimeout
  | blankTemplateId
  | zeroLifetime (template : TemplateId)
  | lifetimeOutOfRange (template : TemplateId)
  | noOccupants (template : TemplateId)
  | noOccupantsPerSlot (template : TemplateId)
  | crowdedSlots (template : TemplateId) (perSlot capacity : UInt32)
  | duplicateTemplate (template : TemplateId)
  | blankGateName
  | duplicateGate (gate : String)
  | allowAndRetry (gate state : String)
  | templateWithArea (gate : String)
  | noDestination (gate : String)
  | unknownTemplate (gate : String) (template : TemplateId)
  | fileNotFound (path : String)
  | stated (text : String)
deriving DecidableEq, Repr

/-- The wording of a problem. -/
def Problem.message : Problem → String
  | zeroTick => "expiry.tick must be greater than zero"
  | zeroNotifyTimeout => "expiry.notify_timeout must be greater than zero"
  | blankTemplateId => "Template id must not be empty"
  | zeroLifetime template => "Template " ++ template ++ " has a zero lifetime"
  | lifetimeOutOfRange template => "Template " ++ template ++ " lifetime is out of range"
  | noOccupants template => "Template " ++ template ++ " has max_occupants = 0"
  | noOccupantsPerSlot template => "Template " ++ template ++ " has occupants_per_slot = 0"
  | crowdedSlots template perSlot capacity =>
    "Template " ++ template ++ " admits " ++ Text.decimal perSlot.toNat ++
      " occupants per slot but only has " ++ Text.decimal capacity.toNat ++ " slots"
  | duplicateTemplate template => "Duplicate template id: " ++ template
  | blankGateName => "Gate name must not be empty"
  | duplicateGate gate => "Duplicate gate name: " ++ gate
  | allowAndRetry gate state =>
    "Gate " ++ gate ++ " lists state " ++ state ++ " as both allow and retry"
  | templateWithArea gate =>
    "Gate " ++ gate ++ " sets a template together with an area or spawn point"
  | noDestination gate => "Gate " ++ gate ++ " needs either a template or an area"
  | unknownTemplate gate template =>
    "Gate " ++ gate ++ " references unknown template " ++ template
  | fileNotFound path => "Configuration file not found: " ++ path
  | stated text => text

end InstancedAreas.Configuration
