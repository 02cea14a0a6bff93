import InstancedAreas.Instance.Id
import InstancedAreas.Instance.Key
import InstancedAreas.Instance.Occupants
import InstancedAreas.Instant

/-! Live instances of templates. Everything but the occupants is fixed when an
instance is created. -/
namespace InstancedAreas

/-- A live instance. -/
structure Instance where
  id : InstanceId
  template : TemplateId
  key : InstanceKey
  createdAt : Instant
  expiresAt : Instant
  originArea : AreaId
  occupants : Occupants
deriving DecidableEq

namespace Instance

/-- Whether the deadline has been reached. -/
def isExpired (i : Instance) (now : Instant) : Bool := i.expiresAt ≤ now

/-- The time to the deadline, nothing once it has been reached. -/
def remaining (i : Instance) (now : Instant) : Duration := i.expiresAt.remaining now

/-- Whether players may all be inside together with the occupants under a
limit. Players who are inside already, or listed twice, take no more room. -/
def hasRoomFor (i : Instance) (players : List PlayerId) : Option UInt32 → Bool
  | none => true
  | some limit =>
    let arriving := Occupants.ofList (players.filter fun player => !i.occupants.contains player)
    i.occupants.size + arriving.size ≤ limit.toNat

end Instance

end InstancedAreas
