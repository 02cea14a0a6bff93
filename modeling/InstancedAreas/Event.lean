import InstancedAreas.Instance

/-! Lifecycle events: what is announced whenever an instance is created, takes
players in, evicts one at its deadline, or is released. -/
namespace InstancedAreas

/-- Why an instance was released. -/
inductive ReleaseReason where
  /-- A sweep found its deadline passed. -/
  | expired
  /-- Its last occupant left. -/
  | emptied
  /-- It was released on request. -/
  | manual
deriving DecidableEq, Repr

/-- What happened to an instance. -/
inductive Event.Kind where
  | created (destination : AreaId) (expiresAt : Instant)
  | admitted (players : List PlayerId)
  | evicted (player : PlayerId) (originArea : AreaId)
  | released (reason : ReleaseReason)
deriving DecidableEq

/-- An event in the life of an instance. -/
structure Event where
  instanceId : InstanceId
  template : TemplateId
  key : InstanceKey
  timestamp : Instant
  kind : Event.Kind
deriving DecidableEq

namespace Event

/-- An event of an instance. -/
def of (i : Instance) (timestamp : Instant) (kind : Kind) : Event :=
  ⟨i.id, i.template, i.key, timestamp, kind⟩

/-- The word for what happened. -/
def Kind.word : Kind → String
  | created .. => "instance_created"
  | admitted _ => "occupants_admitted"
  | evicted .. => "occupant_evicted"
  | released _ => "instance_released"

end Event

end InstancedAreas
