import InstancedAreas.Identity

/-! Gates decide by the state of some part of the game world whether players
may pass, and where those who may are sent. -/
namespace InstancedAreas.Gate

/-- Where a gate leads. -/
inductive Destination where
  /-- To a spot that all share. -/
  | area (place : AreaId) (spawnPoint : String)
  /-- Into an instance of a template. -/
  | template (id : TemplateId)
deriving DecidableEq, Repr

/-- What a gate says. -/
inductive Verdict where
  | allow
  | denyRetryable
  | denyNotYet
deriving DecidableEq, Repr

/-- The states in which a gate is open or closing, and where it leads. -/
structure Policy where
  name : String
  allow : List String
  retry : List String
  destination : Destination
deriving DecidableEq, Repr

namespace Policy

/-- A gate to an area. It is open in no state yet. -/
def toArea (name : String) (area : AreaId) (spawnPoint : String) : Policy :=
  ⟨name, [], [], .area area spawnPoint⟩

/-- A gate into a template. It is open in no state yet. -/
def toTemplate (name : String) (template : TemplateId) : Policy :=
  ⟨name, [], [], .template template⟩

/-- The policy with one more open state. -/
def allowing (p : Policy) (state : String) : Policy := { p with allow := p.allow ++ [state] }

/-- The policy with one more closing state. -/
def retrying (p : Policy) (state : String) : Policy := { p with retry := p.retry ++ [state] }

/-- The verdict in a state. A state that is neither open nor closing, and no
state at all, mean that the gate is not open yet. -/
def decide (p : Policy) : Option String → Verdict
  | none => .denyNotYet
  | some state =>
    if p.allow.contains state then .allow
    else if p.retry.contains state then .denyRetryable
    else .denyNotYet

end Policy

end InstancedAreas.Gate
