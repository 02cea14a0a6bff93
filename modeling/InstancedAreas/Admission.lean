import InstancedAreas.Admission.Error
import InstancedAreas.Admission.Request
import InstancedAreas.Gate.Board
import InstancedAreas.Gate
import InstancedAreas.Registry

/-! Admission of groups into instances. A party's instance stands under the
party, or under the player when there is no party, and only the leader enters
it. A pool is filled from its first slot on: a group goes to the first slot
that is free or has room for all of it. -/
namespace InstancedAreas

/-- The instance that a player was admitted to, for leaving it later. -/
structure Handle where
  template : TemplateId
  key : InstanceKey
  instanceId : InstanceId
deriving DecidableEq

/-- A granted request: where the group is taken, and the instance it is in. A
gate to a shared area has none. -/
structure Admitted where
  destination : AreaId
  spawnPoint : String
  admitted : List PlayerId
  instance? : Option Instance
  created : Bool
deriving DecidableEq

namespace Admitted

/-- The handle of the instance. -/
def handle (a : Admitted) : Option Handle := a.instance?.map fun i => ⟨i.template, i.key, i.id⟩

/-- The deadline of the instance. -/
def expiresAt (a : Admitted) : Option Instant := a.instance?.map Instance.expiresAt

end Admitted

/-- The key for a group, and whether an instance is already live under it. -/
structure Placement where
  key : InstanceKey
  live : Bool
deriving DecidableEq

namespace Pool

/-- The place of a request in a template of parties. An instance past its
deadline is neither joined nor replaced; it blocks the key until it is swept. -/
def placeExclusive (pool : Pool) (now : Instant) (request : Request) :
    Except AdmissionError Placement :=
  let key := match request.party with
    | some party => InstanceKey.party party.party
    | none => InstanceKey.solo request.player
  match pool.instances.find? key with
  | none => .ok ⟨key, false⟩
  | some i =>
    if i.isExpired now then .error (.instancesFull pool.template.id) else .ok ⟨key, true⟩

/-- The occupied slots, ascending. -/
def slots (pool : Pool) : List (UInt32 × Instance) :=
  pool.instances.entries.filterMap fun entry =>
    match entry.1 with
    | .slot index => some (index, entry.2)
    | .party _ | .solo _ => none

/-- The number of slots that a group may be placed in. -/
def slotRange (pool : Pool) : Nat :=
  match pool.template.slotCount with
  | some count => count.toNat
  | none => UInt32.size

/-- The first slot from `next` on, and below `count`, that is not occupied or
whose instance fits, given the occupied ones in ascending order. -/
def firstFit (fits : Instance → Bool) (count : Nat) :
    Nat → List (UInt32 × Instance) → Option Placement
  | next, [] => if next < count then some ⟨.slot (.ofNat next), false⟩ else none
  | next, (index, i) :: rest =>
    if count ≤ next then none
    else if next < index.toNat then some ⟨.slot (.ofNat next), false⟩
    else if fits i then some ⟨.slot index, true⟩
    else firstFit fits count (next + 1) rest

/-- The place of a group in a template of slots. -/
def placePooled (pool : Pool) (now : Instant) (group : List PlayerId) :
    Except AdmissionError Placement :=
  let fits (i : Instance) : Bool :=
    !i.isExpired now && i.hasRoomFor group pool.template.occupantLimit
  match firstFit fits pool.slotRange 0 pool.slots with
  | some placement => .ok placement
  | none => .error (.instancesFull pool.template.id)

/-- The place of a request. -/
def place (pool : Pool) (now : Instant) (request : Request) : Except AdmissionError Placement :=
  match pool.template.kind with
  | .exclusive _ => pool.placeExclusive now request
  | .pooled .. => pool.placePooled now request.group

end Pool

namespace Registry

/-- Lets a request's group into the instance at its place, which is created
first where there is none. -/
def occupy (r : Registry) (now : Instant) (fresh : InstanceId) (template : Template)
    (request : Request) (lifetime : Duration) (placement : Placement) :
    Registry × Except AdmissionError Admitted :=
  let group := request.group
  let join (r : Registry) : Registry × Except AdmissionError Admitted :=
    match r.addOccupants now template.id placement.key group with
    | (r, .error error) => (r, .error (.ofRegistry error))
    | (r, .ok i) =>
      (r, .ok ⟨template.destination, template.spawnPoint, group, some i, !placement.live⟩)
  if placement.live then join r
  else if template.occupantLimit.any (·.toNat < group.length) then
    (r, .error (.capacityExceeded template.id placement.key))
  else
    let origin := (request.originOverride <|> template.returnArea).getD request.currentArea
    match r.create now fresh template.id placement.key lifetime origin with
    | (r, .error error) => (r, .error (.ofRegistry error))
    | (r, .ok _) => join r

/-- Admits a request's group. Leadership is looked at before the lifetime, and
that before the place. -/
def enter (r : Registry) (now : Instant) (fresh : InstanceId) (request : Request) :
    Registry × Except AdmissionError Admitted :=
  match r.pool? request.template with
  | none => (r, .error (.unknownTemplate request.template))
  | some pool =>
    let template := pool.template
    let lifetime := request.lifetimeOverride.getD template.lifetime
    if template.isExclusive && request.party.any (!·.isLeader) then (r, .error .notPartyLeader)
    else if lifetime.isZero || (now.after? lifetime).isNone then
      (r, .error (.invalidLifetime template.id lifetime))
    else
      match pool.place now request with
      | .error error => (r, .error error)
      | .ok placement => r.occupy now fresh template request lifetime placement

/-- Takes a player out of the instance that a handle stands for, unless it has
gone. The answer is true when that released the instance. -/
def leave (r : Registry) (now : Instant) (handle : Handle) (player : PlayerId) :
    Registry × Except RegistryError Bool :=
  match r.find handle.template handle.key with
  | .error error => (r, .error error)
  | .ok found =>
    if found.any (·.id = handle.instanceId) then
      r.removeOccupant now handle.template handle.key player
    else (r, .error (.notFound handle.template handle.key))

end Registry

namespace Gate

/-- The policies of gates by name. -/
abbrev Policies := Table String Policy

/-- The policies of a list by name. Of two with one name the later counts. -/
def policiesOf (policies : List Policy) : Policies :=
  .ofList (policies.map fun policy => (policy.name, policy))

/-- The verdict of a gate at present. -/
def verdict (policies : Policies) (source : Source) (now : Instant) (gate : String) :
    Except AdmissionError Verdict :=
  match policies.find? gate with
  | none => .error (.unknownGate gate)
  | some policy => .ok (policy.decide (source.state? now gate))

/-- Admits a request's group through a gate. An open gate to an area lets
everybody pass; one into a template admits there, whatever template the
request was for. -/
def pass (policies : Policies) (source : Source) (r : Registry) (now : Instant)
    (fresh : InstanceId) (gate : String) (request : Request) :
    Registry × Except AdmissionError Admitted :=
  match policies.find? gate with
  | none => (r, .error (.unknownGate gate))
  | some policy =>
    let state := source.state? now gate
    match policy.decide state, policy.destination with
    | .denyRetryable, _ => (r, .error (.gateRetryLater gate (state.getD "")))
    | .denyNotYet, _ => (r, .error (.gateNotYet gate state))
    | .allow, .area area spawnPoint =>
      (r, .ok ⟨area, spawnPoint, request.group, none, false⟩)
    | .allow, .template template => r.enter now fresh (request.retarget template)

end Gate

end InstancedAreas
