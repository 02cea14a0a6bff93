import InstancedAreas.Event
import InstancedAreas.Eviction
import InstancedAreas.Feed
import InstancedAreas.Registry.Error
import InstancedAreas.Table
import InstancedAreas.Teardown
import InstancedAreas.Template

/-! The registry of live instances, one pool of them for each template. Every
instance that is created is scheduled for teardown at once, and whatever
happens to one is announced. Operations are told the time and, where they
create an instance, a fresh id. -/
namespace InstancedAreas

/-- A template and its live instances. -/
structure Pool where
  template : Template
  instances : Table InstanceKey Instance

namespace Pool

/-- Puts an instance under its key. -/
def put (pool : Pool) (i : Instance) : Pool :=
  { pool with instances := pool.instances.insert i.key i }

/-- Frees a key. -/
def drop (pool : Pool) (key : InstanceKey) : Pool :=
  { pool with instances := pool.instances.erase key }

end Pool

/-- The live instances of all templates, the pending teardowns and the feed of
lifecycle events. -/
structure Registry where
  pools : Table TemplateId Pool
  queue : TeardownQueue
  feed : Feed Event

namespace Registry

/-- The registry of some templates without instances. Of two templates with
one id the later counts. -/
def ofTemplates (templates : List Template) (buffer : Nat) : Registry where
  pools := .ofList (templates.map fun t => (t.id, ⟨t, .empty⟩))
  queue := .empty
  feed := .new buffer

/-- The pool of a template. -/
def pool? (r : Registry) (template : TemplateId) : Option Pool := r.pools.find? template

/-- The template with an id. -/
def template? (r : Registry) (id : TemplateId) : Option Template := (r.pool? id).map Pool.template

/-- All templates in the order of their ids. -/
def templates (r : Registry) : List Template := r.pools.values.map Pool.template

/-- The live instance under a key. -/
def instance? (r : Registry) (template : TemplateId) (key : InstanceKey) : Option Instance :=
  (r.pool? template).bind (·.instances.find? key)

/-- Puts a pool in place of the pool of its template. -/
def putPool (r : Registry) (pool : Pool) : Registry :=
  { r with pools := r.pools.insert pool.template.id pool }

/-- Announces an event. -/
def announce (r : Registry) (event : Event) : Registry :=
  { r with feed := r.feed.publish event }

/-- Schedules a teardown. -/
def schedule (r : Registry) (teardown : Teardown) : Registry :=
  { r with queue := r.queue.schedule teardown }

/-- What can be seen of a template's pool. -/
def seen {α : Type} (r : Registry) (template : TemplateId) (look : Pool → α) :
    Except RegistryError α :=
  match r.pool? template with
  | none => .error (.unknownTemplate template)
  | some pool => .ok (look pool)

/-- The live instance under a key of a known template. -/
def find (r : Registry) (template : TemplateId) (key : InstanceKey) :
    Except RegistryError (Option Instance) :=
  r.seen template (·.instances.find? key)

/-- The live instances of a known template in the order of their keys. -/
def snapshot (r : Registry) (template : TemplateId) : Except RegistryError (List Instance) :=
  r.seen template (·.instances.values)

/-- The number of live instances of a known template. -/
def count (r : Registry) (template : TemplateId) : Except RegistryError Nat :=
  r.seen template (·.instances.size)

/-- Creates an instance under a free key. Its deadline lies a lifetime ahead
and never moves. -/
def create (r : Registry) (now : Instant) (fresh : InstanceId) (template : TemplateId)
    (key : InstanceKey) (lifetime : Duration) (originArea : AreaId) :
    Registry × Except RegistryError Instance :=
  match r.pool? template with
  | none => (r, .error (.unknownTemplate template))
  | some pool =>
    if pool.instances.contains key then (r, .error (.alreadyExists template key))
    else
      match now.after? lifetime with
      | none => (r, .error (.invalidLifetime template lifetime))
      | some deadline =>
        let born : Instance :=
          { id := fresh, template, key, createdAt := now, expiresAt := deadline, originArea,
            occupants := .empty }
        (((r.schedule (.of born)).announce
            (.of born now (.created pool.template.destination deadline))).putPool (pool.put born),
          .ok born)

/-- Runs an operation on the live instance under a key. -/
def withInstance {α : Type} (r : Registry) (template : TemplateId) (key : InstanceKey)
    (act : Pool → Instance → Registry × Except RegistryError α) :
    Registry × Except RegistryError α :=
  match r.pool? template with
  | none => (r, .error (.unknownTemplate template))
  | some pool =>
    match pool.instances.find? key with
    | none => (r, .error (.notFound template key))
    | some i => act pool i

/-- Ends an instance for a reason, whoever is inside. -/
def conclude (r : Registry) (now : Instant) (pool : Pool) (i : Instance) (reason : ReleaseReason) :
    Registry :=
  (r.putPool (pool.drop i.key)).announce (.of i now (.released reason))

/-- Releases the instance under a key, whoever is inside. -/
def release (r : Registry) (now : Instant) (template : TemplateId) (key : InstanceKey)
    (reason : ReleaseReason) : Registry × Except RegistryError Instance :=
  r.withInstance template key fun pool i => (r.conclude now pool i reason, .ok i)

/-- Lets a group into the instance under a key, all or none of them. Those who
were not inside before are announced. -/
def addOccupants (r : Registry) (now : Instant) (template : TemplateId) (key : InstanceKey)
    (players : List PlayerId) : Registry × Except RegistryError Instance :=
  r.withInstance template key fun pool i =>
    let limit := pool.template.occupantLimit
    if i.hasRoomFor players limit then
      let (occupants, entered) := i.occupants.enterAll players
      let joined := { i with occupants }
      let after := r.putPool (pool.put joined)
      (if entered.isEmpty then after else after.announce (.of i now (.admitted entered)),
        .ok joined)
    else (r, .error (.capacityExceeded template key (limit.getD 4294967295)))

/-- Takes a player out of the instance under a key. An instance that this
empties is released where the template asks for it, and then the answer is
true. -/
def removeOccupant (r : Registry) (now : Instant) (template : TemplateId) (key : InstanceKey)
    (player : PlayerId) : Registry × Except RegistryError Bool :=
  r.withInstance template key fun pool i =>
    if i.occupants.contains player then
      let left := { i with occupants := i.occupants.erase player }
      if left.occupants.isEmpty ∧ pool.template.release = .whenEmpty then
        (r.conclude now pool left .emptied, .ok true)
      else (r.putPool (pool.put left), .ok false)
    else (r, .ok false)

/-- Ends the instance under a key at its deadline: every occupant is evicted,
ascending by player, before the release is announced. Yields the notices. -/
def expire (r : Registry) (now : Instant) (template : TemplateId) (key : InstanceKey) :
    Registry × Except RegistryError (List Eviction) :=
  r.withInstance template key fun pool i =>
    let evicted := i.occupants.players.map fun player =>
      Event.of i now (.evicted player i.originArea)
    let after := { r with feed := r.feed.publishAll evicted }
    (after.conclude now pool i .expired, .ok (Eviction.all i))

end Registry

end InstancedAreas
