import InstancedAreas.Proofs.Instance.Room
import InstancedAreas.Proofs.Registry.Change

/-! What operations on live instances answer. Creating under a free key opens an
instance, and a group that there is room for gets in. An operation that fails
leaves the registry as it was. -/
namespace InstancedAreas

/-- What remains of an instance when a player leaves: nothing if nobody else was
inside and the template asks for its release then. -/
def Instance.without (i : Instance) (t : Template) (player : PlayerId) : Option Instance :=
  if i.occupants.players = [player] ∧ t.release = .whenEmpty then none
  else some { i with occupants := i.occupants.erase player }

/-- Nothing remains exactly where the last occupant leaves and the template asks for
the release. -/
theorem Instance.isNone_without (i : Instance) (t : Template) (player : PlayerId) :
    (i.without t player).isNone =
      decide (i.occupants.players = [player] ∧ t.release = .whenEmpty) := by
  unfold without
  split <;> simp_all

theorem Occupants.erase_of_not_contains {o : Occupants} {player : PlayerId}
    (outside : o.contains player = false) : o.erase player = o := by
  apply ext_contains
  intro other
  rw [contains_erase]
  by_cases same : other = player
  · simp [same, outside]
  · simp [same]

/-- Nobody is left exactly where the player was the only one. -/
theorem Occupants.isEmpty_erase_iff {o : Occupants} {player : PlayerId}
    (inside : o.contains player = true) :
    (o.erase player).isEmpty = true ↔ o.players = [player] := by
  constructor
  · exact eq_singleton inside
  · intro alone
    simp [isEmpty, erase, alone]

namespace Registry

variable {now : Instant} {r : Registry} {pool : Pool} {i : Instance}

/-- An operation on a live instance fails where there is none. -/
theorem withInstance_of_absent {α : Type} {template : TemplateId} {key : InstanceKey}
    (absent : r.instance? template key = none)
    (act : Pool → Instance → Registry × Except RegistryError α) :
    ∃ error, r.withInstance template key act = (r, .error error) := by
  cases home : r.pool? template with
  | none => exact ⟨.unknownTemplate template, by simp only [withInstance, home]⟩
  | some pool =>
    rw [instance?, home] at absent
    exact ⟨.notFound template key, by
      simp only [withInstance, home, show pool.instances.find? key = none from absent]⟩

theorem withInstance_of_held {α : Type} (home : r.pool? pool.template.id = some pool)
    (held : pool.instances.find? i.key = some i)
    (act : Pool → Instance → Registry × Except RegistryError α) :
    r.withInstance pool.template.id i.key act = act pool i := by
  simp only [withInstance, home, held]

/-- The registry after a group has entered an instance. -/
def joined (r : Registry) (now : Instant) (pool : Pool) (i : Instance) (players : List PlayerId) :
    Registry :=
  let after := r.putPool (pool.put { i with occupants := (i.occupants.enterAll players).1 })
  let entered := (i.occupants.enterAll players).2
  if entered.isEmpty then after else after.announce (.of i now (.admitted entered))

theorem instance?_joined (home : r.pool? pool.template.id = some pool)
    (players : List PlayerId) (template : TemplateId) (key : InstanceKey) :
    (r.joined now pool i players).instance? template key =
      if template = pool.template.id ∧ key = i.key then
        some { i with occupants := i.occupants.insertAll players }
      else r.instance? template key := by
  rw [← Occupants.enterAll_fst]
  simp only [joined]
  split <;> exact instance?_putPool_put home _ template key

theorem pool?_joined (r : Registry) (now : Instant) (pool : Pool) (i : Instance)
    (players : List PlayerId) :
    (r.joined now pool i players).pool? pool.template.id =
      some (pool.put { i with occupants := i.occupants.insertAll players }) := by
  rw [← Occupants.enterAll_fst]
  simp only [joined]
  split <;> exact (pool?_putPool ..).trans (if_pos rfl)

theorem queue_joined (r : Registry) (now : Instant) (pool : Pool) (i : Instance)
    (players : List PlayerId) : (r.joined now pool i players).queue = r.queue := by
  simp only [joined]
  split <;> rfl

/-- Where a whole group is inside, its entry changes nothing. -/
theorem joined_of_inside (now : Instant) (home : r.pool? pool.template.id = some pool)
    (held : pool.instances.find? i.key = some i) {players : List PlayerId}
    (inside : ∀ player ∈ players, i.occupants.contains player = true) :
    r.joined now pool i players = r := by
  simp only [joined, Occupants.enterAll_of_inside inside, List.isEmpty_nil, if_true]
  rw [Pool.put_of_held held, putPool_of_home home]

/-- A group that there is room for gets in. -/
theorem addOccupants_of_room (now : Instant) (home : r.pool? pool.template.id = some pool)
    (held : pool.instances.find? i.key = some i) {players : List PlayerId}
    (room : i.HasRoom players.toFinset pool.template.occupantLimit) :
    r.addOccupants now pool.template.id i.key players =
      (r.joined now pool i players, .ok { i with occupants := i.occupants.insertAll players }) := by
  have room := Instance.hasRoomFor_iff_hasRoom.mpr room
  simp only [addOccupants, withInstance, home, held, room, if_true, joined,
    Occupants.enterAll_fst]

/-- A group that there is no room for is turned away, all of it. Where nothing
bounds the occupants that never happens. -/
theorem addOccupants_of_crowd (now : Instant) (home : r.pool? pool.template.id = some pool)
    (held : pool.instances.find? i.key = some i) {players : List PlayerId}
    (crowd : ¬ i.HasRoom players.toFinset pool.template.occupantLimit) :
    ∃ most, pool.template.occupantLimit = some most ∧
      r.addOccupants now pool.template.id i.key players =
        (r, .error (.capacityExceeded pool.template.id i.key most)) := by
  cases limit : pool.template.occupantLimit with
  | none =>
    rw [limit] at crowd
    exact absurd (fun _ bounded => nomatch bounded) crowd
  | some most =>
    rw [limit] at crowd
    have crowd := mt Instance.hasRoomFor_iff_hasRoom.mp crowd
    refine ⟨most, rfl, ?_⟩
    simp [addOccupants, withInstance, home, held, crowd, limit]

theorem pool?_opened (r : Registry) (now : Instant) (pool : Pool) (i : Instance) :
    (r.opened now pool i).pool? pool.template.id = some (pool.put i) := by
  have replaced := pool?_putPool ((r.schedule (.of i)).announce
    (.of i now (.created pool.template.destination i.expiresAt))) (pool.put i) pool.template.id
  exact replaced.trans (if_pos rfl)

theorem instance?_opened (home : r.pool? pool.template.id = some pool) (i : Instance)
    (template : TemplateId) (key : InstanceKey) :
    (r.opened now pool i).instance? template key =
      if template = pool.template.id ∧ key = i.key then some i else r.instance? template key :=
  instance?_putPool_put home i template key

/-- After an instance is opened and a group has entered it, it is there with the group. -/
theorem instance?_opened_joined (home : r.pool? pool.template.id = some pool) (i : Instance)
    (players : List PlayerId) (template : TemplateId) (key : InstanceKey) :
    ((r.opened now pool i).joined now (pool.put i) i players).instance? template key =
      if template = pool.template.id ∧ key = i.key then
        some { i with occupants := i.occupants.insertAll players }
      else r.instance? template key := by
  rw [instance?_joined (r.pool?_opened now pool i), instance?_opened home]
  -- The place of the new instance is the only one that either step touches.
  split
  · rename_i here
    exact (if_pos here).symm
  · rename_i elsewhere
    exact (if_neg elsewhere).trans (if_neg elsewhere).symm

/-- The instance that is created under a key. -/
def newborn (pool : Pool) (now : Instant) (fresh : InstanceId) (key : InstanceKey)
    (deadline : Instant) (originArea : AreaId) : Instance where
  id := fresh
  template := pool.template.id
  key := key
  createdAt := now
  expiresAt := deadline
  originArea := originArea
  occupants := .empty

/-- Under a free key an instance is created if its deadline exists. -/
theorem create_of_free (home : r.pool? pool.template.id = some pool) {key : InstanceKey}
    (free : pool.instances.find? key = none) {lifetime : Duration} {deadline : Instant}
    (ends : now.after? lifetime = some deadline) (fresh : InstanceId) (originArea : AreaId) :
    r.create now fresh pool.template.id key lifetime originArea =
      (r.opened now pool (newborn pool now fresh key deadline originArea),
        .ok (newborn pool now fresh key deadline originArea)) := by
  simp only [create, home, Table.contains, free, ends]
  rfl

/-- Under a key that is not free, or without a deadline, nothing is created. -/
theorem create_fails (home : r.pool? pool.template.id = some pool) {key : InstanceKey}
    {lifetime : Duration}
    (impossible : pool.instances.find? key = none → now.after? lifetime = none)
    (fresh : InstanceId) (originArea : AreaId) :
    ∃ error, r.create now fresh pool.template.id key lifetime originArea = (r, .error error) := by
  cases held : pool.instances.find? key with
  | none => exact ⟨_, by simp only [create, home, Table.contains, held, impossible held]; rfl⟩
  | some i => exact ⟨_, by simp only [create, home, Table.contains, held]; rfl⟩

/-- By the handle of a live instance a player is taken out of it. -/
theorem leave_of_own (handle : Handle)
    (own : (r.instance? handle.template handle.key).any (·.id = handle.instanceId) = true)
    (now : Instant) (player : PlayerId) :
    r.leave now handle player = r.removeOccupant now handle.template handle.key player := by
  cases home : r.pool? handle.template with
  | none => simp [instance?, home] at own
  | some pool =>
    simp only [instance?, home, Option.bind_some] at own
    simp only [leave, find, seen, home, own, if_true]

/-- By a handle that no live instance has, nobody is taken out of one. -/
theorem leave_of_gone {handle : Handle} (home : r.pool? handle.template = some pool)
    (other : (r.instance? handle.template handle.key).any (·.id = handle.instanceId) = false)
    (now : Instant) (player : PlayerId) :
    r.leave now handle player = (r, .error (.notFound handle.template handle.key)) := by
  simp only [instance?, home, Option.bind_some] at other
  simp only [leave, find, seen, home, other, Bool.false_eq_true, if_false]

/-- By any other handle nobody is. -/
theorem leave_of_other {handle : Handle}
    (other : (r.instance? handle.template handle.key).any (·.id = handle.instanceId) = false)
    (now : Instant) (player : PlayerId) :
    ∃ error, r.leave now handle player = (r, .error error) := by
  cases home : r.pool? handle.template with
  | none => exact ⟨.unknownTemplate handle.template, by simp only [leave, find, seen, home]⟩
  | some pool => exact ⟨_, leave_of_gone home other now player⟩

/-- Taking a player out of a live instance leaves what remains of it, and every
other place alone. The answer is true where nothing remains. -/
theorem removeOccupant_of_held (now : Instant) (home : r.pool? pool.template.id = some pool)
    (held : pool.instances.find? i.key = some i) (player : PlayerId) :
    let left := r.removeOccupant now pool.template.id i.key player
    left.2 = .ok (i.without pool.template player).isNone ∧
      ∀ template key, left.1.instance? template key =
        if template = pool.template.id ∧ key = i.key then i.without pool.template player
        else r.instance? template key := by
  intro left
  have taken : left = _ := withInstance_of_held home held _
  by_cases inside : i.occupants.contains player = true
  · simp only [inside, if_true, Occupants.isEmpty_erase_iff inside] at taken
    by_cases last : i.occupants.players = [player] ∧ pool.template.release = .whenEmpty
    · rw [if_pos last] at taken
      rw [taken, Instance.without, if_pos last]
      exact ⟨rfl, instance?_putPool_drop home i.key⟩
    · rw [if_neg last] at taken
      rw [taken, Instance.without, if_neg last]
      exact ⟨rfl, instance?_putPool_put home _⟩
  · have outside : i.occupants.contains player = false := Bool.not_eq_true _ ▸ inside
    simp only [outside, Bool.false_eq_true, if_false] at taken
    have others : i.occupants.players ≠ [player] := by
      intro alone
      simp [Occupants.contains, alone] at outside
    have stays : i.without pool.template player = some i := by
      simp [Instance.without, others, Occupants.erase_of_not_contains outside]
    rw [taken, stays]
    refine ⟨rfl, fun template key => ?_⟩
    split
    · rename_i here
      rw [here.1, here.2]
      exact instance?_eq_some_iff.mpr ⟨pool, home, held⟩
    · rfl

/-- After a release the key is free, and every other place is as it was. -/
theorem Keyed.instance?_release (keyed : r.Keyed) (now : Instant) (template : TemplateId)
    (key : InstanceKey) (reason : ReleaseReason) (place : TemplateId) (other : InstanceKey) :
    (r.release now template key reason).1.instance? place other =
      if place = template ∧ other = key then none else r.instance? place other := by
  unfold release
  cases found : r.instance? template key with
  | none =>
    obtain ⟨error, failed⟩ := withInstance_of_absent found fun pool i =>
      (r.conclude now pool i reason, (.ok i : Except RegistryError Instance))
    rw [failed]
    split
    · rename_i here
      rw [here.1, here.2]
      exact found
    · rfl
  | some i =>
    obtain ⟨pool, home, held⟩ := instance?_eq_some_iff.mp found
    obtain ⟨rfl, inside⟩ := keyed _ pool home
    obtain ⟨-, rfl⟩ := inside key i held
    rw [withInstance_of_held home held]
    exact instance?_putPool_drop home i.key place other

/-! ## Failures -/

/-- An operation either succeeds or leaves the registry as it was. -/
def AllOrNothing {ε α : Type} (r : Registry) (outcome : Registry × Except ε α) : Prop :=
  ∀ error, outcome.2 = .error error → outcome.1 = r

theorem allOrNothing_error {ε α : Type} (r : Registry) (error : ε) :
    r.AllOrNothing (r, (.error error : Except ε α)) :=
  fun _ _ => rfl

theorem allOrNothing_ok {ε α : Type} (r after : Registry) (answer : α) :
    r.AllOrNothing (after, (.ok answer : Except ε α)) :=
  fun _ failed => nomatch failed

theorem withInstance_allOrNothing {α : Type} {template : TemplateId} {key : InstanceKey}
    {act : Pool → Instance → Registry × Except RegistryError α}
    (each : ∀ pool i, r.AllOrNothing (act pool i)) :
    r.AllOrNothing (r.withInstance template key act) := by
  simp only [withInstance]
  split
  · exact r.allOrNothing_error _
  · split
    · exact r.allOrNothing_error _
    · exact each _ _

theorem create_allOrNothing (r : Registry) (now : Instant) (fresh : InstanceId)
    (template : TemplateId) (key : InstanceKey) (lifetime : Duration) (originArea : AreaId) :
    r.AllOrNothing (r.create now fresh template key lifetime originArea) := by
  simp only [create]
  split
  · exact r.allOrNothing_error _
  · split
    · exact r.allOrNothing_error _
    · split
      · exact r.allOrNothing_error _
      · exact r.allOrNothing_ok _ _

theorem release_allOrNothing (r : Registry) (now : Instant) (template : TemplateId)
    (key : InstanceKey) (reason : ReleaseReason) :
    r.AllOrNothing (r.release now template key reason) :=
  withInstance_allOrNothing fun _ _ => r.allOrNothing_ok _ _

theorem addOccupants_allOrNothing (r : Registry) (now : Instant) (template : TemplateId)
    (key : InstanceKey) (players : List PlayerId) :
    r.AllOrNothing (r.addOccupants now template key players) := by
  refine withInstance_allOrNothing fun pool i => ?_
  dsimp only
  split
  · exact r.allOrNothing_ok _ _
  · exact r.allOrNothing_error _

theorem removeOccupant_allOrNothing (r : Registry) (now : Instant) (template : TemplateId)
    (key : InstanceKey) (player : PlayerId) :
    r.AllOrNothing (r.removeOccupant now template key player) := by
  refine withInstance_allOrNothing fun pool i => ?_
  dsimp only
  split
  · split <;> exact r.allOrNothing_ok _ _
  · exact r.allOrNothing_ok _ _

theorem leave_allOrNothing (r : Registry) (now : Instant) (handle : Handle) (player : PlayerId) :
    r.AllOrNothing (r.leave now handle player) := by
  simp only [leave]
  split
  · exact r.allOrNothing_error _
  · split
    · exact r.removeOccupant_allOrNothing now handle.template handle.key player
    · exact r.allOrNothing_error _

end Registry

end InstancedAreas
