import InstancedAreas.Admission
import InstancedAreas.Proofs.Registry.Lookup
import InstancedAreas.Sweep
import InstancedAreas.Teardown.Lemmas

/-! What an operation does to a registry. It opens at most one instance, and
then changes or ends at most one. Each kind of change is stated once, with all
that is known where it happens; invariants are proved of the kinds. Taking
teardowns off the queue and putting them back is left to sweeps. -/
namespace InstancedAreas

/-- The registry with an instance opened in a pool and its teardown scheduled. -/
def Registry.opened (r : Registry) (now : Instant) (pool : Pool) (i : Instance) : Registry :=
  ((r.schedule (.of i)).announce (.of i now
    (.created pool.template.destination i.expiresAt))).putPool (pool.put i)

/-- The registry after the occupants of an instance are evicted and it ends. -/
def Registry.expired (r : Registry) (now : Instant) (pool : Pool) (i : Instance) : Registry :=
  ({ r with feed := r.feed.publishAll (i.occupants.players.map fun player =>
      Event.of i now (.evicted player i.originArea)) } : Registry).conclude now pool i .expired

/-- An empty instance is opened under a free key. Which instances may be opened
for a template depends on the operation. -/
inductive Opening (opens : Template → Instance → Prop) (now : Instant) (r : Registry) :
    Registry → Prop where
  | intro (pool : Pool) (i : Instance) (home : r.pool? pool.template.id = some pool)
      (free : pool.instances.find? i.key = none) (owner : i.template = pool.template.id)
      (empty : i.occupants = .empty) (allowed : opens pool.template i) :
      Opening opens now r (r.opened now pool i)

/-- A live instance is changed or ended. -/
inductive Change (now : Instant) (r : Registry) : Registry → Prop where
  /-- A group that there is room for enters, and somebody is new. -/
  | joined (pool : Pool) (i : Instance) (players : List PlayerId)
      (home : r.pool? pool.template.id = some pool)
      (held : pool.instances.find? i.key = some i)
      (room : i.hasRoomFor players pool.template.occupantLimit = true)
      (fresh : (i.occupants.enterAll players).2.isEmpty = false) :
      Change now r ((r.putPool (pool.put
        { i with occupants := (i.occupants.enterAll players).1 })).announce
          (.of i now (.admitted (i.occupants.enterAll players).2)))
  /-- A group whose members are all inside enters. -/
  | rejoined (pool : Pool) (i : Instance) (players : List PlayerId)
      (home : r.pool? pool.template.id = some pool)
      (held : pool.instances.find? i.key = some i)
      (room : i.hasRoomFor players pool.template.occupantLimit = true)
      (stale : (i.occupants.enterAll players).2.isEmpty = true) :
      Change now r (r.putPool (pool.put
        { i with occupants := (i.occupants.enterAll players).1 }))
  /-- A player leaves, and the instance stays. -/
  | left (pool : Pool) (i : Instance) (player : PlayerId)
      (home : r.pool? pool.template.id = some pool)
      (held : pool.instances.find? i.key = some i)
      (inside : i.occupants.contains player = true)
      (stays : (i.occupants.erase player).isEmpty = true → pool.template.release = .onExpiry) :
      Change now r (r.putPool (pool.put { i with occupants := i.occupants.erase player }))
  /-- The last player leaves, and the instance goes. -/
  | emptied (pool : Pool) (i : Instance) (player : PlayerId)
      (home : r.pool? pool.template.id = some pool)
      (held : pool.instances.find? i.key = some i)
      (inside : i.occupants.contains player = true)
      (last : (i.occupants.erase player).isEmpty = true)
      (policy : pool.template.release = .whenEmpty) :
      Change now r (r.conclude now pool { i with occupants := i.occupants.erase player } .emptied)
  /-- An instance is released on request. -/
  | released (pool : Pool) (i : Instance) (reason : ReleaseReason)
      (home : r.pool? pool.template.id = some pool)
      (held : pool.instances.find? i.key = some i) :
      Change now r (r.conclude now pool i reason)
  /-- An instance whose deadline has passed ends. -/
  | expired (pool : Pool) (i : Instance) (home : r.pool? pool.template.id = some pool)
      (held : pool.instances.find? i.key = some i) (due : i.expiresAt ≤ now) :
      Change now r (r.expired now pool i)

/-- What an operation does: it opens at most one instance and then changes at
most one. -/
def Effect (opens : Template → Instance → Prop) (now : Instant) (r s : Registry) : Prop :=
  ∃ middle, (middle = r ∨ Opening opens now r middle) ∧ (s = middle ∨ Change now middle s)

variable {opens : Template → Instance → Prop} {now : Instant} {r s : Registry}

theorem Effect.refl (r : Registry) : Effect opens now r r := ⟨r, .inl rfl, .inl rfl⟩

theorem Effect.of_change (change : s = r ∨ Change now r s) : Effect opens now r s :=
  ⟨r, .inl rfl, change⟩

/-! ## Pools -/

/-- A property of pools that every change of a pool keeps: opening an empty
instance, letting a group in that there is room for, letting a player out, and
freeing a key. -/
structure Pool.Stable (opens : Template → Instance → Prop) (P : Pool → Prop) : Prop where
  opened : ∀ pool i, P pool → pool.instances.find? i.key = none → i.template = pool.template.id →
    i.occupants = .empty → opens pool.template i → P (pool.put i)
  joined : ∀ pool i players, P pool → pool.instances.find? i.key = some i →
    i.hasRoomFor players pool.template.occupantLimit = true →
      P (pool.put { i with occupants := (i.occupants.enterAll players).1 })
  left : ∀ pool i player, P pool → pool.instances.find? i.key = some i →
    P (pool.put { i with occupants := i.occupants.erase player })
  dropped : ∀ pool key, P pool → P (pool.drop key)

theorem Opening.all {P : Pool → Prop} (stable : Pool.Stable opens P)
    (opening : Opening opens now r s) (all : r.All P) : s.All P := by
  obtain ⟨pool, i, home, free, owner, empty, allowed⟩ := opening
  have before : ((r.schedule (.of i)).announce (.of i now
      (.created pool.template.destination i.expiresAt))).All P := all
  exact before.putPool (stable.opened pool i (all _ _ home).2 free owner empty allowed)

/-- What every change of a pool keeps, every change of the registry keeps. -/
theorem Change.all {P : Pool → Prop} (stable : Pool.Stable opens P) (change : Change now r s)
    (all : r.All P) : s.All P := by
  cases change with
  | joined pool i players home held room _ | rejoined pool i players home held room _ =>
    exact all.putPool (stable.joined pool i players (all _ _ home).2 held room)
  | left pool i player home held _ _ =>
    exact all.putPool (stable.left pool i player (all _ _ home).2 held)
  | emptied pool i _ home _ _ _ _ | released pool i _ home _ =>
    exact all.putPool (stable.dropped pool i.key (all _ _ home).2)
  | expired pool i home _ _ =>
    have before : ({ r with feed := r.feed.publishAll (i.occupants.players.map fun player =>
        Event.of i now (.evicted player i.originArea)) } : Registry).All P := all
    exact before.putPool (stable.dropped pool i.key (all _ _ home).2)

theorem Pool.keyed_stable : Pool.Stable opens Pool.Keyed where
  opened _ _ keyed _ owner _ _ := keyed.put owner
  joined _ i _ keyed held _ := keyed.put (keyed i.key i held).1
  left _ i _ keyed held := keyed.put (keyed i.key i held).1
  dropped _ key keyed := keyed.drop key

theorem Opening.keyed (opening : Opening opens now r s) (keyed : r.Keyed) : s.Keyed :=
  opening.all Pool.keyed_stable keyed

theorem Change.keyed (change : Change now r s) (keyed : r.Keyed) : s.Keyed :=
  change.all (Pool.keyed_stable : Pool.Stable (fun _ _ => False) _) keyed

/-- What opening and changing preserve in keyed registries, an operation
preserves. -/
theorem Effect.preserve {I : Registry → Prop}
    (opening : ∀ {s}, Opening opens now r s → I r → I s)
    (change : ∀ {r s}, r.Keyed → Change now r s → I r → I s)
    (effect : Effect opens now r s) (keyed : r.Keyed) (holds : I r) : I s := by
  obtain ⟨middle, rfl | opened, rfl | changed⟩ := effect
  · exact holds
  · exact change keyed changed holds
  · exact opening opened holds
  · exact change (opened.keyed keyed) changed (opening opened holds)

/-! ## What is found -/

/-- Opening an instance adds it and its teardown, and leaves all else. -/
theorem Opening.found (opening : Opening opens now r s) :
    ∃ t i, opens t i ∧ i.occupants = .empty ∧ r.instance? i.template i.key = none ∧
      s.queue.pending.Perm (.of i :: r.queue.pending) ∧
      ∀ template key, s.instance? template key =
        if template = i.template ∧ key = i.key then some i else r.instance? template key := by
  obtain ⟨pool, i, home, free, owner, empty, allowed⟩ := opening
  refine ⟨pool.template, i, allowed, empty, ?_, r.queue.pending_schedule (.of i), ?_⟩
  · rw [owner, Registry.instance?, home]
    exact free
  · intro template key
    rw [owner]
    exact Registry.instance?_putPool_put home i template key

/-- What is found after a change was found before, with the same terms and
perhaps other occupants. -/
theorem Change.found (change : Change now r s) {template : TemplateId}
    {key : InstanceKey} {j : Instance} (found : s.instance? template key = some j) :
    ∃ i, r.instance? template key = some i ∧ j = { i with occupants := j.occupants } := by
  have put {pool : Pool} {i : Instance} {occupants : Occupants}
      (home : r.pool? pool.template.id = some pool)
      (held : pool.instances.find? i.key = some i)
      (found : (r.putPool (pool.put { i with occupants })).instance? template key = some j) :
      ∃ i, r.instance? template key = some i ∧ j = { i with occupants := j.occupants } := by
    rw [Registry.instance?_putPool_put home] at found
    by_cases here : template = pool.template.id ∧ key = i.key
    · rw [if_pos here] at found
      cases found
      obtain ⟨rfl, rfl⟩ := here
      exact ⟨i, Registry.instance?_eq_some_iff.mpr ⟨pool, home, held⟩, rfl⟩
    · rw [if_neg here] at found
      exact ⟨j, found, rfl⟩
  have drop {pool : Pool} {freed : InstanceKey}
      (home : r.pool? pool.template.id = some pool)
      (found : (r.putPool (pool.drop freed)).instance? template key = some j) :
      ∃ i, r.instance? template key = some i ∧ j = { i with occupants := j.occupants } := by
    rw [Registry.instance?_putPool_drop home] at found
    split at found
    · cases found
    · exact ⟨j, found, rfl⟩
  cases change with
  | joined pool i _ home held _ _ | rejoined pool i _ home held _ _ => exact put home held found
  | left pool i _ home held _ _ => exact put home held found
  | emptied _ _ _ home | released _ _ _ home => exact drop home found
  | expired _ _ home => exact drop home found

/-- A change leaves the queue alone. -/
theorem Change.queue_eq (change : Change now r s) : s.queue = r.queue := by
  cases change <;> rfl

/-! ## Operations -/

namespace Registry

/-- Creating an instance opens it, or fails and changes nothing. -/
theorem create_cases (opens : Template → Instance → Prop) (keyed : r.Keyed) (now : Instant)
    (fresh : InstanceId) (template : TemplateId) (key : InstanceKey) (lifetime : Duration)
    (originArea : AreaId)
    (allowed : ∀ pool i, r.pool? template = some pool → i.id = fresh → i.key = key →
      opens pool.template i) :
    (∃ error, r.create now fresh template key lifetime originArea = (r, .error error)) ∨
      ∃ after i, r.create now fresh template key lifetime originArea = (after, .ok i) ∧
        Opening opens now r after := by
  simp only [create]
  split
  · exact .inl ⟨_, rfl⟩
  · rename_i pool home
    split
    · exact .inl ⟨_, rfl⟩
    · rename_i absent
      split
      · exact .inl ⟨_, rfl⟩
      · have free : pool.instances.find? key = none := by
          simpa [Table.contains] using absent
        obtain rfl : pool.template.id = template := (keyed template pool home).1
        exact .inr ⟨_, _, rfl, .intro pool _ home free rfl rfl (allowed pool _ home rfl rfl)⟩

/-- An operation on a live instance finds it, or fails and changes nothing. -/
theorem withInstance_cases {α : Type} (keyed : r.Keyed) (template : TemplateId)
    (key : InstanceKey) (act : Pool → Instance → Registry × Except RegistryError α) :
    (∃ error, r.withInstance template key act = (r, .error error)) ∨
      ∃ pool i, r.pool? pool.template.id = some pool ∧ pool.instances.find? i.key = some i ∧
        r.withInstance template key act = act pool i := by
  simp only [withInstance]
  split
  · exact .inl ⟨_, rfl⟩
  · rename_i pool home
    split
    · exact .inl ⟨_, rfl⟩
    · rename_i i held
      obtain rfl : i.key = key := ((keyed template pool home).2 key i held).2
      exact .inr ⟨pool, i, keyed.home home, held, rfl⟩

/-- Releasing changes nothing but by one change. -/
theorem release_change (keyed : r.Keyed) (now : Instant) (template : TemplateId)
    (key : InstanceKey) (reason : ReleaseReason) :
    (r.release now template key reason).1 = r ∨
      Change now r (r.release now template key reason).1 := by
  unfold release
  rcases withInstance_cases keyed template key _ with ⟨error, same⟩ | ⟨pool, i, home, held, same⟩
  · exact .inl (by rw [same])
  · rw [same]
    exact .inr (.released pool i reason home held)

theorem addOccupants_change (keyed : r.Keyed) (now : Instant) (template : TemplateId)
    (key : InstanceKey) (players : List PlayerId) :
    (r.addOccupants now template key players).1 = r ∨
      Change now r (r.addOccupants now template key players).1 := by
  unfold addOccupants
  rcases withInstance_cases keyed template key _ with ⟨error, same⟩ | ⟨pool, i, home, held, same⟩
  · exact .inl (by rw [same])
  · rw [same]
    dsimp only
    split
    · rename_i room
      refine .inr ?_
      split
      · rename_i stale
        exact .rejoined pool i players home held room stale
      · rename_i fresh
        exact .joined pool i players home held room (by simpa using fresh)
    · exact .inl rfl

theorem removeOccupant_change (keyed : r.Keyed) (now : Instant) (template : TemplateId)
    (key : InstanceKey) (player : PlayerId) :
    (r.removeOccupant now template key player).1 = r ∨
      Change now r (r.removeOccupant now template key player).1 := by
  unfold removeOccupant
  rcases withInstance_cases keyed template key _ with ⟨error, same⟩ | ⟨pool, i, home, held, same⟩
  · exact .inl (by rw [same])
  · rw [same]
    dsimp only
    split
    · rename_i inside
      refine .inr ?_
      split
      · rename_i gone
        exact .emptied pool i player home held inside gone.1 gone.2
      · rename_i stays
        refine .left pool i player home held inside fun last => ?_
        cases policy : pool.template.release with
        | onExpiry => rfl
        | whenEmpty => exact absurd ⟨last, policy⟩ stays
    · exact .inl rfl

theorem leave_change (keyed : r.Keyed) (now : Instant) (handle : Handle) (player : PlayerId) :
    (r.leave now handle player).1 = r ∨ Change now r (r.leave now handle player).1 := by
  simp only [leave]
  split
  · exact .inl rfl
  · split
    · exact removeOccupant_change keyed now handle.template handle.key player
    · exact .inl rfl

end Registry

end InstancedAreas
