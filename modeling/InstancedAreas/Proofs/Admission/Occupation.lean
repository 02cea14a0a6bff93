import InstancedAreas.Proofs.Admission.Group
import InstancedAreas.Proofs.Registry.Answer

/-! How a group takes its place. Where an instance is live, the group joins it
if there is room; where none is, one is created for the group unless the group
alone is too large. What is created takes the group in for certain, so nothing
is ever created in vain. -/
namespace InstancedAreas

/-- Where the occupants of an instance that a request creates return to. -/
def Request.returnTo (request : Request) (t : Template) : AreaId :=
  match request.originOverride, t.returnArea with
  | some area, _ => area
  | none, some area => area
  | none, none => request.currentArea

theorem Request.returnTo_eq (request : Request) (t : Template) :
    (request.originOverride <|> t.returnArea).getD request.currentArea = request.returnTo t := by
  cases override : request.originOverride <;> cases area : t.returnArea <;>
    simp [returnTo, override, area]

/-- The lifetime of an instance that a request creates. -/
def Request.lifetime (request : Request) (t : Template) : Duration :=
  request.lifetimeOverride.getD t.lifetime

/-- What admission leaves and answers. -/
abbrev Entry := Registry × Except AdmissionError Admitted

/-- A request is granted: its group is in the instance under a key, and no other
place has changed. -/
structure Entry.Grants (entry : Entry) (before : Registry) (t : Template) (request : Request)
    (key : InstanceKey) (i : Instance) (created : Bool) : Prop where
  answer : entry.2 = .ok ⟨t.destination, t.spawnPoint, request.group, some i, created⟩
  places : ∀ template place, entry.1.instance? template place =
    if template = t.id ∧ place = key then some i else before.instance? template place

/-- The group of a request joins the instance under a key, of which only the
occupants change. -/
def Entry.Joins (entry : Entry) (before : Registry) (t : Template) (request : Request)
    (key : InstanceKey) (i : Instance) : Prop :=
  ∃ joined : Instance, entry.Grants before t request key joined false ∧
    joined = { i with occupants := joined.occupants } ∧
    joined.occupants.players.toFinset = i.occupants.players.toFinset ∪ request.members

/-- The group of a request, and nobody else, is in an instance that was created
for it under a key. -/
def Entry.Opens (entry : Entry) (before : Registry) (t : Template) (request : Request)
    (now : Instant) (fresh : InstanceId) (key : InstanceKey) (deadline : Instant) : Prop :=
  ∃ born : Instance, entry.Grants before t request key born true ∧
    born = ⟨fresh, t.id, key, now, deadline, request.returnTo t, born.occupants⟩ ∧
    born.occupants.players.toFinset = request.members

/-- A group is within a limit, where there is one. -/
def Request.Fits (request : Request) (limit : Option UInt32) : Prop :=
  ∀ most, limit = some most → request.members.card ≤ most.toNat

theorem Request.fits_iff {request : Request} {limit : Option UInt32} :
    request.Fits limit ↔ limit.any (·.toNat < request.group.length) = false := by
  cases limit <;> simp [Fits, length_group]

namespace Registry

variable {now : Instant} {fresh : InstanceId} {r : Registry} {pool : Pool} {request : Request}
  {lifetime : Duration} {placement : Placement}

theorem occupy_of_room {i : Instance} (home : r.pool? pool.template.id = some pool)
    (held : pool.instances.find? i.key = some i)
    (room : i.HasRoom request.members pool.template.occupantLimit) :
    r.occupy now fresh pool.template request lifetime ⟨i.key, true⟩ =
      (r.joined now pool i request.group,
        .ok ⟨pool.template.destination, pool.template.spawnPoint, request.group,
          some { i with occupants := i.occupants.insertAll request.group }, false⟩) := by
  rw [← Request.toFinset_group] at room
  have joins := addOccupants_of_room now home held room
  simp [occupy, joins]

/-- A group that there is room for joins the live instance. -/
theorem occupy_joins {key : InstanceKey} {i : Instance} (keyed : r.Keyed)
    (home : r.pool? pool.template.id = some pool) (held : pool.instances.find? key = some i)
    (room : i.HasRoom request.members pool.template.occupantLimit) :
    Entry.Joins (r.occupy now fresh pool.template request lifetime ⟨key, true⟩) r pool.template
      request key i := by
  obtain rfl : i.key = key := ((keyed _ pool home).2 key i held).2
  rw [occupy_of_room home held room]
  refine ⟨{ i with occupants := i.occupants.insertAll request.group },
    ⟨rfl, instance?_joined home request.group⟩, rfl, ?_⟩
  rw [Occupants.toFinset_insertAll, Request.toFinset_group]

/-- A group that there is no room for is turned away from the live instance. -/
theorem occupy_of_crowd {key : InstanceKey} {i : Instance} (keyed : r.Keyed)
    (home : r.pool? pool.template.id = some pool) (held : pool.instances.find? key = some i)
    (crowd : ¬ i.HasRoom request.members pool.template.occupantLimit) :
    r.occupy now fresh pool.template request lifetime ⟨key, true⟩ =
      (r, .error (.capacityExceeded pool.template.id key)) := by
  obtain rfl : i.key = key := ((keyed _ pool home).2 key i held).2
  rw [← Request.toFinset_group] at crowd
  obtain ⟨most, -, full⟩ := addOccupants_of_crowd now home held crowd
  simp [occupy, full, AdmissionError.ofRegistry]

/-- An instance that was just opened takes in every group that is within the
limit. -/
theorem addOccupants_opened (r : Registry) (now : Instant) (fresh : InstanceId)
    (key : InstanceKey) (deadline : Instant) (originArea : AreaId)
    (fits : request.Fits pool.template.occupantLimit) :
    let born := newborn pool now fresh key deadline originArea
    (r.opened now pool born).addOccupants now pool.template.id key request.group =
      ((r.opened now pool born).joined now (pool.put born) born request.group,
        .ok { born with occupants := born.occupants.insertAll request.group }) := by
  intro born
  have home := r.pool?_opened now pool born
  have held : (pool.put born).instances.find? born.key = some born := by simp [Pool.find?_put]
  refine addOccupants_of_room now home held ?_
  rw [Request.toFinset_group]
  exact (Instance.hasRoom_of_empty rfl).mpr fits

/-- A group that is too large for any instance is turned away at a free key. -/
theorem occupy_of_excess (key : InstanceKey) (excess : ¬ request.Fits pool.template.occupantLimit) :
    r.occupy now fresh pool.template request lifetime ⟨key, false⟩ =
      (r, .error (.capacityExceeded pool.template.id key)) := by
  rw [Request.fits_iff, Bool.not_eq_false] at excess
  simp [occupy, excess]

theorem occupy_of_free (fresh : InstanceId) (home : r.pool? pool.template.id = some pool)
    {key : InstanceKey} (free : pool.instances.find? key = none) {deadline : Instant}
    (ends : now.after? lifetime = some deadline)
    (fits : request.Fits pool.template.occupantLimit) :
    let born := newborn pool now fresh key deadline (request.returnTo pool.template)
    r.occupy now fresh pool.template request lifetime ⟨key, false⟩ =
      ((r.opened now pool born).joined now (pool.put born) born request.group,
        .ok ⟨pool.template.destination, pool.template.spawnPoint, request.group,
          some { born with occupants := born.occupants.insertAll request.group }, true⟩) := by
  have created := create_of_free home free ends fresh (request.returnTo pool.template)
  have entered :=
    addOccupants_opened r now fresh key deadline (request.returnTo pool.template) fits
  simp only [occupy, Request.fits_iff.mp fits, request.returnTo_eq, created, entered,
    Bool.false_eq_true, if_false, Bool.not_false]

/-- At a free key an instance is created for a group that is not too large. -/
theorem occupy_opens (home : r.pool? pool.template.id = some pool) {key : InstanceKey}
    (free : pool.instances.find? key = none) {deadline : Instant}
    (ends : now.after? lifetime = some deadline)
    (fits : request.Fits pool.template.occupantLimit) :
    Entry.Opens (r.occupy now fresh pool.template request lifetime ⟨key, false⟩) r pool.template
      request now fresh key deadline := by
  rw [occupy_of_free fresh home free ends fits]
  refine ⟨{ newborn pool now fresh key deadline (request.returnTo pool.template) with
    occupants := .insertAll .empty request.group },
    ⟨rfl, instance?_opened_joined home _ request.group⟩, rfl, ?_⟩
  rw [Occupants.toFinset_insertAll, Request.toFinset_group]
  exact Finset.empty_union _

/-! ## Requests that may enter -/

section Enter

variable {deadline : Instant} (home : r.pool? request.template = some pool)
  (allowed : (pool.template.isExclusive && request.party.any (!·.isLeader)) = false)
  (lasting : (request.lifetime pool.template).isZero = false)
  (ends : now.after? (request.lifetime pool.template) = some deadline)

include home allowed lasting ends

theorem enter_of_placed (fresh : InstanceId) (placed : pool.place now request = .ok placement) :
    r.enter now fresh request =
      r.occupy now fresh pool.template request (request.lifetime pool.template) placement := by
  simp only [Request.lifetime] at lasting ends ⊢
  simp only [enter, home, allowed, lasting, ends, placed, Option.isNone_some, Bool.or_self,
    Bool.false_eq_true, if_false]

theorem enter_of_no_place (fresh : InstanceId) {error : AdmissionError}
    (refused : pool.place now request = .error error) :
    r.enter now fresh request = (r, .error error) := by
  simp only [Request.lifetime] at lasting ends
  simp only [enter, home, allowed, lasting, ends, refused, Option.isNone_some, Bool.or_self,
    Bool.false_eq_true, if_false]

end Enter

end Registry

end InstancedAreas
