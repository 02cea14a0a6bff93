import InstancedAreas.Proofs.Admission.Refusal

/-! How requests are granted. A request that is not refused puts its group into
the live instance at its place, or into one that is opened there for it; the
answer names that instance. A gate grants a request in the same way for its own
template, or lets the group through to an area. -/
namespace InstancedAreas

/-- How a request is granted: what the registry becomes, and the answer. -/
inductive Granted (r : Registry) (now : Instant) (fresh : InstanceId) (request : Request) :
    Registry → Admitted → Prop where
  /-- The group joins the live instance at its place. -/
  | joins (pool : Pool) (i : Instance) (home : r.pool? pool.template.id = some pool)
      (target : request.template = pool.template.id)
      (leads : pool.template.isExclusive = true → request.Leads)
      (placed : pool.place now request = .ok ⟨i.key, true⟩)
      (held : pool.instances.find? i.key = some i) (ahead : now < i.expiresAt)
      (room : i.HasRoom request.members pool.template.occupantLimit) :
      Granted r now fresh request (r.joined now pool i request.group)
        ⟨pool.template.destination, pool.template.spawnPoint, request.group,
          some { i with occupants := i.occupants.insertAll request.group }, false⟩
  /-- An instance is opened for the group at its place. -/
  | opens (pool : Pool) (key : InstanceKey) (deadline : Instant) (born : Instance)
      (home : r.pool? pool.template.id = some pool)
      (target : request.template = pool.template.id)
      (leads : pool.template.isExclusive = true → request.Leads)
      (placed : pool.place now request = .ok ⟨key, false⟩)
      (free : pool.instances.find? key = none)
      (ends : now.after? (request.lifetime pool.template) = some deadline)
      (fits : request.Fits pool.template.occupantLimit)
      (new : born = Registry.newborn pool now fresh key deadline
        (request.returnTo pool.template)) :
      Granted r now fresh request ((r.opened now pool born).joined now (pool.put born) born
          request.group)
        ⟨pool.template.destination, pool.template.spawnPoint, request.group,
          some { born with occupants := born.occupants.insertAll request.group }, true⟩

/-- What place a request has. -/
inductive Pool.Placed (pool : Pool) (now : Instant) (request : Request) :
    Except AdmissionError Placement → Prop where
  /-- A free one. Where instances belong to parties it is that of the party, or of the
  player without one. -/
  | free (key : InstanceKey)
      (own : pool.template.isExclusive = true → key = request.ownKey)
      (free : pool.instances.find? key = none) : Placed pool now request (.ok ⟨key, false⟩)
  /-- That of an instance before its deadline. -/
  | live (key : InstanceKey) (i : Instance)
      (own : pool.template.isExclusive = true → key = request.ownKey)
      (held : pool.instances.find? key = some i) (ahead : now < i.expiresAt) :
      Placed pool now request (.ok ⟨key, true⟩)
  /-- None, because all instances are in use. -/
  | nowhere : Placed pool now request (.error (.instancesFull pool.template.id))

namespace Pool

variable {pool : Pool} {now : Instant} {request : Request} {key : InstanceKey}

theorem placed (pool : Pool) (now : Instant) (request : Request) :
    pool.Placed now request (pool.place now request) := by
  cases kind : pool.template.kind with
  | exclusive most =>
    simp only [place, kind, placeExclusive_eq]
    cases held : pool.instances.find? request.ownKey with
    | none => exact .free request.ownKey (fun _ => rfl) held
    | some i =>
      rw [Option.elim_some]
      split
      · exact .nowhere
      · rename_i ahead
        exact .live request.ownKey i (fun _ => rfl) held (Int.not_le.mp ahead)
  | pooled capacity perSlot =>
    have shared (slot : UInt32) (exclusive : pool.template.isExclusive = true) :
        InstanceKey.slot slot = request.ownKey := by
      simp [Template.isExclusive, kind] at exclusive
    simp only [place, kind]
    rcases pool.placePooled_cases kind now request with
      ⟨-, full⟩ | ⟨slot, live, least, found, state⟩
    · rw [full]
      exact .nowhere
    · rw [found]
      rcases state with ⟨rfl, free⟩ | ⟨rfl, i, held⟩
      · exact .free (.slot slot) (shared slot) free
      · exact .live (.slot slot) i (shared slot) held (least.1.2 i held).1

/-- In a template of parties the place is under the key of the request's party,
or of its player. -/
theorem place_own (exclusive : pool.template.isExclusive = true) {live : Bool}
    (found : pool.place now request = .ok ⟨key, live⟩) : key = request.ownKey := by
  have placed := pool.placed now request
  rw [found] at placed
  cases placed with
  | free _ own => exact own exclusive
  | live _ i own => exact own exclusive

end Pool

/-- Only groups that an instance can hold are let in. -/
theorem Granted.fits {r s : Registry} {now : Instant} {fresh : InstanceId} {request : Request}
    {a : Admitted} (granted : Granted r now fresh request s a) {t : Template}
    (home : r.template? request.template = some t) : request.Fits t.occupantLimit := by
  have same {pool : Pool} (known : r.pool? pool.template.id = some pool)
      (target : request.template = pool.template.id) : pool.template = t := by
    rw [target, Registry.template?, known] at home
    exact Option.some.inj home
  cases granted with
  | joins pool i known target leads placed held ahead room =>
    rw [← same known target]
    intro most limit
    exact Nat.le_trans (Finset.card_le_card Finset.subset_union_right) (room most limit)
  | opens pool key deadline born known target leads placed free ends fits =>
    rw [← same known target]
    exact fits

/-- The instance that a granted request names is at the place of the request. -/
theorem Granted.placed {r s : Registry} {now : Instant} {fresh : InstanceId} {request : Request}
    {a : Admitted} (granted : Granted r now fresh request s a) (keyed : r.Keyed) {i : Instance}
    (named : a.instance? = some i) :
    ∃ pool live, r.pool? i.template = some pool ∧ pool.place now request = .ok ⟨i.key, live⟩ := by
  cases granted with
  | joins pool j home target leads placed held ahead room =>
    cases named
    obtain ⟨owner, -⟩ := (keyed _ pool home).2 j.key j held
    exact ⟨pool, true, owner ▸ home, placed⟩
  | opens pool key deadline born home target leads placed free ends fits new =>
    cases named
    rw [new]
    exact ⟨pool, false, home, placed⟩

namespace Registry

variable {r : Registry}

/-- A request is refused for a reason, and then nothing changes, or it is granted. -/
theorem Keyed.enter_cases (keyed : r.Keyed) (now : Instant) (fresh : InstanceId)
    (request : Request) :
    (∃ error, r.enter now fresh request = (r, .error error) ∧ Refused r now request error) ∨
      ∃ s a, r.enter now fresh request = (s, .ok a) ∧ Granted r now fresh request s a := by
  cases home : r.pool? request.template with
  | none =>
    have barred : Barred (r.template? request.template) now request
        (.unknownTemplate request.template) := by
      rw [template?, home]
      exact .unknown rfl
    exact .inl ⟨_, enter_of_barred barred fresh, .barred barred⟩
  | some pool =>
    obtain ⟨target, -⟩ := keyed _ pool home
    have homeOwn := keyed.home home
    have known : r.template? request.template = some pool.template := by
      rw [template?, home]
      rfl
    -- What stands against it is tested first, then the place, and then the room there.
    rcases request.admissible_or_barred now known with admissible | ⟨error, barred⟩
    · have leads := admissible.leads
      have lasting := admissible.lasting
      have allowed := Request.allowed_of_leads leads
      obtain ⟨deadline, ends⟩ := Option.ne_none_iff_exists'.mp admissible.ends
      have placing := pool.placed now request
      generalize placed : pool.place now request = outcome at placing
      cases placing with
      | nowhere =>
        exact .inl ⟨_, enter_of_no_place home allowed lasting ends fresh placed,
          .full pool home admissible placed⟩
      | free key own free =>
        have taken := enter_of_placed home allowed lasting ends fresh placed
        by_cases fits : request.Fits pool.template.occupantLimit
        · exact .inr ⟨_, _, taken.trans (occupy_of_free fresh homeOwn free ends fits),
            .opens pool key deadline _ homeOwn target.symm leads placed free ends fits rfl⟩
        · exact .inl ⟨_, taken.trans (occupy_of_excess key fits),
            .excess pool key home admissible placed fits⟩
      | live key i own held ahead =>
        obtain rfl : i.key = key := ((keyed _ pool home).2 key i held).2
        have taken := enter_of_placed home allowed lasting ends fresh placed
        by_cases room : i.HasRoom request.members pool.template.occupantLimit
        · exact .inr ⟨_, _, taken.trans (occupy_of_room homeOwn held room),
            .joins pool i homeOwn target.symm leads placed held ahead room⟩
        · exact .inl ⟨_, taken.trans (occupy_of_crowd keyed homeOwn held room),
            .crowded pool i home admissible placed held room⟩
    · exact .inl ⟨error, enter_of_barred barred fresh, .barred barred⟩

end Registry

/-- A request is let in at a place: nothing stands against it, the place is its own, and
there is room for its group, whether an instance is live there or is to be opened. -/
structure Pool.Takes (pool : Pool) (now : Instant) (request : Request) (placement : Placement) :
    Prop where
  admissible : request.Admissible now pool.template
  placed : pool.place now request = .ok placement
  fits : request.Fits pool.template.occupantLimit
  room : ∀ i, pool.instances.find? placement.key = some i →
    i.HasRoom request.members pool.template.occupantLimit

namespace Registry

variable {r : Registry} {pool : Pool} {now : Instant} {fresh : InstanceId} {request : Request}

/-- A request that is let in at a place is granted there. -/
theorem Keyed.enter_of_takes (keyed : r.Keyed) {placement : Placement}
    (takes : pool.Takes now request placement) (home : r.pool? request.template = some pool)
    (fresh : InstanceId) :
    ∃ a i, (r.enter now fresh request).2 = .ok a ∧ a.instance? = some i ∧
      i.key = placement.key ∧ a.created = !placement.live := by
  obtain ⟨admissible, placed, fits, room⟩ := takes
  rw [enter_of_admissible home admissible placed fresh]
  have placing := pool.placed now request
  rw [placed] at placing
  cases placing with
  | free key own free =>
    obtain ⟨deadline, ends⟩ := Option.ne_none_iff_exists'.mp admissible.ends
    rw [occupy_of_free fresh (keyed.home home) free ends fits]
    exact ⟨_, _, rfl, rfl, rfl, rfl⟩
  | live key i own held ahead =>
    obtain rfl : i.key = key := ((keyed _ pool home).2 key i held).2
    rw [occupy_of_room (keyed.home home) held (room i held)]
    exact ⟨_, _, rfl, rfl, rfl, rfl⟩

/-- A request that is granted is let in at the place of the instance that is named. -/
theorem Keyed.takes_of_granted (keyed : r.Keyed) {a : Admitted}
    (granted : (r.enter now fresh request).2 = .ok a) :
    ∃ pool i, r.pool? request.template = some pool ∧ a.instance? = some i ∧
      pool.Takes now request ⟨i.key, !a.created⟩ := by
  rcases keyed.enter_cases now fresh request with ⟨error, refused, -⟩ | ⟨s, b, taken, how⟩
  · rw [refused] at granted
    cases granted
  · have admissible {t : Template} (known : r.template? request.template = some t) :=
      admissible_of_granted known granted
    rw [taken] at granted
    cases granted
    have fits {t : Template} (known : r.template? request.template = some t) := how.fits known
    have known {pool : Pool} (home : r.pool? pool.template.id = some pool)
        (target : request.template = pool.template.id) :
        r.template? request.template = some pool.template := by
      rw [template?, target, home]
      rfl
    cases how with
    | joins pool i home target leads placed held ahead room =>
      refine ⟨pool, _, target ▸ home, rfl, admissible (known home target), placed,
        fits (known home target), fun j found => ?_⟩
      cases held.symm.trans found
      exact room
    | opens pool key deadline born home target leads placed free ends within new =>
      have own : born.key = key := by rw [new, newborn]
      refine ⟨pool, _, target ▸ home, rfl, admissible (known home target), own ▸ placed, within,
        fun j found => ?_⟩
      cases (own ▸ free).symm.trans found

end Registry

/-- A gate refuses a request, lets its group through to an area, or admits it to
the gate's own template. Only the last can change anything. -/
theorem Gate.pass_cases (policies : Gate.Policies) (source : Gate.Source) (r : Registry)
    (now : Instant) (fresh : InstanceId) (gate : String) (request : Request) :
    (∃ error, Gate.pass policies source r now fresh gate request = (r, .error error)) ∨
      (∃ area spawnPoint, Gate.pass policies source r now fresh gate request =
        (r, .ok ⟨area, spawnPoint, request.group, none, false⟩)) ∨
      ∃ template, Gate.pass policies source r now fresh gate request =
        r.enter now fresh (request.retarget template) := by
  simp only [pass]
  split
  · exact .inl ⟨_, rfl⟩
  · split
    · exact .inl ⟨_, rfl⟩
    · exact .inl ⟨_, rfl⟩
    · exact .inr (.inl ⟨_, _, rfl⟩)
    · exact .inr (.inr ⟨_, rfl⟩)

end InstancedAreas
