import InstancedAreas.Proofs.Admission.Grant

/-! Coming again. Who has been admitted is inside, so that to be admitted once more
changes nothing. In a template with slots this needs that the group is placed in the
same slot again: no slot below it has become open since, because the others have only
come closer to their deadlines. -/
namespace InstancedAreas

/-- What admission leaves of a pool: the named instance is at the place of the request,
with the whole group inside, and every other place is as it was. -/
structure Pool.Settled (before after : Pool) (now : Instant) (request : Request) (i : Instance)
    (live : Bool) : Prop where
  template : after.template = before.template
  placed : before.place now request = .ok ⟨i.key, live⟩
  places : ∀ key, after.instances.find? key =
    if key = i.key then some i else before.instances.find? key
  ahead : now < i.expiresAt
  inside : ∀ player ∈ request.group, i.occupants.contains player = true
  room : i.HasRoom request.members after.template.occupantLimit

namespace Pool.Settled

variable {before after : Pool} {now later : Instant} {request : Request} {i : Instance} {live : Bool}

theorem held (settled : Settled before after now request i live) :
    after.instances.find? i.key = some i :=
  (settled.places i.key).trans (if_pos rfl)

/-- The slot in which a group was settled is the least one that is open to it, also later. -/
theorem isLeast (settled : Settled before after now request i live) (forward : now ≤ later)
    (ahead : later < i.expiresAt) {capacity perSlot slot : UInt32}
    (pooled : after.template.kind = .pooled capacity perSlot) (key : i.key = .slot slot)
    (least : IsLeast {index | before.OpenTo now request.members capacity perSlot index} slot) :
    IsLeast {index | after.OpenTo later request.members capacity perSlot index} slot := by
  have limit : after.template.occupantLimit = some perSlot := by
    simp [Template.occupantLimit, pooled]
  refine ⟨⟨least.1.1, fun j found => ?_⟩, fun lower isOpen => ?_⟩
  · rw [← key, settled.held] at found
    cases found
    exact ⟨ahead, settled.room perSlot limit⟩
  · by_cases same : lower = slot
    · exact UInt32.le_of_eq same.symm
    -- Another slot that is open now was so before, when its deadline was further ahead.
    · refine least.2 ⟨isOpen.1, fun j found => ?_⟩
      have other : InstanceKey.slot lower ≠ i.key := by simpa [key] using same
      obtain ⟨further, room⟩ := isOpen.2 j ((settled.places _).trans ((if_neg other).trans found))
      exact ⟨Int.lt_of_le_of_lt forward further, room⟩

/-- Who has been settled is placed there again, as long as the instance has not reached
its deadline. -/
theorem place_again (settled : Settled before after now request i live) (forward : now ≤ later)
    (ahead : later < i.expiresAt) : after.place later request = .ok ⟨i.key, true⟩ := by
  have placed := settled.placed
  cases kind : before.template.kind with
  | exclusive most =>
    have own : i.key = request.ownKey := place_own (by simp [Template.isExclusive, kind]) placed
    simp only [place, settled.template, kind, placeExclusive_eq, ← own, settled.held,
      Option.elim_some]
    exact if_neg (Int.not_le.mpr ahead)
  | pooled capacity perSlot =>
    obtain ⟨slot, least, same⟩ := (place_pooled_iff kind).mp placed
    have key : i.key = .slot slot := congrArg Placement.key same
    have pooled : after.template.kind = .pooled capacity perSlot := settled.template ▸ kind
    refine (place_pooled_iff pooled).mpr ⟨slot, settled.isLeast forward ahead pooled key least, ?_⟩
    rw [← key, settled.held]
    rfl

end Pool.Settled

namespace Registry

variable {r s : Registry} {now : Instant} {fresh : InstanceId} {request : Request} {a : Admitted}

/-- Who is admitted is settled. -/
theorem Keyed.enter_settles (keyed : r.Keyed)
    (entered : r.enter now fresh request = (s, .ok a)) :
    ∃ before after i live, r.pool? request.template = some before ∧
      s.pool? request.template = some after ∧ before.Settled after now request i live ∧
      a = ⟨before.template.destination, before.template.spawnPoint, request.group, some i,
        !live⟩ := by
  have inside (o : Occupants) : ∀ player ∈ request.group,
      (o.insertAll request.group).contains player = true := by
    intro player member
    rw [Occupants.contains_insertAll, List.contains_iff_mem.mpr member, Bool.true_or]
  rcases keyed.enter_cases now fresh request with ⟨error, refused, -⟩ | ⟨left, b, taken, how⟩
  · cases refused.symm.trans entered
  · cases taken.symm.trans entered
    cases how with
    | joins pool i home target leads placed held ahead room =>
      have homeAfter := r.pool?_joined now pool i request.group
      rw [← target] at home homeAfter
      refine ⟨pool, _, { i with occupants := i.occupants.insertAll request.group }, true, home,
        homeAfter, ⟨pool.template_put _, placed, pool.find?_put _, ahead, inside _, ?_⟩, rfl⟩
      rw [← Request.toFinset_group] at room ⊢
      exact Instance.hasRoom_insertAll.mpr room
    | opens pool key deadline born home target leads placed free ends fits new =>
      have homeAfter :=
        pool?_joined (r.opened now pool born) now (pool.put born) born request.group
      rw [Pool.template_put, ← target] at homeAfter
      rw [← target] at home
      have known : r.template? request.template = some pool.template := by
        rw [template?, home]
        rfl
      have lasting := (admissible_of_granted known (congrArg Prod.snd entered)).lasting
      refine ⟨pool, _, _, false, home, homeAfter,
        ⟨(Pool.template_put ..).trans (pool.template_put _), ?_, fun other => ?_, ?_, inside _, ?_⟩,
        rfl⟩
      · rw [placed, new]
        rfl
      · rw [Pool.find?_put, Pool.find?_put]
        split <;> rfl
      · rw [new]
        exact Instant.lt_of_after? lasting ends
      · rw [← Request.toFinset_group]
        refine Instance.hasRoom_insertAll.mpr ?_
        rw [Request.toFinset_group]
        exact (Instance.hasRoom_of_empty (by rw [new]; rfl)).mpr fits

/-- Who is settled comes in again, and nothing changes. -/
theorem Keyed.enter_again (keyed : r.Keyed) {before after : Pool} {i : Instance} {live : Bool}
    (home : r.pool? request.template = some after) (settled : before.Settled after now request i live)
    {later : Instant} (admissible : request.Admissible later after.template) (forward : now ≤ later)
    (ahead : later < i.expiresAt) (again : InstanceId) :
    r.enter later again request =
      (r, .ok ⟨after.template.destination, after.template.spawnPoint, request.group, some i,
        false⟩) := by
  have own := keyed.home home
  have stays : i.occupants.insertAll request.group = i.occupants := by
    rw [← Occupants.enterAll_fst, Occupants.enterAll_of_inside settled.inside]
  rw [enter_of_admissible home admissible (settled.place_again forward ahead) again,
    occupy_of_room own settled.held settled.room, joined_of_inside later own settled.held settled.inside,
    stays]

end Registry

namespace Run

/-- After every run, who has been admitted may come again with the same request, at once
or at any later time before the deadline of the instance at which some deadline would come
of the lifetime that is asked for. The answer names the same instance with the same
occupants, as one that was not created now, and nothing changes: no instance, no teardown,
and nothing is announced. -/
theorem coming_again_changes_nothing (run : Run) (templates : List Template) (buffer : Nat)
    (now : Instant) (fresh : InstanceId) (request : Request) {s : Registry} {a : Admitted}
    (granted : (run.result templates buffer).enter now fresh request = (s, .ok a)) :
    ∃ t i, (run.result templates buffer).template? request.template = some t ∧
      a.instance? = some i ∧ now < i.expiresAt ∧
      ∀ later again, now ≤ later → later < i.expiresAt →
        later.after? (request.lifetime t) ≠ none →
          s.enter later again request = (s, .ok { a with created := false }) := by
  have keyed := run.keyed templates buffer
  obtain ⟨before, after, i, live, home, homeAfter, settled, rfl⟩ := keyed.enter_settles granted
  have known : (run.result templates buffer).template? request.template = some before.template := by
    rw [Registry.template?, home]
    rfl
  have keyedAfter : s.Keyed := by
    have kept := Registry.perform_keyed keyed now (.enter fresh request)
    rwa [Registry.perform, granted] at kept
  obtain ⟨leads, lasting, -⟩ := Registry.admissible_of_granted known (congrArg Prod.snd granted)
  refine ⟨before.template, i, known, rfl, settled.ahead, ?_⟩
  intro later again forward ahead ends
  have admissible : request.Admissible later after.template :=
    settled.template ▸ ⟨leads, lasting, ends⟩
  rw [keyedAfter.enter_again homeAfter settled admissible forward ahead again, settled.template]

/-- The first slot is full when a player gets the second one. A minute later the instance
in the first slot has reached its deadline, and the player comes back to the second. -/
theorem player_comes_back_to_the_second_slot :
    let template := { Template.pooled "a" 100 "entry" 0 (.ofSeconds 3600) with
      kind := .pooled 0 2 }
    let couple := ((Request.new 1 900 "a").withCompanions [2]).withLifetime (.ofSeconds 60)
    let run : Run := [(.epoch, .enter (.ofNat 1) couple)]
    let late := (Instant.epoch.after? (.ofSeconds 60)).getD .epoch
    let request := Request.new 3 900 "a"
    let entry := (run.result [template] 16).enter .epoch (.ofNat 2) request
    ∃ a i, entry.2 = .ok a ∧ a.created = true ∧ a.instance? = some i ∧ i.key = .slot 1 ∧
      entry.1.enter late (.ofNat 3) request = (entry.1, .ok { a with created := false }) := by
  intro template couple run late request entry
  have shown : entry.2.toOption.map (fun a => (a.created, a.instance?.map fun i =>
      (i.key, decide (late < i.expiresAt)))) = some (true, some (.slot 1, true)) := by decide
  have known : (run.result [template] 16).template? request.template = some template := by decide
  generalize granted : entry = outcome at shown ⊢
  obtain ⟨s, error | a⟩ := outcome
  · cases shown
  · obtain ⟨t, i, home, named, -, again⟩ :=
      coming_again_changes_nothing run [template] 16 .epoch (.ofNat 2) request granted
    cases home.symm.trans known
    obtain ⟨created, key, ahead⟩ : a.created = true ∧ i.key = .slot 1 ∧ late < i.expiresAt := by
      simpa [Except.toOption, named] using shown
    exact ⟨a, i, rfl, created, named, key, again late (.ofNat 3) (by decide) ahead (by decide)⟩

end Run

end InstancedAreas
