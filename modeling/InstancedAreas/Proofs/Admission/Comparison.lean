import InstancedAreas.Proofs.Admission.Grant

/-! Smaller groups are let in where larger ones are. With fewer companions a request has
the same place in a template of parties, and among slots one that is no higher; what has
room for all of a group has room for a part of it. -/
namespace InstancedAreas

namespace Pool.Takes

variable {pool : Pool} {now : Instant} {request : Request} {placement : Placement}

theorem admissible_of_fewer (takes : pool.Takes now request placement)
    (companions : List PlayerId) :
    ({ request with companions } : Request).Admissible now pool.template :=
  ⟨takes.admissible.leads, takes.admissible.lasting, takes.admissible.ends⟩

theorem fits_of_fewer (takes : pool.Takes now request placement) {companions : List PlayerId}
    (fewer : ({ request with companions } : Request).members ⊆ request.members) :
    ({ request with companions } : Request).Fits pool.template.occupantLimit :=
  fun most bounded => Nat.le_trans (Finset.card_le_card fewer) (takes.fits most bounded)

/-- Where instances belong to parties, a part of a group is let in at the same place. -/
theorem of_fewer_in_party (takes : pool.Takes now request placement)
    (exclusive : pool.template.isExclusive = true) {companions : List PlayerId}
    (fewer : ({ request with companions } : Request).members ⊆ request.members) :
    pool.Takes now { request with companions } placement where
  admissible := takes.admissible_of_fewer companions
  placed := by
    cases kind : pool.template.kind with
    | exclusive most =>
      have placed := takes.placed
      simp only [place, kind] at placed ⊢
      exact placed
    | pooled => simp [Template.isExclusive, kind] at exclusive
  fits := takes.fits_of_fewer fewer
  room i held := (takes.room i held).of_subset fewer

/-- Where there are slots, a part of a group is let in at a slot that is no higher. -/
theorem of_fewer_in_slots (takes : pool.Takes now request placement)
    (pooled : pool.template.isExclusive = false) {companions : List PlayerId}
    (fewer : ({ request with companions } : Request).members ⊆ request.members) :
    ∃ lower slot live, lower ≤ slot ∧ placement.key = .slot slot ∧
      pool.Takes now { request with companions } ⟨.slot lower, live⟩ := by
  cases kind : pool.template.kind with
  | exclusive => simp [Template.isExclusive, kind] at pooled
  | pooled capacity perSlot =>
    obtain ⟨slot, least, rfl⟩ := (place_pooled_iff kind).mp takes.placed
    have isOpen := least.1.of_subset fewer
    rcases pool.placePooled_cases kind now { request with companions } with
      ⟨none, -⟩ | ⟨lower, -, smallest, -⟩
    · exact absurd isOpen (Set.eq_empty_iff_forall_notMem.mp none slot)
    · refine ⟨lower, slot, _, smallest.2 isOpen, rfl, takes.admissible_of_fewer companions,
        (place_pooled_iff kind).mpr ⟨lower, smallest, rfl⟩, takes.fits_of_fewer fewer, ?_⟩
      intro i held most bounded
      obtain rfl : perSlot = most := by simpa [Template.occupantLimit, kind] using bounded
      exact (smallest.1.2 i held).2

end Pool.Takes

namespace Run

/-- After every run, a request that is granted would be granted with fewer companions as
well: in a template of parties under the same key, creating the instance or not just so,
and in a template with slots in a slot that is no higher. -/
theorem smaller_groups_are_no_worse_off (run : Run) (templates : List Template) (buffer : Nat)
    (now : Instant) (fresh again : InstanceId) (request : Request) (companions : List PlayerId)
    (fewer : ({ request with companions } : Request).members ⊆ request.members) {b : Admitted}
    (granted : ((run.result templates buffer).enter now fresh request).2 = .ok b) :
    let before := run.result templates buffer
    ∃ t a i j, before.template? request.template = some t ∧
      (before.enter now again { request with companions }).2 = .ok a ∧
      a.instance? = some i ∧ b.instance? = some j ∧
      (t.isExclusive = true → i.key = j.key ∧ a.created = b.created) ∧
      (t.isExclusive = false →
        ∃ lower slot, i.key = .slot lower ∧ j.key = .slot slot ∧ lower ≤ slot) := by
  intro before
  have keyed : before.Keyed := run.keyed templates buffer
  obtain ⟨pool, j, home, named, takes⟩ := keyed.takes_of_granted granted
  have known : before.template? request.template = some pool.template := by
    rw [Registry.template?, home]
    rfl
  cases exclusive : pool.template.isExclusive with
  | true =>
    obtain ⟨a, i, entered, found, key, created⟩ :=
      keyed.enter_of_takes (takes.of_fewer_in_party exclusive fewer) home again
    exact ⟨pool.template, a, i, j, known, entered, found, named,
      fun _ => ⟨key, created.trans (Bool.not_not _)⟩, by simp [exclusive]⟩
  | false =>
    obtain ⟨lower, slot, live, le, own, takesLower⟩ := takes.of_fewer_in_slots exclusive fewer
    obtain ⟨a, i, entered, found, key, -⟩ := keyed.enter_of_takes takesLower home again
    exact ⟨pool.template, a, i, j, known, entered, found, named, by simp [exclusive],
      fun _ => ⟨lower, slot, key, own, le⟩⟩

/-- Two who come together get the second slot, because there is room for one of them only
in the first. One of them alone would get no higher slot. -/
theorem one_of_two_gets_no_higher_slot :
    let template := { Template.pooled "a" 100 "entry" 0 (.ofSeconds 3600) with
      kind := .pooled 0 2 }
    let run : Run := [(.epoch, .enter (.ofNat 1) (.new 1 900 "a"))]
    let before := run.result [template] 16
    let request := (Request.new 2 900 "a").withCompanions [3]
    (Request.new 2 900 "a").members ⊆ request.members ∧
      (before.enter .epoch (.ofNat 2) request).2.toOption.map
        (·.instance?.map Instance.key) = some (some (.slot 1)) ∧
      ∃ a i lower, (before.enter .epoch (.ofNat 3) (.new 2 900 "a")).2 = .ok a ∧
        a.instance? = some i ∧ i.key = .slot lower ∧ lower ≤ 1 := by
  intro template run before request
  have fewer : (Request.new 2 900 "a").members ⊆ request.members := by decide
  have shown : (before.enter .epoch (.ofNat 2) request).2.toOption.map
      (·.instance?.map Instance.key) = some (some (.slot 1)) := by decide
  refine ⟨fewer, shown, ?_⟩
  cases granted : (before.enter .epoch (.ofNat 2) request).2 with
  | error error =>
    rw [granted] at shown
    cases shown
  | ok b =>
    obtain ⟨t, a, i, j, home, entered, found, named, -, slots⟩ :=
      smaller_groups_are_no_worse_off run [template] 16 .epoch (.ofNat 2) (.ofNat 3) request []
        fewer granted
    have known : before.template? request.template = some template := by decide
    cases home.symm.trans known
    obtain ⟨lower, slot, key, own, le⟩ := slots rfl
    rw [granted] at shown
    obtain rfl : slot = 1 := by simpa [Except.toOption, named, own] using shown
    exact ⟨a, i, lower, entered, found, key, le⟩

end Run

end InstancedAreas
