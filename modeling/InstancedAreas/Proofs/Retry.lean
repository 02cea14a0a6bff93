import InstancedAreas.Configuration
import InstancedAreas.Proofs.Clock
import InstancedAreas.Proofs.Run.Turns

/-! Trying again. A refusal that promises nothing is repeated for good, whatever
happens meanwhile. One that is marked as worth another try keeps that promise for
a group that an instance can hold: when the instance that stands in its way is
released, it gets in. A larger group is refused for ever, and told to come back. -/
namespace InstancedAreas

/-- An operation that can only make room: a player leaves, an instance is released
on request, or what is due is swept. -/
def Operation.givesWay : Operation → Bool
  | leave .. | sweep => true
  | release _ _ reason => reason = .manual
  | _ => false

/-- The key that a request gets where it is free: that of the party, of the player
without one, or of the first slot. -/
def Request.firstKey (request : Request) (t : Template) : InstanceKey :=
  if t.isExclusive then request.ownKey else .slot 0

/-- A request is placed under its first key where that is free. -/
theorem Pool.place_of_free {pool : Pool} {request : Request} (now : Instant)
    (free : pool.instances.find? (request.firstKey pool.template) = none) :
    pool.place now request = .ok ⟨request.firstKey pool.template, false⟩ := by
  cases kind : pool.template.kind with
  | exclusive most =>
    have key : request.firstKey pool.template = request.ownKey := by
      simp [Request.firstKey, Template.isExclusive, kind]
    rw [key] at free ⊢
    simp only [place, kind, placeExclusive_eq, free, Option.elim_none]
  | pooled capacity perSlot =>
    have key : request.firstKey pool.template = .slot 0 := by
      simp [Request.firstKey, Template.isExclusive, kind]
    rw [key] at free ⊢
    have isOpen : pool.OpenTo now request.members capacity perSlot 0 := by
      constructor
      · exact id
      · intro i held
        cases free.symm.trans held
    refine (place_pooled_iff kind).mpr ⟨0, ⟨isOpen, fun _ _ => UInt32.zero_le⟩, ?_⟩
    rw [free]
    rfl

namespace Registry

variable {r : Registry} {pool : Pool} {now : Instant} {request : Request} {error : AdmissionError}

/-- Where its first key is free, a group that an instance can hold is let in. -/
theorem Keyed.enter_of_free (keyed : r.Keyed) {t : Template}
    (home : r.template? request.template = some t)
    (free : r.instance? request.template (request.firstKey t) = none)
    (admissible : request.Admissible now t) (fits : request.Fits t.occupantLimit)
    (fresh : InstanceId) : ∃ a, (r.enter now fresh request).2 = .ok a := by
  obtain ⟨pool, found, rfl⟩ := Option.map_eq_some_iff.mp home
  rw [instance?, found] at free
  have takes : pool.Takes now request ⟨request.firstKey pool.template, false⟩ := by
    refine ⟨admissible, Pool.place_of_free now free, fits, fun i held => ?_⟩
    cases free.symm.trans held
  obtain ⟨a, -, granted, -⟩ := keyed.enter_of_takes takes found fresh
  exact ⟨a, granted⟩

/-- A group that no instance can hold is refused. -/
theorem Keyed.enter_of_excess (keyed : r.Keyed) {t : Template}
    (home : r.template? request.template = some t) (excess : ¬ request.Fits t.occupantLimit)
    (now : Instant) (fresh : InstanceId) :
    ∃ error, (r.enter now fresh request).2 = .error error := by
  rcases keyed.enter_cases now fresh request with ⟨error, refused, -⟩ | ⟨s, a, -, granted⟩
  · exact ⟨error, by rw [refused]⟩
  · exact absurd (granted.fits home) excess

/-- A request that was refused comes to be granted once players have left, instances
have been released on request, sweeps have been made and time has gone on. -/
def LetsIn (r : Registry) (now : Instant) (request : Request) : Prop :=
  ∃ (more : Run) (later : Instant), (∀ step ∈ more, step.2.givesWay = true) ∧
    (now :: more.map Prod.fst ++ [later]).Pairwise (· ≤ ·) ∧
    ∀ fresh, ∃ a, ((r.after more).enter later fresh request).2 = .ok a

end Registry

namespace Run

variable {templates : List Template} {buffer : Nat}

/-- A refusal has a reason. -/
theorem refused_of_error {run : Run} {now : Instant} {fresh : InstanceId} {request : Request}
    {error : AdmissionError}
    (refused : ((run.result templates buffer).enter now fresh request).2 = .error error) :
    Refused (run.result templates buffer) now request error := by
  rcases (run.keyed templates buffer).enter_cases now fresh request with
    ⟨other, same, why⟩ | ⟨s, a, granted, -⟩
  · rw [same] at refused
    cases refused
    exact why
  · rw [granted] at refused
    cases refused

/-- A group that an instance can hold gets in when the instance under its first key
is released. -/
theorem lets_in_of_fits (run : Run) {now : Instant} {request : Request} {t : Template}
    (home : (run.result templates buffer).template? request.template = some t)
    (admissible : request.Admissible now t) (fits : request.Fits t.occupantLimit) :
    (run.result templates buffer).LetsIn now request := by
  let release : Operation := .release request.template (request.firstKey t) .manual
  refine ⟨[(now, release)], now, ?_, ?_, ?_⟩
  · intro step member
    rw [List.mem_singleton.mp member]
    rfl
  · have still : now ≤ now := Int.le_refl _
    simp [still]
  · apply Registry.Keyed.enter_of_free (run.keyed_after [(now, release)])
      ((run.template?_after [(now, release)] _).trans home) _ admissible fits
    exact ((run.keyed templates buffer).instance?_release now _ _ .manual _ _).trans
      (if_pos ⟨rfl, rfl⟩)

/-- A group that no instance can hold is refused whatever happens. -/
theorem refused_of_excess (run more : Run) {request : Request} {t : Template}
    (home : (run.result templates buffer).template? request.template = some t)
    (excess : ¬ request.Fits t.occupantLimit) (later : Instant) (fresh : InstanceId) :
    ∃ error, (((run.result templates buffer).after more).enter later fresh request).2 =
      .error error :=
  (run.keyed_after more).enter_of_excess ((run.template?_after more _).trans home) excess later
    fresh

/-- After every run, a request whose refusal is marked as worth another try can come
to be granted exactly if an instance of the template can hold its group. A larger
group is refused in every later state. -/
theorem retry_succeeds_exactly_if_the_group_fits (run : Run) (templates : List Template)
    (buffer : Nat) (now : Instant) (fresh : InstanceId) (request : Request)
    {error : AdmissionError}
    (refused : ((run.result templates buffer).enter now fresh request).2 = .error error)
    (retryable : error.isRetryable = true) :
    let before := run.result templates buffer
    ∃ t, before.template? request.template = some t ∧
      (before.LetsIn now request ↔ request.Fits t.occupantLimit) ∧
      (¬ request.Fits t.occupantLimit → ∀ (more : Run) (later : Instant) (again : InstanceId),
        ∃ error, ((before.after more).enter later again request).2 = .error error) := by
  intro before
  obtain ⟨pool, found, admissible⟩ := (refused_of_error refused).admissible retryable
  have home : before.template? request.template = some pool.template := by
    rw [Registry.template?, found]
    rfl
  refine ⟨pool.template, home, ⟨?_, ?_⟩, ?_⟩
  · rintro ⟨more, later, -, -, granted⟩
    by_contra excess
    obtain ⟨a, entered⟩ := granted fresh
    obtain ⟨error, denied⟩ := run.refused_of_excess more home excess later fresh
    cases entered.symm.trans denied
  · exact run.lets_in_of_fits home admissible
  · exact fun excess more later again => run.refused_of_excess more home excess later again

/-- The only slot is taken, and its instance is released to let in who found it so. -/
theorem taken_slot_comes_free :
    let template := Template.pooled "a" 100 "entry" 1 (.ofSeconds 3600)
    let run : Run := [(.epoch, .enter (.ofNat 1) (.new 1 900 "a"))]
    let before := run.result [template] 16
    let request := Request.new 2 900 "a"
    (before.enter .epoch (.ofNat 2) request).2 = .error (.instancesFull "a") ∧
      AdmissionError.isRetryable (.instancesFull "a") = true ∧ before.LetsIn .epoch request := by
  intro template run before request
  have refused : (before.enter .epoch (.ofNat 2) request).2 = .error (.instancesFull "a") := by
    decide
  obtain ⟨t, home, comes, -⟩ := retry_succeeds_exactly_if_the_group_fits run [template] 16 .epoch
    (.ofNat 2) request refused rfl
  have known : before.template? request.template = some template := by decide
  cases home.symm.trans known
  exact ⟨refused, rfl, comes.mpr (Request.fits_iff.mpr (by decide))⟩

/-- Under a valid configuration, two who come together to an instance for one are told
to come back, and never get in. -/
theorem two_are_told_to_come_back_to_one_place :
    let template := (Template.exclusive "a" 100 "entry" (.ofSeconds 3600)).withMostOccupants 1
    let config : Configuration := { Configuration.default with templates := [template] }
    let before := Run.result [] config.templates config.expiry.eventBuffer.toNat
    let request := (Request.new 1 900 "a").withCompanions [2]
    let error := AdmissionError.capacityExceeded "a" (.solo 1)
    config.validate = .ok () ∧ (before.enter .epoch (.ofNat 1) request).2 = .error error ∧
      error.isRetryable = true ∧ ¬ before.LetsIn .epoch request := by
  intro template config before request error
  refine ⟨by decide, by decide, rfl, ?_⟩
  rintro ⟨more, later, -, -, granted⟩
  have home : before.template? request.template = some template := by decide
  have excess : ¬ request.Fits template.occupantLimit := by
    rw [Request.fits_iff]
    decide
  obtain ⟨a, entered⟩ := granted (.ofNat 1)
  obtain ⟨other, denied⟩ := refused_of_excess [] more home excess later (.ofNat 1)
  cases entered.symm.trans denied

/-- After every run, a refusal that is not marked as worth another try is repeated
word for word at every later time that a clock can show, whatever happens meanwhile: no clock
shows a leap second. -/
theorem refusals_for_good_are_repeated (run : Run) (templates : List Template) (buffer : Nat)
    {now later : Instant} (forward : now ≤ later) (shown : later.Shown) (fresh : InstanceId)
    (request : Request) {error : AdmissionError}
    (refused : ((run.result templates buffer).enter now fresh request).2 = .error error)
    (final : error.isRetryable = false) (more : Run) (again : InstanceId) :
    let after := (run.result templates buffer).after more
    after.enter later again request = (after, .error error) := by
  intro after
  have barred := (refused_of_error refused).for_good final
  rw [← run.template?_after more] at barred
  exact Registry.enter_of_barred (barred.persists (shown.nanos_le forward)) again

/-- A lifetime that ends a nanosecond after the calendar is refused, and again an hour
later. -/
theorem lifetime_beyond_the_calendar_is_refused_again :
    let template := Template.pooled "a" 100 "entry" 1 (.ofSeconds 3600)
    let before := Run.result [] [template] 16
    let request := (Request.new 1 900 "a").withLifetime (.ofSeconds 8210266876800)
    let error := AdmissionError.invalidLifetime "a" (.ofSeconds 8210266876800)
    let late := (Clock.advance ⟨0⟩ (.ofSeconds 3600)).now
    let after := before.after [(.epoch, .enter (.ofNat 2) (.new 2 900 "a")), (late, .sweep)]
    Instant.epoch ≤ late ∧ late.Shown ∧
      (before.enter .epoch (.ofNat 1) request).2 = .error error ∧ error.isRetryable = false ∧
      after.enter late (.ofNat 3) request = (after, .error error) := by
  intro template before request error late after
  have forward : Instant.epoch ≤ late := by decide
  have shown : late.Shown := Clock.shown_now _
  have refused : (before.enter .epoch (.ofNat 1) request).2 = .error error := by decide
  exact ⟨forward, shown, refused, rfl, refusals_for_good_are_repeated [] [template] 16 forward
    shown (.ofNat 1) request refused rfl _ (.ofNat 3)⟩

end Run

end InstancedAreas
