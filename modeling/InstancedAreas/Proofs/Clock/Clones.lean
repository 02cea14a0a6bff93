import InstancedAreas.Proofs.Clock
import Mathlib.Logic.Function.Basic

/-! Clocks that are held by several. Clones are holders of one and the same clock, so each of
them shows what any of them has done to it. What that is can be counted in whole milliseconds
without regard to what fits a clock. A clock falls back to the start of 1970 only where the
count leaves the calendar, and that it does only while the clock stands in a leap second behind
the last instant, as it was started or set to. -/
namespace InstancedAreas

/-- The last instant of the calendar. What is later is in the leap second behind it. -/
def Instant.last : Instant := ⟨latestNanos, false, by decide, by decide, nofun⟩

namespace Clock

/-- The first millisecond of the calendar. -/
def earliestMillis : Int := -8334601228800000

/-- What can be done to a clock. -/
inductive Call where
  | advance (span : Duration)
  | set (t : Instant)

/-- A clock after a call. -/
def Call.move (clock : Clock) : Call → Clock
  | advance span => clock.advance span
  | set t => clock.set t

/-- The milliseconds of a clock after a call, counted in unbounded integers. A clock that is
moved forward stays at the end of the calendar; whole milliseconds count in any case. -/
def Call.count (millis : Int) : Call → Int
  | advance span => min latestMillis (millis + span.wholeMillis)
  | set t => t.millis

/-- The instant that a clock was started at or last set to, if it was not moved forward since. -/
def setting (start : Instant) (calls : List Call) : Option Instant :=
  match calls.getLast? with
  | none => some start
  | some (.set t) => some t
  | some (.advance _) => none

section Holders

variable {Holder Place : Type} [DecidableEq Place]

/-- Clocks at their places after calls, each by a holder. A holder calls the clock at one
place; the holders of one place are clones. -/
def afterCalls (place : Holder → Place) (clocks : Place → Clock) (calls : List (Holder × Call)) :
    Place → Clock :=
  calls.foldl (fun clocks made =>
    Function.update clocks (place made.1) (made.2.move (clocks (place made.1)))) clocks

/-- The calls to the clock at a place, whichever holder made them. -/
def callsAt (place : Holder → Place) (calls : List (Holder × Call)) (p : Place) : List Call :=
  (calls.filter fun made => place made.1 = p).map Prod.snd

/-- To a clock happens what its own holders do, and nothing else. -/
theorem afterCalls_at (place : Holder → Place) (clocks : Place → Clock)
    (calls : List (Holder × Call)) (p : Place) :
    afterCalls place clocks calls p = (callsAt place calls p).foldl Call.move (clocks p) := by
  induction calls generalizing clocks with
  | nil => rfl
  | cons made rest ih =>
    have onward := ih (Function.update clocks (place made.1) (made.2.move (clocks (place made.1))))
    by_cases here : place made.1 = p
    · subst here
      simpa [callsAt, afterCalls] using onward
    · simpa [callsAt, afterCalls, here, Function.update_of_ne (Ne.symm here)] using onward

end Holders

/-! ## The count -/

theorem earliestMillis_le_millis (t : Instant) : earliestMillis ≤ t.millis := by
  have earliest := t.earliest
  simp only [Instant.earliestNanos] at earliest
  simp only [earliestMillis, Instant.millis]
  split <;> omega

/-- The instants with a millisecond of the calendar are those up to the last one. -/
theorem millis_le_latestMillis_iff {t : Instant} : t.millis ≤ latestMillis ↔ t ≤ .last := by
  have latest := t.latest
  change _ ↔ t.place ≤ Instant.last.place
  simp only [Instant.latestNanos] at latest
  simp only [Instant.place, Instant.second, Instant.last, Instant.latestNanos, Instant.millis,
    latestMillis, Bool.false_eq_true, if_false]
  cases t.leap <;> simp <;> omega

/-- Neither a span that is too long for any deadline nor the end of what the clock's arithmetic
holds makes a difference to a clock that moves forward. -/
theorem millis_advance {clock : Clock} (begun : earliestMillis ≤ clock.millis) (span : Duration) :
    (clock.advance span).millis = min latestMillis (clock.millis + span.wholeMillis) := by
  simp only [earliestMillis] at begun
  by_cases near : span.nanos ≤ Instant.furthestNanos
  · simp only [advance, stride, near, if_true, mostMillis, latestMillis]
    omega
  · simp only [advance, stride, near, if_false, mostMillis, latestMillis]
    simp only [Instant.furthestNanos] at near
    simp only [Duration.wholeMillis, nanosPerMilli]
    omega

theorem Call.millis_move {clock : Clock} (begun : earliestMillis ≤ clock.millis) (call : Call) :
    (call.move clock).millis = call.count clock.millis := by
  cases call with
  | advance span => exact millis_advance begun span
  | set t => rfl

theorem Call.earliestMillis_le_count {millis : Int} (begun : earliestMillis ≤ millis)
    (call : Call) : earliestMillis ≤ call.count millis := by
  cases call with
  | advance span =>
    simp only [count, earliestMillis, latestMillis] at begun ⊢
    omega
  | set t => exact earliestMillis_le_millis t

/-- A clock counts as one counts without bounds. -/
theorem millis_foldl_move {clock : Clock} (begun : earliestMillis ≤ clock.millis)
    (calls : List Call) :
    (calls.foldl Call.move clock).millis = calls.foldl Call.count clock.millis := by
  induction calls generalizing clock with
  | nil => rfl
  | cons call rest ih =>
    have moved := call.millis_move begun
    rw [List.foldl_cons, ih (moved ▸ call.earliestMillis_le_count begun), moved, List.foldl_cons]

/-- The count begins with the calendar. -/
theorem earliestMillis_le_foldl_count {millis : Int} (begun : earliestMillis ≤ millis)
    (calls : List Call) : earliestMillis ≤ calls.foldl Call.count millis := by
  induction calls generalizing millis with
  | nil => exact begun
  | cons call rest ih => exact ih (call.earliestMillis_le_count begun)

/-- The count ends with the calendar unless the clock stands where it was started or set to, and
that is behind the last instant. Only the last call matters. -/
theorem foldl_count_le_latestMillis_iff (start : Instant) (calls : List Call) :
    calls.foldl Call.count start.millis ≤ latestMillis ↔
      ∀ t, setting start calls = some t → t ≤ .last := by
  rcases List.eq_nil_or_concat calls with rfl | ⟨before, call, rfl⟩
  · simp [setting, millis_le_latestMillis_iff]
  · rw [List.concat_eq_append, List.foldl_append]
    cases call with
    | advance span =>
      refine iff_of_true (Int.min_le_left ..) fun t stands => ?_
      simp [setting] at stands
    | set t => simp [setting, Call.count, millis_le_latestMillis_iff]

/-- A clock whose count is in the calendar shows it. -/
theorem shows_of_within {clock : Clock}
    (within : earliestMillis ≤ clock.millis ∧ clock.millis ≤ latestMillis) :
    Instant.ofMillis? clock.millis = some clock.now ∧
      clock.now.nanos = clock.millis * 1000000 ∧ clock.now.leap = false := by
  obtain ⟨begun, ended⟩ := within
  simp only [earliestMillis, latestMillis] at begun ended
  have first : Instant.earliestNanos ≤ clock.millis * 1000000 := by
    simp only [Instant.earliestNanos]
    omega
  have last : clock.millis * 1000000 ≤ Instant.latestNanos := by
    simp only [Instant.latestNanos]
    omega
  obtain ⟨shown, plain⟩ := now_of_millis clock.millis first last
  refine ⟨?_, shown, plain⟩
  simp [now, Instant.ofMillis?, Instant.ofNanos?, first, last]

/-- A clock whose count is behind the calendar falls back to the start of 1970. -/
theorem now_of_late {clock : Clock} (late : latestMillis < clock.millis) :
    Instant.ofMillis? clock.millis = none ∧ clock.now = .epoch := by
  have beyond : Instant.ofMillis? clock.millis = none := by
    simp only [latestMillis] at late
    rw [Instant.ofMillis?, Instant.ofNanos?, dif_neg]
    simp only [Instant.latestNanos]
    omega
  exact ⟨beyond, by rw [now, beyond]; rfl⟩

/-- A clock that is moved forward never shows an earlier time: where it has fallen back to the
start of 1970, it goes on to the end of the calendar. -/
theorem now_le_now_advance {clock : Clock} (begun : earliestMillis ≤ clock.millis)
    (span : Duration) : clock.now ≤ (clock.advance span).now := by
  have moved := millis_advance begun span
  have inside : earliestMillis ≤ (clock.advance span).millis ∧
      (clock.advance span).millis ≤ latestMillis := by
    simp only [moved, earliestMillis, latestMillis] at begun ⊢
    omega
  obtain ⟨-, shown, plain⟩ := shows_of_within inside
  by_cases within : clock.millis ≤ latestMillis
  · obtain ⟨-, shown', plain'⟩ := shows_of_within ⟨begun, within⟩
    rw [Instant.le_iff_nanos_le plain' plain, shown, shown', moved]
    omega
  · have end_ : (clock.advance span).millis = latestMillis := by omega
    rw [(now_of_late (Int.not_le.mp within)).2, Instant.le_iff_nanos_le rfl plain, shown, end_]
    decide

/-- Clocks that are started and set at any instants, and moved forward by any spans, through any
holders: a holder's clock stands where one comes to by counting in unbounded integers from its
start over the calls of all its clones, where setting a clock counts the whole milliseconds of
the instant, and moving it adds those of the span up to the last millisecond of the calendar.
The count never leaves the calendar but where the clock stands at a leap second behind the last
instant, as it was started or set to and not moved forward since. Elsewhere every holder is
shown what was counted; there, and only there, the start of 1970. Moving the clock forward never
puts back what it shows. -/
theorem clones_show_the_counted_time_within_the_calendar {Holder Place : Type}
    [DecidableEq Place] (place : Holder → Place) (starts : Place → Instant)
    (calls : List (Holder × Call)) (holder : Holder) :
    let clock := afterCalls place (fun p => .startingAt (starts p)) calls (place holder)
    let own := callsAt place calls (place holder)
    let counted := own.foldl Call.count (starts (place holder)).millis
    let fits := ∀ t, setting (starts (place holder)) own = some t → t ≤ .last
    clock.millis = counted ∧ earliestMillis ≤ counted ∧ (counted ≤ latestMillis ↔ fits) ∧
      (fits → Instant.ofMillis? counted = some clock.now ∧
        clock.now.nanos = counted * 1000000 ∧ clock.now.leap = false) ∧
      (¬ fits → Instant.ofMillis? counted = none ∧ clock.now = .epoch) ∧
      ∀ span, clock.now ≤ (clock.advance span).now := by
  intro clock own counted fits
  have begun := earliestMillis_le_millis (starts (place holder))
  have counts : clock.millis = counted := by
    have here : clock = _ := afterCalls_at place _ calls (place holder)
    rw [here]
    exact millis_foldl_move begun _
  have first : earliestMillis ≤ counted := earliestMillis_le_foldl_count begun _
  have last : counted ≤ latestMillis ↔ fits := foldl_count_le_latestMillis_iff _ _
  refine ⟨counts, first, last, fun inside => ?_, fun behind => ?_,
    now_le_now_advance (counts ▸ first)⟩
  · rw [← counts]
    exact shows_of_within (counts ▸ ⟨first, last.mpr inside⟩)
  · rw [← counts]
    exact now_of_late (counts ▸ Int.not_le.mp (mt last.mp behind))

/-- Two holders share a clock that is started before 1970, and a third holder has another one.
One of the two runs theirs to the end of the calendar, the other puts it back to the start of
1970, and the first moves it by a millisecond and a half. Both are shown one millisecond; the
third holder's clock, run to the end, stays there. -/
theorem clone_is_shown_what_another_has_set :
    let place : Fin 3 → Nat := fun holder => holder.val / 2
    let start : Instant := ⟨-1500000, false, by decide, by decide, nofun⟩
    let calls : List (Fin 3 × Call) := [(0, .advance .longest), (2, .advance .longest),
      (1, .set .epoch), (0, .advance ⟨1500000, by decide⟩)]
    let clocks := afterCalls place (fun _ => .startingAt start) calls
    (∀ holder, setting start (callsAt place calls (place holder)) = none) ∧
      (∀ holder < 2, (clocks (place holder)).now.nanos = 1000000) ∧
      (clocks (place 2)).millis = latestMillis := by
  intro place start calls clocks
  have moved : ∀ holder, setting start (callsAt place calls (place holder)) = none := by decide
  have shown (holder : Fin 3) := clones_show_the_counted_time_within_the_calendar place
    (fun _ => start) calls holder
  refine ⟨moved, fun holder first => ?_, (shown 2).1.trans (by decide)⟩
  have here : place holder = 0 := Nat.div_eq_of_lt first
  obtain ⟨-, -, -, inside, -⟩ := shown holder
  refine (inside fun t stands => ?_).2.1.trans ?_
  · cases (moved holder).symm.trans stands
  · rw [here]
    decide

/-- A clock that is started at the end of a leap second behind the last instant has a count
behind the calendar, and shows the start of 1970. -/
theorem leap_second_behind_the_calendar_is_shown_as_1970 :
    let start : Instant := ⟨Instant.latestNanos, true, by decide, by decide, by decide⟩
    let clocks := afterCalls id (fun _ : Unit => .startingAt start) []
    .last < start ∧ (clocks ()).millis = latestMillis + 1000 ∧
      Instant.ofMillis? (clocks ()).millis = none ∧ (clocks ()).now = .epoch := by
  decide

end Clock

end InstancedAreas
