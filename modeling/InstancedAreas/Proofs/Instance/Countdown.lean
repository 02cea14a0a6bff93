import InstancedAreas.Instance
import InstancedAreas.Proofs.Instant.Deadline

/-! Deadlines and the time left to them. A deadline is given by one calculation, and whether
it is reached and how much time is left by two others. Outside leap seconds all three agree to
the nanosecond. -/
namespace InstancedAreas

namespace Instant

variable {now t deadline : Instant} {span : Duration}

/-- What counts of an instant outside leap seconds in a difference is its place in the count. -/
theorem nanosBeside_of_plain (plain : t.leap = false) (other : Instant) :
    t.nanosBeside other = t.nanos := by
  simp [nanosBeside, plain]

/-- The time left is the difference, or nothing where that is negative. -/
theorem nanos_remaining (plain : deadline.leap = false) (plain' : t.leap = false) :
    ((deadline.remaining t).nanos : Int) = max 0 (deadline.nanos - t.nanos) := by
  simp only [remaining, nanosBeside_of_plain plain, nanosBeside_of_plain plain']
  omega

/-- From an earlier time a shorter span reaches a deadline where a later time and a longer
span do, and an earlier one. -/
theorem after?_mono {earlier : Instant} {shorter : Duration} (plain : earlier.leap = false)
    (plain' : now.leap = false) (before : earlier ≤ now) (less : shorter.nanos ≤ span.nanos)
    (ends : now.after? span = some deadline) :
    ∃ sooner, earlier.after? shorter = some sooner ∧ sooner ≤ deadline := by
  obtain ⟨near, lies, plainEnd⟩ := nanos_of_after? plain' ends
  have count := (le_iff_nanos_le plain plain').mp before
  have within : earlier.nanos + shorter.nanos ≤ deadline.nanos := by omega
  cases reached : earlier.after? shorter with
  | none =>
    -- Neither bound is passed by less than what keeps to both.
    have latest := deadline.latest
    rcases after?_eq_none_iff.mp reached with far | beyond <;> omega
  | some sooner =>
    obtain ⟨-, lies', plainSooner⟩ := nanos_of_after? plain reached
    exact ⟨sooner, rfl, (le_iff_nanos_le plainSooner plainEnd).mpr (lies' ▸ within)⟩

end Instant

namespace Instance

variable {i : Instance} {t : Instant}

/-- The deadline is reached exactly when no time is left. -/
theorem isExpired_iff_isZero_remaining (plain : i.expiresAt.leap = false)
    (plain' : t.leap = false) : i.isExpired t = true ↔ (i.remaining t).isZero = true := by
  have left := Instant.nanos_remaining plain plain'
  rw [isExpired, decide_eq_true_iff, Instant.le_iff_nanos_le plain plain', remaining,
    Duration.isZero, beq_iff_eq]
  omega

/-- Outside leap seconds, a span reaches a deadline from a time exactly if it is no longer than
2^63 - 1 milliseconds and the calendar does not end before. The deadline then lies the whole
span ahead in the count of nanoseconds, and not before the time. A shorter span, or the same
one from an earlier time, reaches a deadline as well, and none that lies later. Of an instance
with that deadline the time left is at any time the difference in the count, or nothing where
that is negative, and its deadline is reached exactly when no time is left. -/
theorem deadlines_and_countdowns_are_exact {now : Instant} (plain : now.leap = false)
    (span : Duration) :
    ((now.after? span).isSome = true ↔
      span.nanos ≤ Instant.furthestNanos ∧ now.nanos + span.nanos ≤ Instant.latestNanos) ∧
    ∀ deadline, now.after? span = some deadline →
      deadline.nanos = now.nanos + span.nanos ∧ deadline.leap = false ∧ now ≤ deadline ∧
      (∀ earlier shorter, earlier.leap = false → earlier ≤ now → shorter.nanos ≤ span.nanos →
        ∃ sooner, earlier.after? shorter = some sooner ∧ sooner ≤ deadline) ∧
      ∀ i : Instance, i.expiresAt = deadline → ∀ t : Instant, t.leap = false →
        ((i.remaining t).nanos : Int) = max 0 (deadline.nanos - t.nanos) ∧
        (i.isExpired t = true ↔ (i.remaining t).isZero = true) := by
  constructor
  · rw [Option.isSome_iff_ne_none, ne_eq, Instant.after?_eq_none_iff, not_or, Nat.not_lt,
      Int.not_lt]
  · intro deadline ends
    obtain ⟨-, lies, plainEnd⟩ := Instant.nanos_of_after? plain ends
    refine ⟨lies, plainEnd, ?_, fun earlier shorter plain' before less =>
      Instant.after?_mono plain' plain before less ends, ?_⟩
    · rw [Instant.le_iff_nanos_le plain plainEnd]
      omega
    · rintro i rfl t plain'
      exact ⟨Instant.nanos_remaining plainEnd plain',
        isExpired_iff_isZero_remaining plainEnd plain'⟩

/-- From the start of 1970 a span reaches the last nanosecond of the calendar. A nanosecond
before it, a nanosecond is left. -/
theorem last_nanosecond_of_the_calendar_is_reached :
    let span : Duration := ⟨Instant.latestNanos.toNat, by decide⟩
    let close : Instant := ⟨Instant.latestNanos - 1, false, by decide, by decide, nofun⟩
    Instant.epoch.leap = false ∧ ∃ deadline, Instant.epoch.after? span = some deadline ∧
      deadline.nanos = Instant.latestNanos ∧ close.leap = false ∧
      ∀ i : Instance, i.expiresAt = deadline →
        ((i.remaining close).nanos : Int) = 1 ∧ i.isExpired close = false := by
  intro span close
  have plain : Instant.epoch.leap = false := rfl
  obtain ⟨exists_iff, exact⟩ := deadlines_and_countdowns_are_exact plain span
  obtain ⟨deadline, ends⟩ := Option.isSome_iff_exists.mp
    (exists_iff.mpr ⟨by decide, by decide⟩)
  obtain ⟨lies, -, -, -, countdown⟩ := exact deadline ends
  have last : deadline.nanos = Instant.latestNanos := lies.trans (by decide)
  refine ⟨plain, deadline, ends, last, rfl, fun i own => ?_⟩
  obtain ⟨left, reached⟩ := countdown i own close rfl
  have one : ((i.remaining close).nanos : Int) = 1 := left.trans (by rw [last]; decide)
  refine ⟨one, Bool.eq_false_iff.mpr fun ended => ?_⟩
  have none : (i.remaining close).nanos = 0 := beq_iff_eq.mp (reached.mp ended)
  rw [none] at one
  cases one

end Instance

end InstancedAreas
