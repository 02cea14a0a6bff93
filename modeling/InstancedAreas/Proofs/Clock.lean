import InstancedAreas.Clock
import InstancedAreas.Proofs.Instant.Deadline

/-! What a clock shows that is set by hand. It counts whole milliseconds, so moving it by
a span brings it to a deadline that lies the span ahead only if the span has no part of a
millisecond. -/
namespace InstancedAreas.Clock

variable {now : Instant} {span : Duration} {deadline : Instant}

theorem shown_now (clock : Clock) : clock.now.Shown := by
  unfold Clock.now Instant.ofMillis? Instant.ofNanos?
  split <;> rfl

/-- The instant so many milliseconds after the start of 1970, where there is one. -/
theorem now_of_millis (millis : Int) (begun : Instant.earliestNanos ≤ millis * 1000000)
    (within : millis * 1000000 ≤ Instant.latestNanos) :
    (Clock.now ⟨millis⟩).nanos = millis * 1000000 ∧ (Clock.now ⟨millis⟩).leap = false := by
  simp [now, Instant.ofMillis?, Instant.ofNanos?, begun, within]

/-- A clock that is started within the calendar shows the whole milliseconds. -/
theorem now_startingAt (begun : now.millis ≤ latestMillis) :
    (startingAt now).now.nanos = now.millis * 1000000 ∧ (startingAt now).now.leap = false := by
  have earliest := now.earliest
  have leap : 0 ≤ if now.leap then (1000 : Int) else 0 := by split <;> omega
  simp only [Instant.earliestNanos] at earliest
  simp only [latestMillis] at begun
  exact now_of_millis _ (by simp only [Instant.earliestNanos, Instant.millis]; omega)
    (by simp only [Instant.latestNanos]; omega)

/-- A clock that was moved by a span shows a deadline that lies the span ahead if the
span has no part of a millisecond, and is short of it otherwise. -/
theorem advance_reaches_iff (begun : now.millis ≤ latestMillis)
    (ends : (startingAt now).now.after? span = some deadline) :
    deadline ≤ ((startingAt now).advance span).now ↔ span.nanos % nanosPerMilli = 0 := by
  obtain ⟨started, plain⟩ := now_startingAt begun
  obtain ⟨near, lies, plain'⟩ := Instant.nanos_of_after? plain ends
  have earliest := (startingAt now).now.earliest
  have latest := deadline.latest
  rw [started] at earliest
  rw [lies, started] at latest
  simp only [Instant.earliestNanos, Instant.latestNanos] at earliest latest
  -- The end of the calendar does not stop the clock, since the deadline lies before it.
  have moved : (startingAt now).advance span = ⟨now.millis + (span.nanos / 1000000 : Nat)⟩ := by
    simp only [advance, stride, near, if_true, startingAt, Duration.wholeMillis, nanosPerMilli,
      mostMillis, latestMillis, Clock.mk.injEq]
    omega
  obtain ⟨reached, plain''⟩ := now_of_millis (now.millis + (span.nanos / 1000000 : Nat))
    (by simp only [Instant.earliestNanos]; omega) (by simp only [Instant.latestNanos]; omega)
  rw [moved, Instant.le_iff_nanos_le plain' plain'', lies, started, reached, nanosPerMilli]
  omega

end InstancedAreas.Clock
