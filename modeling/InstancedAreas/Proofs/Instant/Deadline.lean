import InstancedAreas.Instant

/-! When a deadline exists. It must lie no further ahead than any deadline may and
within the calendar; whether it leaves or reaches a leap second makes no
difference. So a span that reaches no deadline reaches none later either. -/
namespace InstancedAreas.Instant

/-- A time that a clock can show. None shows a leap second. -/
def Shown (t : Instant) : Prop := t.leap = false

instance (t : Instant) : Decidable t.Shown := inferInstanceAs (Decidable (_ = _))

/-- Up to a time that a clock can show, time goes forward in the count as well. -/
theorem Shown.nanos_le {earlier t : Instant} (shown : t.Shown) (forward : earlier ≤ t) :
    earlier.nanos ≤ t.nanos := by
  have plain : t.leap = false := shown
  change earlier.place ≤ t.place at forward
  simp only [place, second, plain, Bool.false_eq_true, if_false] at forward
  split at forward <;> omega

/-- Within the second that a leap second follows, the leap second has an instant
as far in. -/
theorem leapSecond?_isSome {t later : Instant} (leap : t.leap = true)
    (same : later.second = t.second) : later.leapSecond?.isSome = true := by
  have ends : later.nanos / 1000000000 % 60 = 59 := by
    rw [show later.nanos / 1000000000 = t.nanos / 1000000000 from same]
    exact t.endsMinute leap
  simp [leapSecond?, ends]

/-- A deadline fails to exist if it is further ahead than any deadline may be, or
beyond the calendar. -/
theorem after?_eq_none_iff {t : Instant} {span : Duration} :
    t.after? span = none ↔
      furthestNanos < span.nanos ∨ latestNanos < t.nanos + span.nanos := by
  have begun : earliestNanos ≤ t.nanos + span.nanos :=
    Int.le_trans t.earliest (Int.le_add_of_nonneg_right (Int.natCast_nonneg _))
  by_cases near : span.nanos ≤ furthestNanos
  · by_cases within : t.nanos + span.nanos ≤ latestNanos
    · have plain (leap : false = true) : (t.nanos + span.nanos) / 1000000000 % 60 = 59 :=
        absurd leap Bool.false_ne_true
      have found : ofNanos? (t.nanos + span.nanos) =
          some ⟨t.nanos + span.nanos, false, begun, within, plain⟩ := by
        simp only [ofNanos?, begun, within, and_self, dif_pos]
      simp only [after?, near, if_true, found, Option.bind_some]
      split
      · rename_i leaves
        have reached := leapSecond?_isSome leaves.1 leaves.2
        simp [Option.isSome_iff_ne_none.mp reached, Nat.not_lt.mpr near, Int.not_lt.mpr within]
      · simp [Nat.not_lt.mpr near, Int.not_lt.mpr within]
    · have none : ofNanos? (t.nanos + span.nanos) = none := by
        simp only [ofNanos?, within, and_false, dif_neg, not_false_eq_true]
      simp [after?, none, Int.not_le.mp within]
  · simp [after?, near, Nat.not_le.mp near]

/-- A span that reaches no deadline at one time reaches none at a later time. -/
theorem after?_eq_none_of_le {now later : Instant} {span : Duration}
    (forward : now.nanos ≤ later.nanos) (beyond : now.after? span = none) :
    later.after? span = none := by
  rw [after?_eq_none_iff] at beyond ⊢
  exact beyond.imp_right fun reached => Int.lt_of_lt_of_le reached (Int.add_le_add_right forward _)

/-- A deadline lies the whole span ahead in the count. It is in a leap second if the
span does not leave the one that it begins in. -/
theorem of_after? {t deadline : Instant} {span : Duration}
    (ends : t.after? span = some deadline) :
    span.nanos ≤ furthestNanos ∧ deadline.nanos = t.nanos + span.nanos ∧
      (deadline.leap = true ↔ t.leap = true ∧ deadline.second = t.second) := by
  unfold after? at ends
  split at ends
  · rename_i near
    obtain ⟨later, reached, placed⟩ := Option.bind_eq_some_iff.mp ends
    have count : later.nanos = t.nanos + span.nanos ∧ later.leap = false := by
      unfold ofNanos? at reached
      split at reached <;> cases reached
      exact ⟨rfl, rfl⟩
    refine ⟨near, ?_⟩
    split at placed
    · rename_i stays
      unfold leapSecond? at placed
      split at placed <;> cases placed
      exact ⟨count.1, iff_of_true rfl stays⟩
    · rename_i leaves
      cases placed
      exact ⟨count.1, iff_of_false (by simp [count.2]) leaves⟩
  · cases ends

/-- Outside leap seconds a deadline lies the whole span ahead in the count. -/
theorem nanos_of_after? {t deadline : Instant} {span : Duration} (plain : t.leap = false)
    (ends : t.after? span = some deadline) :
    span.nanos ≤ furthestNanos ∧ deadline.nanos = t.nanos + span.nanos ∧ deadline.leap = false := by
  obtain ⟨near, count, leap⟩ := of_after? ends
  exact ⟨near, count, by simpa [plain] using leap⟩

/-- A deadline lies behind the time that it is reached from. -/
theorem lt_of_after? {now deadline : Instant} {span : Duration} (lasting : span.isZero = false)
    (ends : now.after? span = some deadline) : now < deadline := by
  have positive : 0 < span.nanos := Nat.pos_of_ne_zero (by simpa [Duration.isZero] using lasting)
  obtain ⟨-, count, leap⟩ := of_after? ends
  change now.place < deadline.place
  by_cases stays : now.leap = true ∧ deadline.second = now.second
  · simp only [place, second, stays.1, leap.mpr stays] at stays ⊢
    omega
  -- What leaves a leap second ends in a later second.
  · have plain : deadline.leap = false := Bool.eq_false_iff.mpr (mt leap.mp stays)
    have apart : now.leap = true → deadline.second ≠ now.second := fun inside same =>
      stays ⟨inside, same⟩
    simp only [second, place, plain] at apart ⊢
    split
    · have further := apart ‹_›
      simp only [Bool.false_eq_true, if_false]
      omega
    · simp only [Bool.false_eq_true, if_false]
      omega

end InstancedAreas.Instant
