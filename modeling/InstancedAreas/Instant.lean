import InstancedAreas.Duration

/-! Instants of the proleptic Gregorian calendar in UTC, counted in whole
nanoseconds since the start of 1970. The count leaves out leap seconds, so an
instant within one shares its nanoseconds with an instant of the second before
and is told apart by a mark. The calendar is bounded, so a deadline may fail to
exist; one that exists is exact. -/
namespace InstancedAreas

/-- The first nanosecond of the calendar. -/
def Instant.earliestNanos : Int := -8334601228800000 * 1000000

/-- The last nanosecond of the calendar. -/
def Instant.latestNanos : Int := 8210266876799999 * 1000000 + 999999

/-- A moment of the calendar. Any minute may end with a leap second. -/
structure Instant where
  nanos : Int
  leap : Bool
  earliest : Instant.earliestNanos ≤ nanos
  latest : nanos ≤ Instant.latestNanos
  endsMinute : leap = true → nanos / 1000000000 % 60 = 59
deriving DecidableEq

namespace Instant

/-- The second of the count that an instant lies in. -/
def second (t : Instant) : Int := t.nanos / 1000000000

/-- The place of an instant on a line that has room for a leap second behind
every second. -/
def place (t : Instant) : Int :=
  t.nanos + (t.second + if t.leap then 1 else 0) * 1000000000

theorem eq_of_place {a b : Instant} (same : a.place = b.place) : a = b := by
  obtain ⟨m, j, _, _, _⟩ := a
  obtain ⟨n, k, _, _, _⟩ := b
  have both : m = n ∧ j = k := by
    simp only [place, second] at same
    cases j <;> cases k <;> simp at same ⊢ <;> omega
  obtain ⟨rfl, rfl⟩ := both
  rfl

instance : Ord Instant := ⟨compareOn Instant.place⟩

instance : Std.TransOrd Instant :=
  inferInstanceAs (Std.TransCmp (compareOn Instant.place))

instance : Std.LawfulEqOrd Instant where
  eq_of_compare {a b} same := by
    change compare a.place b.place = .eq at same
    exact eq_of_place (Std.LawfulEqCmp.eq_of_compare same)

instance : LE Instant := ⟨fun a b => a.place ≤ b.place⟩

instance : LT Instant := ⟨fun a b => a.place < b.place⟩

instance (a b : Instant) : Decidable (a ≤ b) := inferInstanceAs (Decidable (a.place ≤ b.place))

instance (a b : Instant) : Decidable (a < b) := inferInstanceAs (Decidable (a.place < b.place))

/-- Outside leap seconds the count decides the order. -/
theorem le_iff_nanos_le {a b : Instant} (plain : a.leap = false) (plain' : b.leap = false) :
    a ≤ b ↔ a.nanos ≤ b.nanos := by
  change a.place ≤ b.place ↔ _
  simp only [place, second, plain, plain', Bool.false_eq_true, if_false]
  omega

/-- The instant so many nanoseconds after the start of 1970, if the calendar
reaches it. -/
def ofNanos? (nanos : Int) : Option Instant :=
  if h : earliestNanos ≤ nanos ∧ nanos ≤ latestNanos then some ⟨nanos, false, h.1, h.2, nofun⟩
  else none

/-- The instant in the leap second behind that is as far into it as this one is
into its own second, if a minute ends here. -/
def leapSecond? (t : Instant) : Option Instant :=
  if h : t.nanos / 1000000000 % 60 = 59 then some { t with leap := true, endsMinute := fun _ => h }
  else none

/-- The instant so many milliseconds after the start of 1970. -/
def ofMillis? (millis : Int) : Option Instant := ofNanos? (millis * 1000000)

/-- The start of 1970. -/
def epoch : Instant := ⟨0, false, by decide, by decide, nofun⟩

instance : Inhabited Instant := ⟨epoch⟩

/-- The whole milliseconds since the start of 1970, rounded down. Those within a leap
second are counted on from the second before. -/
def millis (t : Instant) : Int := t.nanos / 1000000 + if t.leap then 1000 else 0

/-- The longest span that a deadline may lie ahead, 2^63 - 1 milliseconds. -/
def furthestNanos : Nat := 9223372036854775807 * 1000000

/-- The instant a span later. There is none when the span is longer than any
deadline may be, or when the calendar ends before. A span that leaves a leap
second leaves it as if it were the second before. -/
def after? (t : Instant) (span : Duration) : Option Instant :=
  if span.nanos ≤ furthestNanos then
    (ofNanos? (t.nanos + span.nanos)).bind fun later =>
      if t.leap ∧ later.second = t.second then later.leapSecond? else some later
  else none

/-- The time of day of an instant, in whole seconds. -/
def secondOfDay (t : Instant) : Int := t.second % 86400

/-- The nanoseconds of an instant in a difference with another one. A leap
second has passed, and counts, unless the other has the later time of day. -/
def nanosBeside (t other : Instant) : Int :=
  if t.leap ∧ other.secondOfDay ≤ t.secondOfDay then t.nanos + 1000000000 else t.nanos

/-- The time from an instant to a deadline, nothing once the deadline is
reached. -/
def remaining (deadline now : Instant) : Duration :=
  ⟨(deadline.nanosBeside now - now.nanosBeside deadline).toNat, by
    have := deadline.latest
    have := now.earliest
    have above : deadline.nanosBeside now ≤ deadline.nanos + 1000000000 := by
      unfold nanosBeside
      split <;> omega
    have below : now.nanos ≤ now.nanosBeside deadline := by
      unfold nanosBeside
      split <;> omega
    simp only [latestNanos, earliestNanos, Duration.limit, UInt64.size, nanosPerSecond] at *
    omega⟩

end Instant

end InstancedAreas
