import InstancedAreas.Instant

/-! A clock that moves only when told to. It counts whole milliseconds and
stops at the last one of the calendar instead of running past it. -/
namespace InstancedAreas

/-- A clock set by hand, in milliseconds since the start of 1970. -/
structure Clock where
  millis : Int
deriving DecidableEq, Repr

namespace Clock

/-- The last millisecond of the calendar. -/
def latestMillis : Int := 8210266876799999

/-- The greatest number of milliseconds that a deadline may lie ahead, which
is also the greatest that the clock's arithmetic holds. -/
def mostMillis : Int := 9223372036854775807

/-- A clock that stands at the whole milliseconds of an instant. -/
def startingAt (t : Instant) : Clock := ⟨t.millis⟩

/-- The instant that a clock shows, or the start of 1970 should its count lie
outside the calendar. -/
def now (clock : Clock) : Instant := (Instant.ofMillis? clock.millis).getD .epoch

/-- The milliseconds by which a span moves a clock. -/
def stride (span : Duration) : Int :=
  if span.nanos ≤ Instant.furthestNanos then span.wholeMillis else mostMillis

/-- Moves a clock forward, no further than the end of the calendar. -/
def advance (clock : Clock) (span : Duration) : Clock :=
  ⟨min (min (clock.millis + stride span) mostMillis) latestMillis⟩

/-- Puts a clock to an instant. -/
def set (_ : Clock) (t : Instant) : Clock := startingAt t

end Clock

end InstancedAreas
