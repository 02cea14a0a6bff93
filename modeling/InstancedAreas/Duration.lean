import InstancedAreas.Text.Digits

/-! Spans of time, counted in whole nanoseconds. The whole seconds of a span
fit in 64 bits, so every span can be told apart from an overflow. -/
namespace InstancedAreas

/-- The nanoseconds of a second. -/
def nanosPerSecond : Nat := 1000000000

/-- The nanoseconds of a millisecond. -/
def nanosPerMilli : Nat := 1000000

/-- The nanoseconds of a microsecond. -/
def nanosPerMicro : Nat := 1000

/-- The first number of nanoseconds that is too long for a span. -/
def Duration.limit : Nat := UInt64.size * nanosPerSecond

/-- A span of time that is not negative and below the limit. -/
structure Duration where
  nanos : Nat
  bounded : nanos < Duration.limit
deriving DecidableEq

namespace Duration

/-- A span of so many nanoseconds, unless they reach the limit. -/
def ofNanos? (nanos : Nat) : Option Duration :=
  if bounded : nanos < limit then some ⟨nanos, bounded⟩ else none

/-- No time at all. -/
def zero : Duration := ⟨0, by decide⟩

instance : Inhabited Duration := ⟨zero⟩

/-- The longest span. -/
def longest : Duration := ⟨limit - 1, by decide⟩

/-- A span of whole seconds. -/
def ofSeconds (seconds : UInt64) : Duration :=
  ⟨seconds.toNat * nanosPerSecond, by
    have below := seconds.toNat_lt
    simp only [limit, UInt64.size, nanosPerSecond]
    omega⟩

/-- A span of seconds and the nanoseconds beyond them, each within its range. -/
def ofParts? (seconds nanos : Nat) : Option Duration :=
  if nanos < nanosPerSecond then ofNanos? (seconds * nanosPerSecond + nanos) else none

/-- The whole seconds of a span. -/
def seconds (d : Duration) : Nat := d.nanos / nanosPerSecond

/-- The nanoseconds beyond the whole seconds. -/
def subsecNanos (d : Duration) : Nat := d.nanos % nanosPerSecond

/-- The whole milliseconds of a span. -/
def wholeMillis (d : Duration) : Nat := d.nanos / nanosPerMilli

/-- The least number of milliseconds that covers a span. -/
def ceilMillis (d : Duration) : Nat := (d.nanos + (nanosPerMilli - 1)) / nanosPerMilli

/-- Whether a span is no time at all. -/
def isZero (d : Duration) : Bool := d.nanos == 0

theorem ofNanos?_nanos (d : Duration) : ofNanos? d.nanos = some d := by
  simp [ofNanos?, d.bounded]

end Duration

end InstancedAreas
