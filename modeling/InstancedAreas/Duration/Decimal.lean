import InstancedAreas.Duration

/-! Spans as one decimal number of the largest unit that they reach, as they
stand in messages: `7200s`, `1.5s`, `1.234567ms`, `0ns`. -/
namespace InstancedAreas.Duration

/-- A number divided by a power of ten, written exactly and without trailing
zeros behind the point. -/
def scaled (places n : Nat) : String :=
  let unit := Text.tenTo places
  let fraction := (Text.padded 10 places (n % unit)).reverse.dropWhile (· == '0')
  let whole := Text.decimal (n / unit)
  if fraction.isEmpty then whole else whole ++ "." ++ String.ofList fraction.reverse

/-- A span in seconds, or in milli-, micro- or nanoseconds when it is shorter
than one of the larger unit. -/
def decimal (d : Duration) : String :=
  if nanosPerSecond ≤ d.nanos then scaled 9 d.nanos ++ "s"
  else if nanosPerMilli ≤ d.nanos then scaled 6 d.nanos ++ "ms"
  else if nanosPerMicro ≤ d.nanos then scaled 3 d.nanos ++ "µs"
  else Text.decimal d.nanos ++ "ns"

end InstancedAreas.Duration
