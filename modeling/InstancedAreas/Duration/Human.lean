import InstancedAreas.Duration
import InstancedAreas.Text.Blank

/-! Spans as human text: counts of named units, `1year 2months 3days 4h 5m`.
Writing is greedy from the longest unit down. Reading takes the units in any
order, adds up repeats, allows a fraction that divides evenly, and refuses
every number that leaves 64 bits on the way. -/
namespace InstancedAreas.Duration

/-- The units of human text. -/
inductive Measure where
  | nanosecond | microsecond | millisecond | second | minute | hour | day | week | month | year
deriving DecidableEq, Repr

namespace Measure

/-- The measure that a name stands for. Case matters: `m` is a minute and `M`
a month. -/
def ofName? (name : String) : Option Measure :=
  if ["nanos", "nsec", "ns"].contains name then some .nanosecond
  else if ["usec", "us", "µs"].contains name then some .microsecond
  else if ["millis", "msec", "ms"].contains name then some .millisecond
  else if ["seconds", "second", "secs", "sec", "s"].contains name then some .second
  else if ["minutes", "minute", "min", "mins", "m"].contains name then some .minute
  else if ["hours", "hour", "hr", "hrs", "h"].contains name then some .hour
  else if ["days", "day", "d"].contains name then some .day
  else if ["weeks", "week", "wk", "wks", "w"].contains name then some .week
  else if ["months", "month", "M"].contains name then some .month
  else if ["years", "year", "yr", "yrs", "y"].contains name then some .year
  else none

/-- The seconds of a measure that lasts at least one. -/
def seconds? : Measure → Option Nat
  | .nanosecond | .microsecond | .millisecond => none
  | .second => some 1
  | .minute => some 60
  | .hour => some 3600
  | .day => some 86400
  | .week => some 604800
  | .month => some 2630016
  | .year => some 31557600

/-- The length of a measure in nanoseconds. -/
def nanos : Measure → Nat
  | .nanosecond => 1
  | .microsecond => nanosPerMicro
  | .millisecond => nanosPerMilli
  | measure => (measure.seconds?.getD 0) * nanosPerSecond

/-- The smallest part into which a fraction of a measure may divide it:
nothing for a nanosecond, nanoseconds up to the minute, seconds above. -/
def grain? : Measure → Option Nat
  | .nanosecond => none
  | .microsecond | .millisecond | .second | .minute => some 1
  | .hour | .day | .week | .month | .year => some nanosPerSecond

/-- The name that is written behind a count. -/
def label : Measure → Nat → String
  | .nanosecond, _ => "ns"
  | .microsecond, _ => "us"
  | .millisecond, _ => "ms"
  | .second, _ => "s"
  | .minute, _ => "m"
  | .hour, _ => "h"
  | .day, count => if count > 1 then "days" else "day"
  | .week, count => if count > 1 then "weeks" else "week"
  | .month, count => if count > 1 then "months" else "month"
  | .year, count => if count > 1 then "years" else "year"

end Measure

/-- The measures that are written, from the longest down. -/
def written : List Measure :=
  [.year, .month, .day, .hour, .minute, .second, .millisecond, .microsecond, .nanosecond]

/-- How often each measure in turn fits into what the ones before have left. -/
def split (nanos : Nat) : List Measure → List (Nat × Measure)
  | [] => []
  | measure :: rest =>
    (nanos / measure.nanos, measure) :: split (nanos % measure.nanos) rest

/-- A span as human text. -/
def human (d : Duration) : String :=
  if d.isZero then "0s"
  else
    let counts := (split d.nanos written).filter (·.1 != 0)
    " ".intercalate (counts.map fun (count, measure) =>
      Text.decimal count ++ measure.label count)

/-- A number as it stands in front of a measure: its whole part and the digits
of its fraction, if it has one. -/
structure Amount where
  whole : Nat
  fraction : Option (List Char)
deriving DecidableEq

/-- Keeps a number that fits in 64 bits. -/
def word? (n : Nat) : Option Nat := if n < UInt64.size then some n else none

/-- The nanoseconds of a whole count of a measure behind a total that the
earlier spans have reached. Counts of less than a second are added to the
total's part below a second in 64 bits of nanoseconds, others in seconds. -/
def wholeNanos? (total count : Nat) (measure : Measure) : Option Nat := do
  let count ← word? count
  match measure.seconds? with
  | some seconds => (word? (count * seconds)).map (· * nanosPerSecond)
  | none =>
    let nanos ← word? (count * measure.nanos)
    (word? (total % nanosPerSecond + nanos)).map fun _ => nanos

/-- The nanoseconds of a fraction of a measure, when it is a whole number of
the measure's grains. -/
def fractionNanos? (digits : List Char) (measure : Measure) : Option Nat := do
  let grain ← measure.grain?
  let numerator ← (Text.numeral? digits).bind word?
  let denominator ← word? (Text.tenTo digits.length)
  let scaled ← word? (numerator * (measure.nanos / grain))
  if scaled % denominator = 0 then some (scaled / denominator * grain) else none

/-- A total with one span more. -/
def addSpan? (total : Nat) (amount : Amount) (name : String) : Option Nat := do
  let measure ← Measure.ofName? name
  let whole ← wholeNanos? total amount.whole measure
  let fraction ← match amount.fraction with
    | none => some 0
    | some digits => fractionNanos? digits measure
  (ofNanos? (total + whole + fraction)).map Duration.nanos

/-- What has been read of a text: the total of the finished spans, and the
span that is being read, if there is one. Digits and letters are kept in
reverse. -/
inductive Reading where
  | start
  | between (total : Nat)
  | whole (total : Nat) (digits : List Char)
  | fraction (total : Nat) (digits : List Char) (places : List Char)
  | name (total : Nat) (amount : Amount) (letters : List Char)

/-- Whether a character may stand in the name of a measure. -/
def isLetter (c : Char) : Bool := c.isAlpha || c == 'µ'

/-- Reads one character further. -/
def Reading.step? (reading : Reading) (c : Char) : Option Reading :=
  match reading with
  | .start =>
    if Text.isDigit c then some (.whole 0 [c])
    else if Text.isBlank c then some .start
    else none
  | .between total =>
    if Text.isDigit c then some (.whole total [c])
    else if Text.isBlank c then some (.between total)
    else none
  | .whole total digits =>
    if Text.isDigit c then some (.whole total (c :: digits))
    else if Text.isBlank c then some (.whole total digits)
    else if isLetter c then do
      let whole ← Text.numeral? digits.reverse
      some (.name total ⟨whole, none⟩ [c])
    else if c = '.' then some (.fraction total digits [])
    else none
  | .fraction total digits places =>
    if Text.isDigit c then some (.fraction total digits (c :: places))
    else if Text.isBlank c then some (.fraction total digits places)
    else if isLetter c then do
      let whole ← Text.numeral? digits.reverse
      some (.name total ⟨whole, some places.reverse⟩ [c])
    else none
  | .name total amount letters =>
    if isLetter c then some (.name total amount (c :: letters))
    else do
      let total ← if Text.isDigit c || Text.isBlank c then
          addSpan? total amount (String.ofList letters.reverse)
        else none
      some (if Text.isDigit c then .whole total [c] else .between total)

/-- The total when the text ends here, which it must not do before the name of
a measure. -/
def Reading.finish? : Reading → Option Nat
  | .between total => some total
  | .name total amount letters => addSpan? total amount (String.ofList letters.reverse)
  | _ => none

/-- The span that a human text spells. A lone `0` needs no measure. -/
def ofHuman? (text : String) : Option Duration :=
  if text = "0" then some zero
  else do
    let reading ← text.toList.foldlM Reading.step? .start
    let total ← reading.finish?
    ofNanos? total

end InstancedAreas.Duration
