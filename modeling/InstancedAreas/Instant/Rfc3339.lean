import InstancedAreas.Instant.Calendar
import InstancedAreas.Text.Blank
import InstancedAreas.Text.Digits

/-! Instants as RFC 3339 text. Writing is in UTC with the shortest fraction of
0, 3, 6 or 9 digits that is exact. Reading accepts every offset, blanks around
the parts of the date and the time, and a signed year of any length. The second
60 of any minute is a leap second. -/
namespace InstancedAreas.Instant

/-- A year in four digits, or with its sign and at least four. -/
def yearText (year : Int) : String :=
  if 0 ≤ year ∧ year ≤ 9999 then String.ofList (Text.padded 10 4 year.toNat)
  else (if year < 0 then "-" else "+") ++ String.ofList (Text.padded 10 4 year.natAbs)

/-- The digits behind the second: none, or a point and as few groups of three
as are exact. -/
def fractionText (nanos : Nat) : String :=
  if nanos = 0 then ""
  else if nanos % 1000000 = 0 then "." ++ String.ofList (Text.padded 10 3 (nanos / 1000000))
  else if nanos % 1000 = 0 then "." ++ String.ofList (Text.padded 10 6 (nanos / 1000))
  else "." ++ String.ofList (Text.padded 10 9 nanos)

/-- A number in two digits. -/
def twoDigits (n : Nat) : String := String.ofList (Text.padded 10 2 n)

/-- The nanoseconds of a day. -/
def nanosPerDay : Int := 86400 * 1000000000

/-- An instant as text in UTC. -/
def rfc3339 (t : Instant) : String :=
  let date := Date.ofDays (t.nanos / nanosPerDay)
  let nanos := (t.nanos % nanosPerDay).toNat
  let seconds := nanos / nanosPerSecond
  yearText date.year ++ "-" ++ twoDigits date.month ++ "-" ++ twoDigits date.day ++ "T" ++
    twoDigits (seconds / 3600) ++ ":" ++ twoDigits (seconds / 60 % 60) ++ ":" ++
    twoDigits (seconds % 60 + if t.leap then 1 else 0) ++
    fractionText (nanos % nanosPerSecond) ++ "Z"

/-- A number of one digit up to a greatest count of digits, and what follows
it. -/
def number? (most : Nat) (chars : List Char) : Option (Nat × List Char) :=
  let digits := (chars.take most).takeWhile Text.isDigit
  (Text.numeral? digits).map (·, chars.drop digits.length)

/-- A number behind blanks. -/
def field? (most : Nat) (chars : List Char) : Option (Nat × List Char) :=
  number? most (Text.trimStart chars)

/-- What follows a mark that may stand behind blanks. -/
def past? (mark : Char) (chars : List Char) : Option (List Char) :=
  match Text.trimStart chars with
  | c :: rest => if c = mark then some rest else none
  | [] => none

/-- A year: up to four digits, or any number of them behind a sign. -/
def year? (chars : List Char) : Option (Int × List Char) :=
  match Text.trimStart chars with
  | '-' :: rest => (number? rest.length rest).map fun (n, rest) => (-(n : Int), rest)
  | '+' :: rest => (number? rest.length rest).map fun (n, rest) => ((n : Int), rest)
  | rest => (number? 4 rest).map fun (n, rest) => ((n : Int), rest)

/-- The nanoseconds of a fraction of a second. Digits behind the ninth are
dropped. -/
def fraction? (chars : List Char) : Option (Nat × List Char) :=
  match chars with
  | '.' :: rest =>
    let digits := rest.takeWhile Text.isDigit
    let kept := digits.take 9
    (Text.numeral? kept).map fun n => (n * Text.tenTo (9 - kept.length), rest.drop digits.length)
  | _ => some (0, chars)

/-- The two digits at the start of a text. -/
def pair? : List Char → Option (Nat × List Char)
  | a :: b :: rest => (Text.ofDigits? 10 [a, b]).map (·, rest)
  | _ => none

/-- An offset from UTC in minutes: `Z`, `UTC`, or a signed count of hours and
minutes below a day. -/
def offset? (chars : List Char) : Option (Int × List Char) :=
  let signed (positive : Bool) (rest : List Char) : Option (Int × List Char) := do
    let (hours, rest) ← pair? rest
    let (minutes, rest) ← pair? (rest.dropWhile fun c => c == ':' || Text.isBlank c)
    let total := hours * 60 + minutes
    if minutes < 60 ∧ total < 24 * 60 then
      some (if positive then (total : Int) else -(total : Int), rest)
    else none
  match chars with
  | 'Z' :: rest | 'z' :: rest => some (0, rest)
  | '+' :: rest => signed true rest
  | '-' :: rest | '\u2212' :: rest => signed false rest
  | u :: t :: c :: rest =>
    if [u, t, c].map Char.toUpper = ['U', 'T', 'C'] then some (0, rest) else none
  | _ => none

/-- The instant that a text names. -/
def ofRfc3339? (text : String) : Option Instant := do
  let (year, rest) ← year? text.toList
  let (month, rest) ← (past? '-' rest).bind (field? 2)
  let (day, rest) ← (past? '-' rest).bind (field? 2)
  let rest ← match rest with
    | 'T' :: rest | 't' :: rest | ' ' :: rest => some rest
    | _ => none
  let (hour, rest) ← field? 2 rest
  let (minute, rest) ← (past? ':' rest).bind (field? 2)
  let (second, rest) ← (past? ':' rest).bind (field? 2)
  let (nanos, rest) ← fraction? rest
  let (offset, rest) ← offset? (Text.trimStart rest)
  let date : Date := ⟨year, month, day⟩
  if rest.all Text.isBlank && Date.firstYear ≤ year && year ≤ Date.lastYear && date.valid &&
      hour < 24 && minute < 60 && second ≤ 60 then
    let seconds : Int := hour * 3600 + minute * 60 + min second 59 - offset * 60
    let t ← ofNanos? (date.daysSinceEpoch * nanosPerDay + seconds * 1000000000 + nanos)
    if second = 60 then t.leapSecond? else some t
  else none

end InstancedAreas.Instant
