import InstancedAreas.Instant.Calendar
import InstancedAreas.Json
import InstancedAreas.Text.Digits

/-! TOML values without quotes: truth values, whole numbers of 64 bits, numbers
with a fraction, and dates and times. A date or time is a table of its own
kind, in which nothing can be found. -/
namespace InstancedAreas.Toml

/-- Digits without the single underscores that may stand between them. -/
def ungroup? (chars : List Char) : Option (List Char) :=
  let parts := chars.splitOn '_'
  if parts.any List.isEmpty then none else some parts.flatten

/-- The value of digits of a base, between which single underscores may stand. -/
def grouped? (base : Nat) (chars : List Char) : Option Nat :=
  (ungroup? chars).bind (Text.ofDigits? base)

/-- Whether digits are a decimal numeral without leading zeros. -/
def isCanonical (chars : List Char) : Bool :=
  (grouped? 10 chars).isSome && (chars.length == 1 || chars.head? != some '0')

/-- A sign and what follows it. -/
def signed (chars : List Char) : Bool × List Char :=
  match chars with
  | '-' :: rest => (true, rest)
  | '+' :: rest => (false, rest)
  | _ => (false, chars)

/-- A whole number in decimal, or without a sign in base 16, 8 or 2. -/
def integer? (chars : List Char) : Option Int := do
  let n ← match chars with
    | '0' :: 'x' :: digits => (grouped? 16 digits).map Int.ofNat
    | '0' :: 'o' :: digits => (grouped? 8 digits).map Int.ofNat
    | '0' :: 'b' :: digits => (grouped? 2 digits).map Int.ofNat
    | _ =>
      let (negative, digits) := signed chars
      if isCanonical digits then
        (grouped? 10 digits).map fun n => if negative then -(n : Int) else n
      else none
  if Int64.minValue.toInt ≤ n ∧ n ≤ Int64.maxValue.toInt then some n else none

/-- A number with a fraction or an exponent: whether it is negative, its digits
as a whole number, and the power of ten that counts them. -/
def decimal? (chars : List Char) : Option (Bool × Nat × Int) := do
  let (negative, unsigned) := signed chars
  let whole := unsigned.takeWhile fun c => c != '.' && c != 'e' && c != 'E'
  let rest := unsigned.drop whole.length
  let (fraction, rest) := match rest with
    | '.' :: tail =>
      let digits := tail.takeWhile fun c => c != 'e' && c != 'E'
      (some digits, tail.drop digits.length)
    | _ => (none, rest)
  let exponent := match rest with
    | [] => none
    | _ :: tail => some tail
  if isCanonical whole ∧ (fraction.isSome ∨ exponent.isSome) then
    let places ← fraction.elim (some []) ungroup?
    let n ← Text.ofDigits? 10 (whole.filter (· != '_') ++ places)
    let power ← exponent.elim (some 0) fun tail =>
      let (negative, digits) := signed tail
      (grouped? 10 digits).map fun n => if negative then -(n : Int) else n
    some (negative, n, power - places.length)
  else none

/-- The least number too great for a binary fraction of 64 bits: it lies half a
step above the greatest one, 2^1024 - 2^971. -/
def tooGreat : Nat := Nat.pow 2 1024 - Nat.pow 2 970

/-- Whether so many times a power of ten are too great. All numbers of at most
308 digits are smaller, and all of at least 310 are too great. -/
def overflows (n : Nat) (power : Int) : Bool :=
  let digits := (Nat.toDigits 10 n).length + power
  if n = 0 ∨ digits ≤ 308 then false
  else if 310 ≤ digits then true
  else tooGreat * Text.tenTo (-power).toNat ≤ n * Text.tenTo power.toNat

/-- Whether a text is a number with a fraction or an exponent, or one of the
special ones. A number may be too small to be told from zero, and below all
that there are, but not above. -/
def isReal (chars : List Char) : Bool :=
  let (_, unsigned) := signed chars
  unsigned = ['i', 'n', 'f'] || unsigned = ['n', 'a', 'n'] ||
    (decimal? chars).any fun (negative, n, power) => negative || !overflows n power

/-- The number that a fixed count of digits spells. -/
def fixed? (count : Nat) (chars : List Char) : Option (Nat × List Char) :=
  let digits := chars.take count
  if digits.length = count then (Text.ofDigits? 10 digits).map (·, chars.drop count) else none

/-- What follows a mark. -/
def behind? (mark : Char) : List Char → Option (List Char)
  | c :: rest => if c = mark then some rest else none
  | [] => none

/-- What follows a date. -/
def date? (chars : List Char) : Option (List Char) := do
  let (year, rest) ← fixed? 4 chars
  let (month, rest) ← (behind? '-' rest).bind (fixed? 2)
  let (day, rest) ← (behind? '-' rest).bind (fixed? 2)
  if 1 ≤ month ∧ month ≤ 12 ∧ 1 ≤ day ∧ day ≤ Date.daysInMonth year month then some rest
  else none

/-- What follows a time of day. -/
def time? (chars : List Char) : Option (List Char) := do
  let (hour, rest) ← fixed? 2 chars
  let (minute, rest) ← (behind? ':' rest).bind (fixed? 2)
  let (second, rest) ← (behind? ':' rest).bind (fixed? 2)
  if hour < 24 ∧ minute < 60 ∧ second ≤ 60 then
    match rest with
    | '.' :: tail =>
      let digits := tail.takeWhile Text.isDigit
      if digits.isEmpty then none else some (tail.drop digits.length)
    | _ => some rest
  else none

/-- Whether a text is an offset from UTC. -/
def isOffset (chars : List Char) : Bool :=
  match chars with
  | ['Z'] | ['z'] => true
  | sign :: rest =>
    (sign == '+' || sign == '-') &&
      ((fixed? 2 rest).any fun (hour, rest) =>
        hour < 24 && (((behind? ':' rest).bind (fixed? 2)).any fun (minute, rest) =>
          minute < 60 && rest.isEmpty))
  | [] => false

/-- Whether a text is a date, a time, or both with or without an offset. -/
def isMoment (chars : List Char) : Bool :=
  match date? chars with
  | some [] => true
  | some (mark :: rest) =>
    (mark == 'T' || mark == 't' || mark == ' ') &&
      (time? rest).any fun rest => rest.isEmpty || isOffset rest
  | none => (time? chars).any List.isEmpty

/-- The value of a text without quotes. -/
def scalar? (chars : List Char) : Option Json :=
  if chars = "true".toList then some (.bool true)
  else if chars = "false".toList then some (.bool false)
  else if isMoment chars then some (.object [])
  else if isReal chars then some (.real (String.ofList chars))
  else (integer? chars).map .int

/-- Whether a character may stand in a value without quotes. -/
def isBare (c : Char) : Bool :=
  c.isAlphanum || c == '+' || c == '-' || c == '_' || c == '.' || c == ':'

/-- The text of a value without quotes. A blank may stand between a date and a
time. -/
def bare (chars : List Char) : List Char × List Char :=
  let first := chars.takeWhile isBare
  let rest := chars.drop first.length
  match rest with
  | ' ' :: tail =>
    let second := tail.takeWhile isBare
    if date? first = some [] ∧ (time? second).isSome then
      (first ++ ' ' :: second, tail.drop second.length)
    else (first, rest)
  | _ => (first, rest)

end InstancedAreas.Toml
