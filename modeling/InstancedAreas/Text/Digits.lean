/-! Numbers written in ASCII digits: decimal numerals, numerals padded to a
width, and the value of a digit in a base. Reading undoes writing. -/
namespace InstancedAreas.Text

/-- The value of an ASCII decimal digit. -/
def digit? (c : Char) : Option Nat :=
  if '0' ≤ c ∧ c ≤ '9' then some (c.toNat - 48) else none

/-- Whether a character is an ASCII decimal digit. -/
def isDigit (c : Char) : Bool := (digit? c).isSome

/-- The value of a digit in a base up to sixteen, letters in either case. -/
def digitIn? (base : Nat) (c : Char) : Option Nat :=
  let value :=
    if '0' ≤ c ∧ c ≤ '9' then some (c.toNat - 48)
    else if 'a' ≤ c ∧ c ≤ 'f' then some (c.toNat - 87)
    else if 'A' ≤ c ∧ c ≤ 'F' then some (c.toNat - 55)
    else none
  value.filter (· < base)

/-- The decimal numeral of a number, without leading zeros. -/
def decimal (n : Nat) : String := String.ofList (Nat.toDigits 10 n)

/-- A power of ten. -/
def tenTo (n : Nat) : Nat := Nat.pow 10 n

/-- A numeral filled up with zeros on the left to at least `width` digits. -/
def padded (base width n : Nat) : List Char :=
  let digits := Nat.toDigits base n
  List.replicate (width - digits.length) '0' ++ digits

/-- The number that the digits of a base spell, from the left. -/
def ofDigits? (base : Nat) (chars : List Char) : Option Nat :=
  chars.foldlM (fun total c => (digitIn? base c).map (total * base + ·)) 0

/-- A non-empty decimal numeral, leading zeros allowed. -/
def numeral? (chars : List Char) : Option Nat :=
  if chars.isEmpty then none else ofDigits? 10 chars

end InstancedAreas.Text
