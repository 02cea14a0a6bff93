import InstancedAreas.Text.Digits

/-! Instance ids: numbers of 128 bits, fresh for every instance, written as
UUID text in lower case with hyphens. -/
namespace InstancedAreas

/-- The number of ids. -/
def InstanceId.count : Nat := UInt64.size * UInt64.size

/-- The id of one incarnation of an instance. -/
structure InstanceId where
  number : Nat
  bounded : number < InstanceId.count
deriving DecidableEq

namespace InstanceId

instance : Ord InstanceId := ⟨compareOn InstanceId.number⟩

instance : Std.TransOrd InstanceId :=
  inferInstanceAs (Std.TransCmp (compareOn InstanceId.number))

instance : Std.LawfulEqOrd InstanceId where
  eq_of_compare {a b} same := by
    change compare a.number b.number = .eq at same
    have number := Std.LawfulEqCmp.eq_of_compare same
    cases a
    cases b
    simp_all

/-- The id with a number, taken modulo the number of ids. -/
def ofNat (n : Nat) : InstanceId := ⟨n % count, Nat.mod_lt _ (by decide)⟩

instance : Inhabited InstanceId := ⟨ofNat 0⟩

/-- The lengths of the five groups of digits. -/
def groups : List Nat := [8, 4, 4, 4, 12]

/-- Cuts a list into groups of the given lengths, the rest staying behind. -/
def cut {α : Type} : List Nat → List α → List (List α)
  | [], _ => []
  | n :: lengths, items => items.take n :: cut lengths (items.drop n)

/-- The text of an id: 32 digits in groups of 8, 4, 4, 4 and 12. -/
def text (id : InstanceId) : String :=
  String.ofList (['-'].intercalate (cut groups (Text.padded 16 32 id.number)))

/-- The id that 32 digits spell. -/
def ofDigits? (digits : List Char) : Option InstanceId :=
  if digits.length = 32 then
    (Text.ofDigits? 16 digits).bind fun n => if h : n < count then some ⟨n, h⟩ else none
  else none

/-- The digits of a text whose groups are parted by hyphens. -/
def ungrouped? : List Nat → List Char → Option (List Char)
  | [], _ => none
  | [n], chars => if chars.length = n then some chars else none
  | n :: lengths, chars =>
    match chars.drop n with
    | '-' :: rest => (ungrouped? lengths rest).map (chars.take n ++ ·)
    | _ => none

/-- What may stand in front of the hyphenated digits, in either case. -/
def urn : List Char := "urn:uuid:".toList

/-- The id that a text spells: 32 digits in either case, with hyphens or
without, and with hyphens also in braces or behind `urn:uuid:`. -/
def ofText? (text : String) : Option InstanceId :=
  let chars := text.toList
  if chars.length = 32 then ofDigits? chars
  else
    let inner := match chars with
      | '\x7b' :: rest => if rest.getLast? = some '\x7d' then rest.dropLast else chars
      | _ => if (chars.take urn.length).map Char.toLower = urn then chars.drop urn.length else chars
    (ungrouped? groups inner).bind ofDigits?

end InstanceId

end InstancedAreas
