import InstancedAreas.Instance.Id
import InstancedAreas.Proofs.Text.Digits
import Mathlib.Algebra.GroupWithZero.Nat

/-! The text of an id spells the id. It has 32 digits in five groups, whatever the number
is, and no digit can be taken for the start of another spelling. -/
namespace InstancedAreas.InstanceId

/-- A group is followed by a hyphen and the other groups. -/
theorem intercalate_cut (n next : Nat) (lengths : List Nat) (digits : List Char) :
    ['-'].intercalate (cut (n :: next :: lengths) digits) =
      digits.take n ++ '-' :: ['-'].intercalate (cut (next :: lengths) (digits.drop n)) := by
  simp [cut, List.intercalate]

/-- Digits in groups are read group by group. -/
theorem ungrouped?_cut (n : Nat) (lengths : List Nat) (digits : List Char)
    (total : digits.length = n + lengths.sum) :
    ungrouped? (n :: lengths) (['-'].intercalate (cut (n :: lengths) digits)) = some digits := by
  induction lengths generalizing n digits with
  | nil =>
    have length : digits.length = n := total
    have all : digits.take n = digits := List.take_of_length_le (Nat.le_of_eq length)
    simp [cut, ungrouped?, List.intercalate, all, length]
  | cons next lengths ih =>
    rw [List.sum_cons] at total
    have front : (digits.take n).length = n := by simp; omega
    have behind := ih next (digits.drop n) (by simp; omega)
    rw [intercalate_cut, ungrouped?, List.drop_left' front, List.take_left' front]
    · simp only [behind, Option.map_some, List.take_append_drop]
    · simp

/-- The digits of an id spell it. -/
theorem ofDigits?_padded (id : InstanceId) :
    ofDigits? (Text.padded 16 32 id.number) = some id := by
  have spelled : Text.ofDigits? 16 (Text.padded 16 32 id.number) = some id.number :=
    Text.ofDigits?_padded (by decide) (by decide) 32 id.number
  have length : (Text.padded 16 32 id.number).length = 32 :=
    Text.length_padded (by decide) (by decide) id.bounded
  rw [ofDigits?, if_pos length, spelled]
  exact dif_pos id.bounded

/-- A text in groups has a hyphen where the name in front of one has a colon. -/
theorem not_behind_urn {digits rest : List Char} (eight : digits.length = 8) :
    ((digits ++ '-' :: rest).take urn.length).map Char.toLower ≠ urn := by
  intro name
  have colon : urn[8]? = some ':' := by decide
  have nine : 8 < urn.length := by decide
  have ninth : (digits ++ '-' :: rest)[8]? = some '-' := by
    rw [List.getElem?_append_right (Nat.le_of_eq eight), eight]
    rfl
  rw [← name, List.getElem?_map, List.getElem?_take_of_lt nine, ninth] at colon
  exact absurd colon (by decide)

/-- The text of an id spells it. -/
theorem ofText?_text (id : InstanceId) : ofText? id.text = some id := by
  obtain ⟨digits, same⟩ : ∃ digits, Text.padded 16 32 id.number = digits := ⟨_, rfl⟩
  have length : digits.length = 32 :=
    same ▸ Text.length_padded (by decide) (by decide) id.bounded
  have spelled : Text.ofDigits? 16 digits = some id.number :=
    same ▸ Text.ofDigits?_padded (by decide) (by decide) 32 id.number
  have found : ofDigits? digits = some id := same ▸ ofDigits?_padded id
  have grouped : ungrouped? groups (['-'].intercalate (cut groups digits)) = some digits :=
    ungrouped?_cut 8 [4, 4, 4, 12] digits length
  have long : (['-'].intercalate (cut groups digits)).length ≠ 32 := by
    simp [groups, cut, List.intercalate, length]
  rw [ofText?, text, String.toList_ofList, same]
  simp only [if_neg long]
  split
  · -- A brace is no digit.
    rename_i rest brace
    cases digits with
    | nil => exact absurd length (by decide)
    | cons c more =>
      have first : c = '\x7b' := (List.cons.inj brace).1
      rw [first, Text.ofDigits?_cons_eq_none (by decide)] at spelled
      exact absurd spelled nofun
  · have eight : (digits.take 8).length = 8 := by simp [length]
    have bare :
        ((['-'].intercalate (cut groups digits)).take urn.length).map Char.toLower ≠ urn := by
      rw [groups, intercalate_cut]
      exact not_behind_urn eight
    rw [if_neg bare, grouped, Option.bind_some, found]

end InstancedAreas.InstanceId
