import InstancedAreas.Text.Blank
import InstancedAreas.Text.Digits
import Mathlib.Algebra.Group.Nat.Defs

/-! Numerals, and reading in steps. In every base up to sixteen, the number that the
digits of a numeral spell is the one that was written, zeros in front or not. -/
namespace InstancedAreas.Text

/-- One part is read, and then the others. -/
theorem bind_eq {α β : Type} {x : Option α} {f : α → Option β} {a : α} {result : Option β}
    (first : x = some a) (others : f a = result) : x.bind f = result := by
  rw [first, Option.bind_some, others]

/-- No blanks are skipped in front of what is not blank. -/
theorem trimStart_cons {c : Char} (solid : isBlank c = false) (rest : List Char) :
    trimStart (c :: rest) = c :: rest := by
  simp [trimStart, solid]

/-- A digit has its value in every base above it. -/
theorem digitIn?_digitChar {base d : Nat} (below : d < base) (small : base ≤ 16) :
    digitIn? base d.digitChar = some d := by
  have all : ∀ base d : Fin 17, d < base → digitIn? base (Nat.digitChar d) = some d.val := by decide
  exact all ⟨base, by omega⟩ ⟨d, by omega⟩ below

/-- Digits are read from the left. -/
theorem ofDigits?_concat {base : Nat} {chars : List Char} {n d : Nat} {c : Char}
    (front : ofDigits? base chars = some n) (last : digitIn? base c = some d) :
    ofDigits? base (chars ++ [c]) = some (n * base + d) := by
  rw [ofDigits?] at front ⊢
  rw [List.foldlM_append, front]
  simp [last]

/-- What begins with something else is no numeral. -/
theorem ofDigits?_cons_eq_none {base : Nat} {c : Char} (other : digitIn? base c = none)
    (rest : List Char) : ofDigits? base (c :: rest) = none := by
  simp [ofDigits?, other]

/-- Zeros in front make no difference. -/
theorem ofDigits?_zeros {base : Nat} (positive : 0 < base) (count : Nat) (chars : List Char) :
    ofDigits? base (List.replicate count '0' ++ chars) = ofDigits? base chars := by
  have zero : digitIn? base '0' = some 0 := by simp [digitIn?, positive]
  induction count with
  | zero => rfl
  | succ count ih => simpa [ofDigits?, List.replicate_succ, zero] using ih

section Base

variable {base : Nat} (several : 1 < base) (small : base ≤ 16)

include several small

/-- The digits of a number spell it. -/
theorem ofDigits?_toDigits (n : Nat) : ofDigits? base (Nat.toDigits base n) = some n := by
  induction n using Nat.strongRecOn with
  | ind n ih =>
    rw [Nat.toDigits_eq_if several]
    split
    · rename_i below
      simp [ofDigits?, digitIn?_digitChar below small]
    · have less : n / base < n := Nat.div_lt_self (by omega) several
      have last := digitIn?_digitChar (Nat.mod_lt n (by omega)) small
      rw [ofDigits?_concat (ih _ less) last, Nat.div_add_mod']

theorem ofDigits?_padded (width n : Nat) : ofDigits? base (padded base width n) = some n := by
  rw [padded, ofDigits?_zeros (by omega), ofDigits?_toDigits several small]

omit small in
/-- A number below a power of the base is padded to as many digits. -/
theorem length_padded {width n : Nat} (positive : 0 < width) (below : n < base ^ width) :
    (padded base width n).length = width := by
  have fits : (Nat.toDigits base n).length ≤ width :=
    (Nat.length_toDigits_le_iff several positive).mpr below
  rw [padded, List.length_append, List.length_replicate]
  omega

end Base

theorem isDigit_eq (c : Char) : isDigit c = c.isDigit := by
  unfold isDigit digit? Char.isDigit
  simp only [Char.le_def]
  split <;> simp_all

theorem isBlank_of_isDigit {c : Char} (digit : isDigit c = true) : isBlank c = false := by
  rw [isDigit_eq, Char.isDigit_iff_toNat] at digit
  change 48 ≤ c.toNat ∧ c.toNat ≤ 57 at digit
  simp only [isBlank, Bool.or_eq_false_iff, Bool.and_eq_false_iff, decide_eq_false_iff_not,
    beq_eq_false_iff_ne]
  omega

/-- The digits of a number in base ten are digits. -/
theorem isDigit_of_mem_toDigits {n : Nat} {c : Char} (member : c ∈ Nat.toDigits 10 n) :
    isDigit c = true := by
  rw [isDigit_eq]
  exact Nat.isDigit_of_mem_toDigits (by decide) (by decide) member

theorem isDigit_of_mem_padded {width n : Nat} {c : Char} (member : c ∈ padded 10 width n) :
    isDigit c = true := by
  rcases List.mem_append.mp member with zero | digit
  · rw [List.eq_of_mem_replicate zero]
    decide
  · exact isDigit_of_mem_toDigits digit

/-- A numeral begins with a digit. -/
theorem toDigits_eq_cons (n : Nat) :
    ∃ c more, Nat.toDigits 10 n = c :: more ∧ isDigit c = true := by
  obtain ⟨c, more, written⟩ := List.exists_cons_of_ne_nil (@Nat.toDigits_ne_nil n 10)
  exact ⟨c, more, written, isDigit_of_mem_toDigits (written ▸ List.mem_cons_self ..)⟩

theorem padded_ne_nil {base width n : Nat} : padded base width n ≠ [] :=
  List.append_ne_nil_of_right_ne_nil _ Nat.toDigits_ne_nil

/-- So does one with zeros in front. -/
theorem padded_eq_cons (width n : Nat) :
    ∃ c more, padded 10 width n = c :: more ∧ isDigit c = true := by
  obtain ⟨c, more, written⟩ := List.exists_cons_of_ne_nil (@padded_ne_nil 10 width n)
  exact ⟨c, more, written, isDigit_of_mem_padded (written ▸ List.mem_cons_self ..)⟩

theorem numeral?_padded (width n : Nat) : numeral? (padded 10 width n) = some n := by
  rw [numeral?, if_neg (by simpa using padded_ne_nil), ofDigits?_padded (by decide) (by decide)]

theorem numeral?_toDigits (n : Nat) : numeral? (Nat.toDigits 10 n) = some n := by
  rw [numeral?, if_neg (by simp),
    ofDigits?_toDigits (by decide) (by decide)]

/-- A numeral begins with a zero only if it is one. -/
theorem head?_toDigits {n : Nat} (positive : 0 < n) : (Nat.toDigits 10 n).head? ≠ some '0' := by
  induction n using Nat.strongRecOn with
  | ind n ih =>
    rw [Nat.toDigits_eq_if (by decide)]
    split
    · simpa using Nat.pos_iff_ne_zero.mp positive
    · have front := ih (n / 10) (by omega) (by omega)
      rw [List.head?_append]
      simpa [Option.or_of_isSome] using front

end InstancedAreas.Text
