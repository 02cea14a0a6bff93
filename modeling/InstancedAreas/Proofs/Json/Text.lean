import InstancedAreas.Json.Text
import InstancedAreas.Proofs.Text.Digits

/-! Reading the text of a value gives the value back. This holds of every value that
reading can give and that is not a numeral with a fraction or an exponent: whole
numbers without a sign or below zero, and objects that name no field twice. A value is
read from the front of a longer text, up to what can follow it in a list or an object. -/
namespace InstancedAreas.Json

/-- Values whose text is read back. -/
inductive Plain : Json → Prop where
  | null : Plain .null
  | bool (value : Bool) : Plain (.bool value)
  | nat (value : Nat) : Plain (.nat value)
  | negative (value : Nat) : Plain (.int (.negSucc value))
  | text (value : String) : Plain (.text value)
  | list {items : List Json} (each : ∀ item ∈ items, Plain item) : Plain (.list items)
  | object {fields : List (String × Json)} (once : (fields.map Prod.fst).Nodup)
      (each : ∀ field ∈ fields, Plain field.2) : Plain (.object fields)

/-! ### Texts between quotes -/

/-- Four hexadecimal digits are one number. -/
theorem hexUnit?_append {digits : List Char} (four : digits.length = 4) (rest : List Char) :
    hexUnit? (digits ++ rest) = (Text.ofDigits? 16 digits).map (·, rest) := by
  match digits, four with
  | [a, b, c, d], _ => rfl

/-- A control character is read from its number. -/
theorem unicodeEscape?_padded {c : Char} (control : c.toNat < 0x20) (rest : List Char) :
    unicodeEscape? (Text.padded 16 4 c.toNat ++ rest) = some (c, rest) := by
  have four : (Text.padded 16 4 c.toNat).length = 4 :=
    Text.length_padded (by decide) (by decide) (by omega)
  have low : ¬ (0xD800 ≤ c.toNat ∧ c.toNat < 0xDC00) := by omega
  have low' : ¬ (0xDC00 ≤ c.toNat ∧ c.toNat < 0xE000) := by omega
  rw [unicodeEscape?, hexUnit?_append four, Text.ofDigits?_padded (by decide) (by decide)]
  simp only [Option.map_some, Option.bind_eq_bind, Option.bind_some, if_neg low, if_neg low',
    Char.ofNat_toNat]

/-- A character between quotes is read from its escape. -/
theorem readQuoted_escape (fuel : Nat) (seen : List Char) (c : Char) (rest : List Char) :
    readQuoted (fuel + 1) seen (escape c ++ rest) = readQuoted fuel (c :: seen) rest := by
  unfold escape
  split
  · subst_vars; rfl
  split
  · subst_vars; rfl
  split
  · subst_vars; rfl
  split
  · subst_vars; rfl
  split
  · subst_vars; rfl
  split
  · subst_vars; rfl
  split
  · subst_vars; rfl
  split
  · rename_i control
    rw [List.cons_append, List.cons_append, readQuoted, unicodeEscape?_padded control]
    rfl
  · rename_i quote backslash _ _ _ _ _ visible
    rw [List.singleton_append, readQuoted]
    · rw [if_neg visible]
    all_goals simp_all

theorem escape_ne_nil (c : Char) : escape c ≠ [] := by
  unfold escape
  repeat' split
  all_goals exact List.cons_ne_nil _ _

/-- A text is read up to its closing quote. -/
theorem readQuoted_flatMap {fuel : Nat} {chars : List Char} (enough : chars.length < fuel)
    (seen rest : List Char) :
    readQuoted fuel seen (chars.flatMap escape ++ '"' :: rest) =
      some (String.ofList (seen.reverse ++ chars), rest) := by
  induction chars generalizing fuel seen with
  | nil =>
    obtain ⟨fuel, rfl⟩ := Nat.exists_eq_add_of_lt enough
    simp [readQuoted]
  | cons c chars ih =>
    obtain ⟨fuel, rfl⟩ := Nat.exists_eq_add_of_lt enough
    rw [List.flatMap_cons, List.append_assoc, readQuoted_escape, ih (by simp; omega)]
    simp

theorem length_le_flatMap_escape (chars : List Char) :
    chars.length ≤ (chars.flatMap escape).length := by
  induction chars with
  | nil => exact Nat.le_refl 0
  | cons c chars ih =>
    have positive := List.length_pos_iff.mpr (escape_ne_nil c)
    rw [List.flatMap_cons, List.length_append, List.length_cons]
    omega

/-- A text between quotes is read as it was. -/
theorem readQuoted_text (text : String) (rest : List Char) :
    readQuoted ((text.toList.flatMap escape ++ '"' :: rest).length + 1) []
      (text.toList.flatMap escape ++ '"' :: rest) = some (text, rest) := by
  have escaped := length_le_flatMap_escape text.toList
  rw [readQuoted_flatMap (by rw [List.length_append]; omega), List.reverse_nil, List.nil_append,
    String.ofList_toList]

theorem toList_quoted (text : String) :
    (quoted text).toList = '"' :: (text.toList.flatMap escape ++ ['"']) := by
  simp [quoted]

/-! ### Numbers -/

/-- What can follow a value: nothing, or what parts it from the next or closes. -/
def Delimited (rest : List Char) : Prop :=
  rest = [] ∨ ∃ c more, rest = c :: more ∧ (c = ',' ∨ c = ']' ∨ c = '\x7d')

/-- A numeral goes on to what follows the number. -/
theorem digits_of_delimited {rest : List Char} (ends : Delimited rest) (n : Nat) :
    (Nat.toDigits 10 n ++ rest).takeWhile Text.isDigit = Nat.toDigits 10 n ∧
      (Nat.toDigits 10 n ++ rest).dropWhile Text.isDigit = rest := by
  have digits (c : Char) (member : c ∈ Nat.toDigits 10 n) := Text.isDigit_of_mem_toDigits member
  rw [List.takeWhile_append_of_pos digits, List.dropWhile_append_of_pos digits]
  obtain rfl | ⟨c, more, rfl, rfl | rfl | rfl⟩ := ends <;> simp [Text.isDigit, Text.digit?]

/-- A numeral that was written is not taken for one with zeros in front. -/
theorem no_leading_zero (n : Nat) : ((Nat.toDigits 10 n).isEmpty ||
    ((Nat.toDigits 10 n).head? == some '0' && (Nat.toDigits 10 n).length != 1)) = false := by
  rcases Nat.eq_zero_or_pos n with rfl | positive
  · rfl
  · simp [Text.head?_toDigits positive]

/-- A whole number, with a sign or without, is read up to what follows it. -/
theorem readNumber_digits (sign : Bool) (n : Nat) {rest : List Char} (ends : Delimited rest)
    (nonzero : sign = true → n ≠ 0) :
    readNumber ((if sign then ['-'] else []) ++ (Nat.toDigits 10 n ++ rest)) =
      some (if sign then .int (-n) else .nat n, rest) := by
  obtain ⟨digits, behind⟩ := digits_of_delimited ends n
  have spelled := @Text.ofDigits?_toDigits 10 (by decide) (by decide) n
  have leading := no_leading_zero n
  obtain ⟨c, more, written, digit⟩ := Text.toDigits_eq_cons n
  unfold readNumber
  split
  rename_i sign' unsigned parted
  have same : sign' = sign ∧ unsigned = Nat.toDigits 10 n ++ rest := by
    cases sign with
    | true => cases parted; exact ⟨rfl, rfl⟩
    | false =>
      rw [written] at parted ⊢
      split at parted
      · rename_i first
        obtain ⟨rfl, -⟩ := List.cons.inj first
        exact absurd digit (by decide)
      · cases parted; exact ⟨rfl, rfl⟩
  obtain ⟨rfl, rfl⟩ := same
  rw [digits, behind]
  simp only [leading]
  obtain rfl | ⟨d, _ | ⟨e, more⟩, rfl, rfl | rfl | rfl⟩ := ends <;>
    cases sign' <;> simp_all

/-- A number without a sign is read as it was. -/
theorem readNumber_nat (n : Nat) {rest : List Char} (ends : Delimited rest) :
    readNumber (Nat.toDigits 10 n ++ rest) = some (.nat n, rest) :=
  readNumber_digits false n ends nofun

/-- A number below zero is read as it was. -/
theorem readNumber_negative (n : Nat) {rest : List Char} (ends : Delimited rest) :
    readNumber ('-' :: (Nat.toDigits 10 (n + 1) ++ rest)) = some (.int (.negSucc n), rest) :=
  readNumber_digits true (n + 1) ends fun _ => Nat.succ_ne_zero n

/-! ### Values -/

/-- The characters of a value's text. -/
def chars (json : Json) : List Char := (render json).toList

/-- The characters of a field's text. -/
def fieldChars (field : String × Json) : List Char :=
  (quoted field.1).toList ++ ':' :: chars field.2

theorem chars_list (items : List Json) :
    chars (.list items) = '[' :: ([','].intercalate (items.map chars) ++ [']']) := by
  have each (items : List Json) : renderItems items = items.map render := by
    induction items with
    | nil => rfl
    | cons item rest ih => rw [renderItems, ih, List.map_cons]
  have texts : items.map chars = (items.map render).map String.toList := by
    rw [List.map_map]
    rfl
  rw [texts]
  simp [chars, render, each, String.toList_intercalate]

theorem chars_object (fields : List (String × Json)) :
    chars (.object fields) =
      '\x7b' :: ([','].intercalate (fields.map fieldChars) ++ ['\x7d']) := by
  have each (fields : List (String × Json)) :
      renderFields fields = fields.map fun field => String.ofList (fieldChars field) := by
    induction fields with
    | nil => rfl
    | cons field rest ih =>
      rw [renderFields, ih, List.map_cons]
      simp [fieldChars, chars, String.append_assoc]
  simp [chars, render, each, String.toList_intercalate, Function.comp_def]

/-- The characters that no text of a value begins with. -/
def idle : List Char := [' ', '\n', '\r', '\t', ']', '\x7d']

/-- The text of a value begins with a character of its own. -/
theorem Plain.chars_eq_cons {json : Json} (plain : json.Plain) :
    ∃ c more, chars json = c :: more ∧ c ∉ idle := by
  have numeral (n : Nat) : ∃ c more, (Text.decimal n).toList = c :: more ∧ c ∉ idle := by
    obtain ⟨c, more, written, digit⟩ := Text.toDigits_eq_cons n
    refine ⟨c, more, by rw [Text.decimal, String.toList_ofList, written], fun stray => ?_⟩
    have none : idle.any Text.isDigit = false := by decide
    exact Bool.false_ne_true (none.symm.trans (List.any_eq_true.mpr ⟨c, stray, digit⟩))
  cases plain with
  | null => exact ⟨'n', _, rfl, by decide⟩
  | bool value => cases value <;> exact ⟨_, _, rfl, by decide⟩
  | nat n => exact numeral n
  | negative n => exact ⟨'-', (Text.decimal (n + 1)).toList, by simp [chars, render], by decide⟩
  | text value => exact ⟨'"', _, toList_quoted value, by decide⟩
  | list => exact ⟨'[', _, chars_list _, by decide⟩
  | object => exact ⟨'\x7b', _, chars_object _, by decide⟩

/-- No white space is skipped in front of a value. -/
theorem skipSpace_cons {c : Char} (solid : c ∉ idle) (more : List Char) :
    skipSpace (c :: more) = c :: more := by
  simp [idle] at solid
  simp [skipSpace, solid]

/-- A value is read from its text and whatever may follow it. -/
def ReadsBack (json : Json) : Prop :=
  ∀ fuel rest, (chars json).length ≤ fuel → Delimited rest →
    readValue fuel (chars json ++ rest) = some (json, rest)

/-- What begins like a number is read as one. -/
theorem readValue_number (fuel : Nat) {c : Char} (first : Text.isDigit c = true ∨ c = '-')
    (more : List Char) : readValue (fuel + 1) (c :: more) = readNumber (c :: more) := by
  have apart : ∀ d ∈ idle ++ ['n', 't', 'f', '"', '[', '\x7b'], c ≠ d := by
    rintro d member rfl
    have none : (idle ++ ['n', 't', 'f', '"', '[', '\x7b']).any
        (fun c => Text.isDigit c || c == '-') = false := by decide
    refine Bool.false_ne_true (none.symm.trans (List.any_eq_true.mpr ⟨c, member, ?_⟩))
    simpa using first
  have solid : c ∉ idle := fun stray => apart c (List.mem_append_left _ stray) rfl
  rw [readValue, skipSpace_cons solid]
  split <;> simp_all

theorem delimited_cons {c : Char} (mark : c = ',' ∨ c = ']' ∨ c = '\x7d') (more : List Char) :
    Delimited (c :: more) :=
  .inr ⟨c, more, rfl, mark⟩

/-- The members of a list are read up to its bracket. -/
theorem readItems_chars {items : List Json} (nonempty : items ≠ [])
    (each : ∀ item ∈ items, ReadsBack item) {fuel : Nat}
    (enough : ([','].intercalate (items.map chars)).length < fuel) (seen : List Json)
    (rest : List Char) :
    readItems fuel seen ([','].intercalate (items.map chars) ++ ']' :: rest) =
      some (.list (seen.reverse ++ items), rest) := by
  induction items generalizing fuel seen with
  | nil => exact absurd rfl nonempty
  | cons item others ih =>
    obtain ⟨first, following⟩ := List.forall_mem_cons.mp each
    cases fuel with
    | zero => exact absurd enough (Nat.not_lt_zero _)
    | succ fuel =>
      cases others with
      | nil =>
        rw [List.map_cons, List.map_nil, List.intercalate_singleton] at enough ⊢
        rw [readItems, first fuel _ (by omega) (delimited_cons (by decide) rest)]
        simp [skipSpace]
      | cons next others =>
        rw [List.map_cons, List.map_cons, List.intercalate_cons_cons, ← List.map_cons] at enough ⊢
        simp only [List.length_append, List.length_singleton] at enough
        rw [List.append_assoc, List.append_assoc, List.singleton_append, readItems,
          first fuel _ (by omega) (delimited_cons (by decide) _)]
        have shorter : ([','].intercalate ((next :: others).map chars)).length < fuel := by omega
        simpa [skipSpace] using ih (List.cons_ne_nil _ _) following shorter (item :: seen)

theorem putField_of_new {fields : List (String × Json)} {name : String}
    (new : name ∉ fields.map Prod.fst) (value : Json) :
    putField fields name value = fields ++ [(name, value)] := by
  have kept : fields.filter (fun field => field.1 != name) = fields :=
    List.filter_eq_self.mpr fun field member => by
      have differs : field.1 ≠ name := fun same => new (same ▸ List.mem_map_of_mem member)
      simpa using differs
  rw [putField, kept]

theorem fieldChars_append (field : String × Json) (rest : List Char) :
    fieldChars field ++ rest =
      '"' :: (field.1.toList.flatMap escape ++ '"' :: ':' :: (chars field.2 ++ rest)) := by
  simp [fieldChars, toList_quoted]

section Field

variable {field : String × Json} (back : ReadsBack field.2) {fuel : Nat}
  (enough : (chars field.2).length ≤ fuel) (seen : List (String × Json)) (rest : List Char)

include back enough

/-- The last field of an object is read up to the brace. -/
theorem readFields_last :
    readFields (fuel + 1) seen (fieldChars field ++ '\x7d' :: rest) =
      some (.object (putField seen field.1 field.2), rest) := by
  have value := back fuel ('\x7d' :: rest) enough (delimited_cons (by decide) rest)
  rw [fieldChars_append, readFields, skipSpace_cons (by decide)]
  simp only [readQuoted_text]
  rw [skipSpace_cons (by decide)]
  simp only [value]
  rfl

/-- Any other field is read up to the comma behind it. -/
theorem readFields_next :
    readFields (fuel + 1) seen (fieldChars field ++ ',' :: rest) =
      readFields fuel (putField seen field.1 field.2) rest := by
  have value := back fuel (',' :: rest) enough (delimited_cons (by decide) rest)
  rw [fieldChars_append, readFields, skipSpace_cons (by decide)]
  simp only [readQuoted_text]
  rw [skipSpace_cons (by decide)]
  simp only [value]
  rfl

end Field

/-- The fields of an object are read up to its brace. -/
theorem readFields_chars {fields : List (String × Json)} (nonempty : fields ≠ [])
    (each : ∀ field ∈ fields, ReadsBack field.2) {fuel : Nat}
    (enough : ([','].intercalate (fields.map fieldChars)).length < fuel)
    {seen : List (String × Json)} (once : ((seen ++ fields).map Prod.fst).Nodup)
    (rest : List Char) :
    readFields fuel seen ([','].intercalate (fields.map fieldChars) ++ '\x7d' :: rest) =
      some (.object (seen ++ fields), rest) := by
  induction fields generalizing fuel seen with
  | nil => exact absurd rfl nonempty
  | cons field others ih =>
    obtain ⟨first, following⟩ := List.forall_mem_cons.mp each
    have new : field.1 ∉ seen.map Prod.fst := fun used => by
      rw [List.map_append, List.nodup_append] at once
      exact once.2.2 field.1 used field.1 (List.mem_cons_self ..) rfl
    have longer : (chars field.2).length ≤ (fieldChars field).length := by
      rw [fieldChars, List.length_append, List.length_cons]
      omega
    cases fuel with
    | zero => exact absurd enough (Nat.not_lt_zero _)
    | succ fuel =>
      cases others with
      | nil =>
        rw [List.map_cons, List.map_nil, List.intercalate_singleton] at enough ⊢
        rw [readFields_last first (by omega), putField_of_new new]
      | cons next others =>
        rw [List.map_cons, List.map_cons, List.intercalate_cons_cons, ← List.map_cons] at enough ⊢
        simp only [List.length_append, List.length_singleton] at enough
        have shorter : ([','].intercalate ((next :: others).map fieldChars)).length < fuel := by
          omega
        rw [List.append_assoc, List.append_assoc, List.singleton_append,
          readFields_next first (by omega), putField_of_new new]
        rw [List.append_cons seen field (next :: others)] at once ⊢
        exact ih (List.cons_ne_nil _ _) following shorter once

/-- No text of a value is empty, so there is always a first step. -/
theorem Plain.readsBack_of_succ {json : Json} (plain : json.Plain)
    (read : ∀ fuel rest, (chars json).length ≤ fuel + 1 → Delimited rest →
      readValue (fuel + 1) (chars json ++ rest) = some (json, rest)) : ReadsBack json := by
  intro fuel rest enough ends
  obtain ⟨c, more, text, -⟩ := plain.chars_eq_cons
  cases fuel with
  | zero => rw [text] at enough; exact absurd enough (Nat.not_succ_le_zero _)
  | succ fuel => exact read fuel rest enough ends

/-- Every plain value is read from its text. -/
theorem Plain.readsBack {json : Json} (plain : json.Plain) : ReadsBack json := by
  have whole := plain
  induction plain with
  | null => exact whole.readsBack_of_succ fun fuel rest _ _ => rfl
  | bool value =>
    refine whole.readsBack_of_succ fun fuel rest _ _ => ?_
    cases value <;> rfl
  | nat n =>
    refine whole.readsBack_of_succ fun fuel rest _ ends => ?_
    have text : chars (.nat n) = Nat.toDigits 10 n := String.toList_ofList
    obtain ⟨c, more, written, digit⟩ := Text.toDigits_eq_cons n
    rw [text, ← readNumber_nat n ends, written]
    exact readValue_number fuel (.inl digit) _
  | negative n =>
    refine whole.readsBack_of_succ fun fuel rest _ ends => ?_
    have text : chars (.int (.negSucc n)) = '-' :: Nat.toDigits 10 (n + 1) := by
      simp [chars, render, Text.decimal]
    rw [text, ← readNumber_negative n ends]
    exact readValue_number fuel (.inr rfl) _
  | text value =>
    refine whole.readsBack_of_succ fun fuel rest _ _ => ?_
    rw [chars, render, toList_quoted, List.cons_append, List.append_assoc, List.singleton_append,
      readValue, skipSpace_cons (by decide)]
    simp only [readQuoted_text]
    rfl
  | @list items plain ih =>
    refine whole.readsBack_of_succ fun fuel rest enough _ => ?_
    rw [chars_list, List.length_cons, List.length_append, List.length_singleton,
      Nat.add_le_add_iff_right] at enough
    rw [chars_list, List.cons_append, List.append_assoc, List.singleton_append, readValue,
      skipSpace_cons (by decide)]
    cases items with
    | nil => rfl
    | cons item others =>
      obtain ⟨c, more, text, solid⟩ := (plain item (List.mem_cons_self ..)).chars_eq_cons
      have read := readItems_chars (List.cons_ne_nil item others)
        (fun other member => ih other member (plain other member)) enough [] rest
      rw [List.map_cons, text, List.intercalate_cons_cons_left, List.cons_append] at read ⊢
      simp only [skipSpace_cons solid]
      split
      · rename_i closed
        obtain ⟨rfl, -⟩ := List.cons.inj closed
        exact absurd solid (by decide)
      · exact read
  | @object fields once plain ih =>
    refine whole.readsBack_of_succ fun fuel rest enough _ => ?_
    rw [chars_object, List.length_cons, List.length_append, List.length_singleton,
      Nat.add_le_add_iff_right] at enough
    rw [chars_object, List.cons_append, List.append_assoc, List.singleton_append, readValue,
      skipSpace_cons (by decide)]
    cases fields with
    | nil => rfl
    | cons field others =>
      have once' : (([] ++ field :: others).map Prod.fst).Nodup := once
      have read := readFields_chars (List.cons_ne_nil field others)
        (fun other member => ih other member (plain other member)) enough once' rest
      have text : fieldChars field = '"' :: (field.1.toList.flatMap escape ++
          '"' :: ':' :: chars field.2) := by
        simpa using fieldChars_append field []
      rw [List.map_cons, text, List.intercalate_cons_cons_left, List.cons_append] at read ⊢
      simp only [skipSpace_cons (show '"' ∉ idle by decide)]
      exact read

/-- The text of a plain value is that value. -/
theorem parse?_render {json : Json} (plain : json.Plain) : parse? json.render = some json := by
  have read := plain.readsBack (json.render.length + 1) []
    (by rw [chars, String.length_toList]; omega) (.inl rfl)
  rw [List.append_nil, chars] at read
  rw [parse?, read]
  rfl

end InstancedAreas.Json
