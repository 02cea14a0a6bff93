import InstancedAreas.Instant.Rfc3339
import InstancedAreas.Proofs.Instant.Calendar
import InstancedAreas.Proofs.Text.Digits

/-! The RFC 3339 text of an instant gives the instant back, from the first nanosecond of
the calendar to the last: in years before the first and after the 9999th, with every
length of fraction, and within leap seconds. -/
namespace InstancedAreas.Instant

/-! ### Numbers -/

theorem past?_cons {mark : Char} (solid : Text.isBlank mark = false) (rest : List Char) :
    past? mark (mark :: rest) = some rest := by
  rw [past?, Text.trimStart_cons solid]
  exact if_pos rfl

/-- A number ends with its last digit, because it has no room for more or because what
follows is none. -/
theorem number?_append {most n : Nat} {digits rest : List Char}
    (each : ∀ c ∈ digits, Text.isDigit c = true) (spelled : Text.numeral? digits = some n)
    (fits : digits.length ≤ most)
    (ends : digits.length = most ∨ ∃ c more, rest = c :: more ∧ Text.isDigit c = false) :
    number? most (digits ++ rest) = some (n, rest) := by
  have taken : ((digits ++ rest).take most).takeWhile Text.isDigit = digits := by
    rw [List.take_append, List.take_of_length_le fits, List.takeWhile_append_of_pos each]
    rcases ends with rfl | ⟨c, more, rfl, stops⟩
    · simp
    · cases most - digits.length <;> simp [stops]
  rw [number?, taken, spelled]
  simp

/-- A number that was padded to as many digits as are read is read. -/
theorem number?_padded {width n : Nat} (positive : 0 < width) (below : n < 10 ^ width)
    (rest : List Char) :
    number? width (Text.padded 10 width n ++ rest) = some (n, rest) :=
  have length : (Text.padded 10 width n).length = width :=
    Text.length_padded (by decide) positive below
  number?_append (fun _ => Text.isDigit_of_mem_padded) (Text.numeral?_padded width n)
    (Nat.le_of_eq length) (.inl length)

/-- A number of two digits is read. -/
theorem field?_twoDigits {n : Nat} (below : n < 100) (rest : List Char) :
    field? 2 ((twoDigits n).toList ++ rest) = some (n, rest) := by
  obtain ⟨c, more, digits, digit⟩ := Text.padded_eq_cons 2 n
  have read : number? 2 (Text.padded 10 2 n ++ rest) = _ := number?_padded (by decide) below rest
  rw [digits, List.cons_append] at read
  rw [twoDigits, String.toList_ofList, digits, List.cons_append, field?,
    Text.trimStart_cons (Text.isBlank_of_isDigit digit), read]

/-- A number of two digits is read behind its mark. -/
theorem marked_twoDigits {mark : Char} (solid : Text.isBlank mark = false) {n : Nat}
    (below : n < 100) (rest : List Char) :
    (past? mark (mark :: ((twoDigits n).toList ++ rest))).bind (field? 2) = some (n, rest) := by
  rw [past?_cons solid, Option.bind_some, field?_twoDigits below]

/-- A number of any length is read up to what is no digit. -/
theorem number?_unlimited (width n : Nat) {c : Char} (stops : Text.isDigit c = false)
    (rest : List Char) :
    number? (Text.padded 10 width n ++ c :: rest).length (Text.padded 10 width n ++ c :: rest) =
      some (n, c :: rest) :=
  number?_append (fun _ => Text.isDigit_of_mem_padded) (Text.numeral?_padded width n)
    (by rw [List.length_append]; omega) (.inr ⟨c, rest, rfl, stops⟩)

/-- A year is read, with its sign or without. -/
theorem year?_yearText (year : Int) {c : Char} (stops : Text.isDigit c = false)
    (rest : List Char) :
    year? ((yearText year).toList ++ c :: rest) = some (year, c :: rest) := by
  unfold yearText
  split
  · rename_i plain
    obtain ⟨d, more, digits, digit⟩ := Text.padded_eq_cons 4 year.toNat
    have read : number? 4 (Text.padded 10 4 year.toNat ++ c :: rest) = _ :=
      number?_padded (by decide) (by omega) (c :: rest)
    have same : ((year.toNat : Nat) : Int) = year := by omega
    rw [digits, List.cons_append] at read
    rw [String.toList_ofList, digits, List.cons_append, year?,
      Text.trimStart_cons (Text.isBlank_of_isDigit digit)]
    split
    · rename_i sign
      cases sign
      exact absurd digit (by decide)
    · rename_i sign
      cases sign
      exact absurd digit (by decide)
    · simp only [read, Option.map_some, same]
  · rename_i signed
    have read := number?_unlimited 4 year.natAbs stops rest
    split
    · rename_i negative
      have same : -(year.natAbs : Int) = year := by omega
      have text : ("-" ++ String.ofList (Text.padded 10 4 year.natAbs)).toList ++ c :: rest =
          '-' :: (Text.padded 10 4 year.natAbs ++ c :: rest) := by simp
      rw [text, year?, Text.trimStart_cons (by decide)]
      simp only [read, Option.map_some, same]
    · have same : (year.natAbs : Int) = year := by omega
      have text : ("+" ++ String.ofList (Text.padded 10 4 year.natAbs)).toList ++ c :: rest =
          '+' :: (Text.padded 10 4 year.natAbs ++ c :: rest) := by simp
      rw [text, year?, Text.trimStart_cons (by decide)]
      simp only [read, Option.map_some, same]

/-- A fraction of some digits is read. -/
theorem fraction?_padded {width n : Nat} (positive : 0 < width) (most : width ≤ 9)
    (below : n < 10 ^ width) {c : Char} (stops : Text.isDigit c = false) (rest : List Char) :
    fraction? ('.' :: (Text.padded 10 width n ++ c :: rest)) =
      some (n * Text.tenTo (9 - width), c :: rest) := by
  have length : (Text.padded 10 width n).length = width :=
    Text.length_padded (by decide) positive below
  have digits : (Text.padded 10 width n ++ c :: rest).takeWhile Text.isDigit =
      Text.padded 10 width n := by
    rw [List.takeWhile_append_of_pos fun _ => Text.isDigit_of_mem_padded,
      List.takeWhile_cons_of_neg (by simp [stops]), List.append_nil]
  have kept : (Text.padded 10 width n).take 9 = Text.padded 10 width n :=
    List.take_of_length_le (by omega)
  have behind : (Text.padded 10 width n ++ c :: rest).drop width = c :: rest :=
    List.drop_left' length
  simp only [fraction?, digits, kept, Text.numeral?_padded, Option.map_some, length, behind]

/-- A fraction is read, whatever its length. -/
theorem fraction?_fractionText {nanos : Nat} (below : nanos < nanosPerSecond)
    {c : Char} (stops : Text.isDigit c = false) (other : c ≠ '.') (rest : List Char) :
    fraction? ((fractionText nanos).toList ++ c :: rest) = some (nanos, c :: rest) := by
  have within : nanos < 1000000000 := below
  have text (digits : List Char) : ("." ++ String.ofList digits).toList ++ c :: rest =
      '.' :: (digits ++ c :: rest) := by simp
  unfold fractionText
  split
  · rename_i whole
    have point : ("" : String).toList ++ c :: rest = c :: rest := rfl
    rw [point, fraction?, whole]
    exact fun more marked => absurd (List.cons.inj marked).1 other
  split
  · rename_i millis
    have exact : nanos / 1000000 * Text.tenTo (9 - 3) = nanos :=
      Nat.div_mul_cancel (Nat.dvd_of_mod_eq_zero millis)
    rw [text, fraction?_padded (by decide) (by decide) (by omega) stops, exact]
  split
  · rename_i micros
    have exact : nanos / 1000 * Text.tenTo (9 - 6) = nanos :=
      Nat.div_mul_cancel (Nat.dvd_of_mod_eq_zero micros)
    rw [text, fraction?_padded (by decide) (by decide) (by omega) stops, exact]
  · rw [text, fraction?_padded (by decide) (by decide) within stops]
    exact congrArg (fun n => some (n, c :: rest)) (Nat.mul_one nanos)

/-! ### Parts -/

/-- A date of the calendar has at most two digits in its month and in its day. -/
theorem parts_of_valid {date : Date} (valid : date.valid = true) :
    date.month < 100 ∧ date.day < 100 := by
  simp only [Date.valid, Bool.and_eq_true, decide_eq_true_eq] at valid
  obtain ⟨⟨⟨-, month⟩, -⟩, day⟩ := valid
  have longest : Date.daysInMonth date.year date.month ≤ 31 := by
    unfold Date.daysInMonth
    split
    · split <;> omega
    · split <;> omega
  omega

/-- The text of a date and a time of day in UTC is read as these parts. -/
theorem ofRfc3339?_parts {date : Date} {hour minute second nanos : Nat}
    (valid : date.valid = true)
    (within : Date.firstYear ≤ date.year ∧ date.year ≤ Date.lastYear)
    (hours : hour < 24) (minutes : minute < 60) (seconds : second ≤ 60)
    (below : nanos < nanosPerSecond) :
    ofRfc3339? (yearText date.year ++ "-" ++ twoDigits date.month ++ "-" ++ twoDigits date.day ++
        "T" ++ twoDigits hour ++ ":" ++ twoDigits minute ++ ":" ++ twoDigits second ++
        fractionText nanos ++ "Z") =
      (ofNanos? (date.daysSinceEpoch * nanosPerDay +
          (hour * 3600 + minute * 60 + min second 59 : Nat) * 1000000000 + nanos)).bind fun t =>
        if second = 60 then t.leapSecond? else some t := by
  obtain ⟨month, day⟩ := parts_of_valid valid
  have zulu : fraction? ((fractionText nanos).toList ++ ['Z']) = some (nanos, ['Z']) :=
    fraction?_fractionText below (by decide) (by decide) []
  have offset : offset? (Text.trimStart ['Z']) = some (0, []) := by decide
  have text : (yearText date.year ++ "-" ++ twoDigits date.month ++ "-" ++ twoDigits date.day ++
      "T" ++ twoDigits hour ++ ":" ++ twoDigits minute ++ ":" ++ twoDigits second ++
      fractionText nanos ++ "Z").toList =
      (yearText date.year).toList ++ '-' :: ((twoDigits date.month).toList ++
        '-' :: ((twoDigits date.day).toList ++ 'T' :: ((twoDigits hour).toList ++
          ':' :: ((twoDigits minute).toList ++ ':' :: ((twoDigits second).toList ++
            ((fractionText nanos).toList ++ ['Z'])))))) := by
    simp
  rw [ofRfc3339?, text]
  refine Text.bind_eq (year?_yearText _ (by decide) _) ?_
  refine Text.bind_eq (marked_twoDigits (by decide) month _) ?_
  refine Text.bind_eq (marked_twoDigits (by decide) day _) ?_
  refine Text.bind_eq rfl ?_
  refine Text.bind_eq (field?_twoDigits (show hour < 100 by omega) _) ?_
  refine Text.bind_eq (marked_twoDigits (by decide) (show minute < 100 by omega) _) ?_
  refine Text.bind_eq (marked_twoDigits (by decide) (show second < 100 by omega) _) ?_
  refine Text.bind_eq zulu ?_
  refine Text.bind_eq offset ?_
  have sum : (hour * 3600 + minute * 60 + (min second 59 : Nat) - 0 * 60 : Int) =
      (hour * 3600 + minute * 60 + min second 59 : Nat) := by omega
  simp only [sum]
  exact if_pos (by simp [valid, within, hours, minutes, seconds])

/-- Every instant is found by its count: as it is, or in the second before it if it lies
in a leap second. -/
theorem ofNanos?_nanos (t : Instant) :
    (ofNanos? t.nanos).bind (fun found => if t.leap then found.leapSecond? else some found) =
      some t := by
  obtain ⟨nanos, leap, earliest, latest, endsMinute⟩ := t
  have found : ofNanos? nanos = some ⟨nanos, false, earliest, latest, Bool.noConfusion⟩ :=
    dif_pos ⟨earliest, latest⟩
  rw [found, Option.bind_some]
  cases leap with
  | false => rfl
  | true => exact dif_pos (endsMinute rfl)

/-- An instant lies in a day of the calendar, some nanoseconds after its start. -/
theorem split_days (t : Instant) : ∃ (day : Int) (rest : Nat), t.nanos / nanosPerDay = day ∧
    (t.nanos % nanosPerDay).toNat = rest ∧ t.nanos = day * 86400000000000 + rest ∧
    rest < 86400000000000 ∧ -96465292 ≤ day ∧ day ≤ 95026236 := by
  have earliest := t.earliest
  have latest := t.latest
  simp only [earliestNanos, latestNanos] at earliest latest
  simp only [nanosPerDay]
  exact ⟨_, _, rfl, rfl, by omega⟩

/-- The second that is shown is at most the last of its minute, and 60 just in a leap
second, which shares its count with the last. -/
theorem shown_second (t : Instant) {day : Int} {rest : Nat}
    (whole : t.nanos = day * 86400000000000 + rest) :
    ∃ shown, (rest / nanosPerSecond % 60 + if t.leap then 1 else 0) = shown ∧ shown ≤ 60 ∧
      min shown 59 = rest / nanosPerSecond % 60 ∧ (shown = 60 ↔ t.leap = true) := by
  simp only [nanosPerSecond]
  cases leap : t.leap with
  | false =>
    exact ⟨rest / 1000000000 % 60, rfl, by simp only [Bool.false_eq_true, iff_false]; omega⟩
  | true =>
    have ends := t.endsMinute leap
    exact ⟨rest / 1000000000 % 60 + 1, rfl, by simp only [iff_true]; omega⟩

/-- The text of an instant names it. -/
theorem ofRfc3339?_rfc3339 (t : Instant) : ofRfc3339? t.rfc3339 = some t := by
  obtain ⟨day, rest, days, rests, whole, inDay, earliest, latest⟩ := t.split_days
  obtain ⟨shown, marked, seconds, counted, leaps⟩ := t.shown_second whole
  have hours : rest / nanosPerSecond / 3600 < 24 := by
    simp only [nanosPerSecond]
    omega
  have minutes : rest / nanosPerSecond / 60 % 60 < 60 := Nat.mod_lt _ (by decide)
  have nanos : rest % nanosPerSecond < nanosPerSecond := Nat.mod_lt _ (by decide)
  have sum : day * nanosPerDay + (rest / nanosPerSecond / 3600 * 3600 +
      rest / nanosPerSecond / 60 % 60 * 60 + min shown 59 : Nat) * 1000000000 +
        (rest % nanosPerSecond : Nat) = t.nanos := by
    rw [counted]
    simp only [nanosPerSecond, nanosPerDay]
    omega
  have read := ofRfc3339?_parts (Date.valid_ofDays day) (Date.ofDays_within earliest latest)
    hours minutes seconds nanos
  simp only [Date.daysSinceEpoch_ofDays, sum, leaps] at read
  simp only [rfc3339, days, rests, marked]
  exact read.trans t.ofNanos?_nanos

end InstancedAreas.Instant
