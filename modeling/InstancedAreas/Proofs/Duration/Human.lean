import InstancedAreas.Duration.Human
import InstancedAreas.Proofs.Text.Digits

/-! The human text of a span gives the span back, however long it is. The text counts
each measure as often as it fits into what the longer ones have left, down to single
nanoseconds, so the counts add up to the whole span. Reading adds them in the same
order and never passes the span, so nothing on the way leaves 64 bits. -/
namespace InstancedAreas.Duration

/-! ### Counting -/

/-- What is left of a number of nanoseconds behind the measures of a list. -/
def left (nanos : Nat) (measures : List Measure) : Nat :=
  measures.foldl (fun rest measure => rest % measure.nanos) nanos

theorem split_append (nanos : Nat) (measures others : List Measure) :
    split nanos (measures ++ others) =
      split nanos measures ++ split (left nanos measures) others := by
  induction measures generalizing nanos with
  | nil => rfl
  | cons measure rest ih => simp [split, left, ih]

theorem left_le (nanos : Nat) (measures : List Measure) : left nanos measures ≤ nanos := by
  induction measures generalizing nanos with
  | nil => exact Nat.le_refl nanos
  | cons measure rest ih => exact Nat.le_trans (ih _) (Nat.mod_le ..)

/-- A count of a measure behind a total. -/
def addCount? (total : Nat) (span : Nat × Measure) : Option Nat :=
  addSpan? total ⟨span.1, none⟩ (span.2.label span.1)

/-- Every measure is known by the name that is written. -/
theorem ofName?_label (measure : Measure) (count : Nat) :
    Measure.ofName? (measure.label count) = some measure := by
  cases measure <;> simp only [Measure.label] <;> first | rfl | (split <;> rfl)

theorem nanos_of_seconds {measure : Measure} {seconds : Nat}
    (lasts : measure.seconds? = some seconds) :
    measure.nanos = seconds * nanosPerSecond ∧ 0 < seconds := by
  cases measure <;> cases lasts <;> decide

theorem nanos_pos (measure : Measure) : 0 < measure.nanos := by
  cases measure <;> decide

/-- A count is within 64 bits where the sum is a span, and where it counts less than a
second. -/
theorem wholeNanos?_eq_some {total count : Nat} {measure : Measure}
    (bounded : total + count * measure.nanos < limit)
    (small : measure.seconds? = none → count * measure.nanos < nanosPerSecond) :
    wholeNanos? total count measure = some (count * measure.nanos) := by
  have word {n : Nat} (below : n < UInt64.size) : word? n = some n := if_pos below
  cases lasts : measure.seconds? with
  | some seconds =>
    obtain ⟨nanos, positive⟩ := nanos_of_seconds lasts
    rw [nanos, ← Nat.mul_assoc] at bounded ⊢
    have product : count * seconds < UInt64.size :=
      Nat.lt_of_mul_lt_mul_right (Nat.lt_of_le_of_lt (Nat.le_add_left _ total) bounded)
    have less : count < UInt64.size :=
      Nat.lt_of_le_of_lt (Nat.le_mul_of_pos_right count positive) product
    simp only [wholeNanos?, lasts, word less, word product, Option.bind_eq_bind,
      Option.bind_some, Option.map_some]
  | none =>
    have below := small lasts
    have rest : total % nanosPerSecond < nanosPerSecond := Nat.mod_lt _ (by decide)
    have room : nanosPerSecond + nanosPerSecond ≤ UInt64.size := by decide
    have less : count < UInt64.size := by
      have := Nat.le_mul_of_pos_right count (nanos_pos measure)
      omega
    have product : count * measure.nanos < UInt64.size := by omega
    have sum : total % nanosPerSecond + count * measure.nanos < UInt64.size := by omega
    simp only [wholeNanos?, lasts, word less, word product, word sum, Option.bind_eq_bind,
      Option.bind_some, Option.map_some]

/-- A count is added where the sum is a span. -/
theorem addCount?_eq_some {total count : Nat} {measure : Measure}
    (bounded : total + count * measure.nanos < limit)
    (small : measure.seconds? = none → count * measure.nanos < nanosPerSecond) :
    addCount? total (count, measure) = some (total + count * measure.nanos) := by
  have span : ofNanos? (total + count * measure.nanos + 0) =
      some ⟨total + count * measure.nanos, bounded⟩ := dif_pos bounded
  simp only [addCount?, addSpan?, ofName?_label, wholeNanos?_eq_some bounded small,
    Option.bind_eq_bind, Option.bind_some, span, Option.map_some]

/-- Counts are added up to what they count. -/
theorem foldlM_addCount? {total nanos : Nat} {measures : List Measure}
    (bounded : total + nanos < limit)
    (small : ∀ measure ∈ measures, measure.seconds? = none → nanos < nanosPerSecond) :
    ((split nanos measures).filter (·.1 != 0)).foldlM addCount? total =
      some (total + (nanos - left nanos measures)) := by
  induction measures generalizing total nanos with
  | nil => simp [split, left]
  | cons measure rest ih =>
    obtain ⟨smallHere, smallRest⟩ := List.forall_mem_cons.mp small
    have counted : nanos / measure.nanos * measure.nanos + nanos % measure.nanos = nanos :=
      Nat.div_add_mod' nanos measure.nanos
    have uncounted : left nanos (measure :: rest) = left (nanos % measure.nanos) rest := rfl
    have remains := left_le (nanos % measure.nanos) rest
    have within :
        total + nanos / measure.nanos * measure.nanos + nanos % measure.nanos < limit := by omega
    have further := ih within fun other member part =>
      Nat.lt_of_le_of_lt (Nat.mod_le ..) (smallRest other member part)
    have same : total + nanos / measure.nanos * measure.nanos +
        (nanos % measure.nanos - left (nanos % measure.nanos) rest) =
          total + (nanos - left nanos (measure :: rest)) := by omega
    rw [same] at further
    by_cases none : nanos / measure.nanos = 0
    · rw [none, Nat.zero_mul, Nat.add_zero] at further
      simpa [split, none] using further
    · have added : addCount? total (nanos / measure.nanos, measure) = _ :=
        addCount?_eq_some (by omega) fun part => by have := smallHere part; omega
      simpa [split, none, added] using further

/-- The counts of a span add up to it. -/
theorem foldlM_addCount?_written (d : Duration) :
    ((split d.nanos written).filter (·.1 != 0)).foldlM addCount? 0 = some d.nanos := by
  let long : List Measure := [.year, .month, .day, .hour, .minute, .second]
  let short : List Measure := [.millisecond, .microsecond, .nanosecond]
  have lasting : ∀ measure ∈ long, measure.seconds? ≠ none := by decide
  have part : left d.nanos long < nanosPerSecond := Nat.mod_lt _ (by decide)
  have nothing : left (left d.nanos long) short = 0 := Nat.mod_one _
  have remains := left_le d.nanos long
  have first : ((split d.nanos long).filter (·.1 != 0)).foldlM addCount? 0 = _ :=
    foldlM_addCount? (by rw [Nat.zero_add]; exact d.bounded) fun measure member none =>
      absurd none (lasting measure member)
  have second : ((split (left d.nanos long) short).filter (·.1 != 0)).foldlM addCount?
      (0 + (d.nanos - left d.nanos long)) = _ :=
    foldlM_addCount? (by have := d.bounded; omega) fun _ _ _ => part
  have whole : 0 + (d.nanos - left d.nanos long) + (left d.nanos long - 0) = d.nanos := by omega
  rw [show written = long ++ short from rfl, split_append, List.filter_append,
    List.foldlM_append, first, Option.bind_eq_bind, Option.bind_some, second, nothing, whole]

/-! ### Reading -/

/-- The total of a text that is between two spans. -/
def Reading.between? : Reading → Option Nat
  | .start => some 0
  | .between total => some total
  | _ => none

/-- The characters of a count. -/
def spanChars (span : Nat × Measure) : List Char :=
  Nat.toDigits 10 span.1 ++ (span.2.label span.1).toList

/-- Every name of a measure consists of letters, and these are neither digits nor blanks. -/
theorem label_cons (measure : Measure) (count : Nat) : ∃ c letters,
    (measure.label count).toList = c :: letters ∧ (c :: letters).all (fun letter =>
      isLetter letter && !Text.isDigit letter && !Text.isBlank letter) = true := by
  cases measure <;> simp only [Measure.label] <;> (try split) <;>
    exact ⟨_, _, rfl, by decide⟩

/-- Digits are gathered behind a total. -/
theorem foldlM_digits {total : Nat} {digits : List Char}
    (each : ∀ c ∈ digits, Text.isDigit c = true) (seen : List Char) :
    digits.foldlM Reading.step? (.whole total seen) =
      some (.whole total (digits.reverse ++ seen)) := by
  induction digits generalizing seen with
  | nil => rfl
  | cons c rest ih =>
    obtain ⟨digit, others⟩ := List.forall_mem_cons.mp each
    rw [List.foldlM_cons]
    simp [Reading.step?, digit, ih others]

/-- Letters are gathered behind a number. -/
theorem foldlM_letters {total : Nat} {amount : Amount} {letters : List Char}
    (each : ∀ c ∈ letters, isLetter c = true) (seen : List Char) :
    letters.foldlM Reading.step? (.name total amount seen) =
      some (.name total amount (letters.reverse ++ seen)) := by
  induction letters generalizing seen with
  | nil => rfl
  | cons c rest ih =>
    obtain ⟨letter, others⟩ := List.forall_mem_cons.mp each
    rw [List.foldlM_cons]
    simp [Reading.step?, letter, ih others]

/-- A count is read up to the end of its measure's name. -/
theorem foldlM_spanChars {reading : Reading} {total : Nat} (begun : reading.between? = some total)
    (span : Nat × Measure) :
    (spanChars span).foldlM Reading.step? reading =
      some (.name total ⟨span.1, none⟩ (span.2.label span.1).toList.reverse) := by
  obtain ⟨count, measure⟩ := span
  obtain ⟨d, digits, numeral⟩ := List.exists_cons_of_ne_nil (@Nat.toDigits_ne_nil count 10)
  have each (c : Char) (member : c ∈ Nat.toDigits 10 count) := Text.isDigit_of_mem_toDigits member
  have spelled := Text.numeral?_toDigits count
  rw [numeral] at each spelled
  obtain ⟨digit, digits'⟩ := List.forall_mem_cons.mp each
  obtain ⟨l, letters, name, checked⟩ := label_cons measure count
  have letter (c : Char) (member : c ∈ l :: letters) :
      isLetter c = true ∧ Text.isDigit c = false ∧ Text.isBlank c = false := by
    simpa [and_assoc] using List.all_eq_true.mp checked c member
  obtain ⟨⟨first, notDigit, notBlank⟩, others⟩ := List.forall_mem_cons.mp letter
  have started : reading.step? d = some (.whole total [d]) := by
    cases reading <;> cases begun <;> simp [Reading.step?, digit]
  have named : Reading.step? (.whole total (digits.reverse ++ [d])) l =
      some (.name total ⟨count, none⟩ [l]) := by
    simp [Reading.step?, first, notDigit, notBlank, spelled]
  rw [spanChars, numeral, name, List.cons_append, List.foldlM_cons, started,
    Option.bind_eq_bind, Option.bind_some, List.foldlM_append, foldlM_digits digits',
    Option.bind_eq_bind, Option.bind_some, List.foldlM_cons, named, Option.bind_eq_bind,
    Option.bind_some, foldlM_letters fun c member => (others c member).1, List.reverse_cons]

/-- A blank ends the name of a measure, and its count is added. -/
theorem step?_blank (total : Nat) (span : Nat × Measure) :
    Reading.step? (.name total ⟨span.1, none⟩ (span.2.label span.1).toList.reverse) ' ' =
      (addCount? total span).map .between := by
  have letter : isLetter ' ' = false := by decide
  have digit : Text.isDigit ' ' = false := by decide
  have blank : Text.isBlank ' ' = true := by decide
  cases added : addCount? total span <;> rw [addCount?] at added <;>
    simp [Reading.step?, letter, digit, blank, added]

/-- Counts that are parted by blanks are read one after the other, and added up. -/
theorem read_counts {spans : List (Nat × Measure)} (nonempty : spans ≠ []) {reading : Reading}
    {total : Nat} (begun : reading.between? = some total) :
    (([' '].intercalate (spans.map spanChars)).foldlM Reading.step? reading).bind Reading.finish? =
      spans.foldlM addCount? total := by
  induction spans generalizing reading total with
  | nil => exact absurd rfl nonempty
  | cons span others ih =>
    have read := foldlM_spanChars begun span
    cases others with
    | nil =>
      rw [List.map_cons, List.map_nil, List.intercalate_singleton, read, Option.bind_some,
        List.foldlM_cons]
      simp [Reading.finish?, addCount?, List.reverse_reverse]
    | cons next others =>
      rw [List.map_cons, List.map_cons, List.intercalate_cons_cons, ← List.map_cons,
        List.append_assoc, List.foldlM_append, read, Option.bind_eq_bind, Option.bind_some,
        List.singleton_append, List.foldlM_cons, step?_blank, List.foldlM_cons]
      cases added : addCount? total span with
      | none => rfl
      | some after => exact ih (List.cons_ne_nil next others) rfl

theorem toList_human {d : Duration} (lasting : d.isZero = false) :
    d.human.toList =
      [' '].intercalate (((split d.nanos written).filter (·.1 != 0)).map spanChars) := by
  have texts (spans : List (Nat × Measure)) :
      (spans.map fun span => Text.decimal span.1 ++ span.2.label span.1).map String.toList =
        spans.map spanChars := by
    rw [List.map_map]
    exact List.map_congr_left fun span _ => by simp [spanChars, Text.decimal]
  rw [human, if_neg (by simp [lasting]), String.toList_intercalate]
  exact congrArg [' '].intercalate (texts _)

/-- The human text of a span is that span. -/
theorem ofHuman?_human (d : Duration) : ofHuman? d.human = some d := by
  cases lasting : d.isZero with
  | true =>
    obtain rfl : d = zero := by
      have none : d.nanos = 0 := by simpa [isZero] using lasting
      cases d
      cases none
      rfl
    decide
  | false =>
    have sum := foldlM_addCount?_written d
    have nonempty : (split d.nanos written).filter (·.1 != 0) ≠ [] := by
      intro none
      rw [none] at sum
      have zero : 0 = d.nanos := Option.some.inj sum
      simp [isZero, ← zero] at lasting
    have read := read_counts nonempty (show Reading.start.between? = some 0 from rfl)
    rw [← toList_human lasting, sum] at read
    have alone : d.human ≠ "0" := by
      intro same
      rw [same] at read
      cases read
    rw [ofHuman?, if_neg alone]
    obtain ⟨reading, finished, total⟩ := Option.bind_eq_some_iff.mp read
    simp [finished, total, ofNanos?_nanos]

end InstancedAreas.Duration
