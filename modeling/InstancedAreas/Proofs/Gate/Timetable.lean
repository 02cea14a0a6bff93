import InstancedAreas.Proofs.Gate.Cycle
import InstancedAreas.Proofs.Instant.Deadline
import Mathlib.Data.List.Induction

/-! Timetables show exact cycles. What a gate shows is the label of the one phase of its
cycle that the time falls into, and nothing if the cycle has no whole millisecond. All
that is computed on the way fits in 63 bits, whatever the phases and the time, and the
cycle begins again where it ends. -/
namespace InstancedAreas

namespace Instant

/-- What lies whole milliseconds ahead is counted so many milliseconds later. A leap
second has the count of the second behind it, but what leaves it lies ahead of the
second before. -/
theorem millis_of_after? {t later : Instant} {span : Duration} {millis : Nat}
    (whole : span.nanos = millis * nanosPerMilli) (ends : t.after? span = some later)
    (same : later.leap = t.leap) : later.millis = t.millis + millis := by
  obtain ⟨-, count, -⟩ := of_after? ends
  simp only [nanosPerMilli] at whole
  simp only [Instant.millis, same]
  omega

/-- The milliseconds of a time fit in 63 bits and a sign. -/
theorem millis_bounded (t : Instant) :
    -(Gate.mostMillis : Int) ≤ t.millis ∧ t.millis ≤ Gate.mostMillis := by
  have earliest := t.earliest
  have latest := t.latest
  simp only [earliestNanos, latestNanos] at earliest latest
  simp only [Instant.millis, Gate.mostMillis]
  split <;> omega

end Instant

namespace Gate

/-! ## The phase that the time falls into -/

section Phases

variable {phases : List Phase} {offset i j : Nat} {phase other : Phase}

/-- So many milliseconds after the start of a cycle, the phase with an index is going
on. -/
def Current (phases : List Phase) (offset i : Nat) (phase : Phase) : Prop :=
  phases[i]? = some phase ∧ spanMillis (phases.take i) ≤ offset ∧
    offset < spanMillis (phases.take i) + phase.millis

instance : Decidable (Current phases offset i phase) :=
  inferInstanceAs (Decidable (_ ∧ _ ∧ _))

theorem spanMillis_append (before after : List Phase) :
    spanMillis (before ++ after) = spanMillis before + spanMillis after := by
  simp [spanMillis]

theorem spanMillis_take_le (phases : List Phase) (i : Nat) :
    spanMillis (phases.take i) ≤ spanMillis phases := by
  have whole := spanMillis_append (phases.take i) (phases.drop i)
  rw [List.take_append_drop] at whole
  omega

theorem spanMillis_take_mono (before : i ≤ j) :
    spanMillis (phases.take i) ≤ spanMillis (phases.take j) := by
  have part := spanMillis_take_le (phases.take j) i
  rwa [List.take_take, Nat.min_eq_left before] at part

/-- A phase that is going on is over when a later one begins. -/
theorem Current.over (current : Current phases offset i phase) (before : i < j) :
    offset < spanMillis (phases.take j) := by
  obtain ⟨here, -, lasts⟩ := current
  obtain ⟨within, rfl⟩ := List.getElem?_eq_some_iff.mp here
  have next : spanMillis (phases.take (i + 1)) = spanMillis (phases.take i) + phases[i].millis := by
    rw [List.take_succ_eq_append_getElem within, spanMillis_append]
    simp [spanMillis]
  exact Nat.lt_of_lt_of_le (next ▸ lasts) (spanMillis_take_mono before)

/-- One phase is going on at a time. -/
theorem Current.unique (current : Current phases offset i phase)
    (also : Current phases offset j other) : i = j := by
  rcases Nat.lt_trichotomy i j with before | same | behind
  · exact absurd (current.over before) (Nat.not_lt.mpr also.2.1)
  · exact same
  · exact absurd (also.over behind) (Nat.not_lt.mpr current.2.1)

/-- The phase that is going on is what is shown. -/
theorem Current.stateAfter? (current : Current phases offset i phase) :
    stateAfter? offset phases = some phase.state := by
  obtain ⟨here, begun, lasts⟩ := current
  have split : phases = phases.take i ++ phase :: phases.drop (i + 1) := by
    obtain ⟨within, rfl⟩ := List.getElem?_eq_some_iff.mp here
    rw [List.getElem_cons_drop, List.take_append_drop]
  rw [split]
  exact stateAfter?_of_split begun lasts

/-- As long as a cycle lasts, some phase is going on. -/
theorem exists_current (within : offset < spanMillis phases) :
    ∃ i phase, Current phases offset i phase := by
  obtain ⟨before, after, phase, rfl, begun, lasts⟩ := exists_phase within
  refine ⟨before.length, phase, by simp, ?_, ?_⟩ <;> rw [List.take_left]
  · exact begun
  · exact lasts

end Phases

/-- Where a cycle has a whole millisecond, every time falls into it. -/
theorem offsetAt_lt {phases : List Phase} (lasting : 0 < min (spanMillis phases) mostMillis)
    (t : Instant) : offsetAt phases t < min (spanMillis phases) mostMillis := by
  have below := Int.emod_lt_of_pos t.millis (Int.natCast_pos.mpr lasting)
  simp only [offsetAt]
  omega

/-! ## What is computed on the way -/

/-- A number, if it is not negative and fits in 63 bits. -/
def sized? (n : Int) : Option Int := if 0 ≤ n ∧ n ≤ mostMillis then some n else none

/-- The length of a cycle on top of a total, as long as each total is sized. A total is
cut off where it becomes too large. -/
def sizedLength? : Int → List Phase → Option Int
  | total, [] => some total
  | total, phase :: rest => do
    let length ← sized? phase.millis
    let next ← sized? (min (total + length) mostMillis)
    sizedLength? next rest

/-- The state so many milliseconds after the start of a cycle, as long as what is left of
them after each phase is sized. -/
def sizedState? : Int → List Phase → Option (Option String)
  | _, [] => some none
  | offset, phase :: rest =>
    if offset < phase.millis then some (some phase.state)
    else do
      let left ← sized? (offset - phase.millis)
      sizedState? left rest

/-- The state of a cycle at a time, as long as all numbers are sized that are computed
for it. -/
def sizedReading? (cycle : List Phase) (t : Instant) : Option (Option String) := do
  let length ← sizedLength? 0 cycle
  if length ≤ 0 then some none
  else do
    let offset ← sized? (t.millis % length)
    sizedState? offset cycle

theorem sized?_of_le {n : Nat} (fits : n ≤ mostMillis) : sized? n = some (n : Int) := by
  rw [sized?, if_pos ⟨Int.natCast_nonneg n, Int.ofNat_le.mpr fits⟩]

theorem sizedLength?_eq (phases : List Phase) {total : Nat} (fits : total ≤ mostMillis) :
    sizedLength? total phases =
      some ((phases.foldl (fun total phase => min (total + phase.millis) mostMillis) total : Nat) :
        Int) := by
  induction phases generalizing total with
  | nil => rfl
  | cons phase rest ih =>
    have one : sized? phase.millis = some (phase.millis : Int) := sized?_of_le (Nat.min_le_right ..)
    have cut : min (total + phase.millis : Int) mostMillis =
        (min (total + phase.millis) mostMillis : Nat) := by omega
    have next := sized?_of_le (Nat.min_le_right (total + phase.millis) mostMillis)
    simp only [sizedLength?, one, cut, next, bind, Option.bind_some, List.foldl_cons]
    exact ih (Nat.min_le_right ..)

/-- What is left of an offset never is negative, because a phase is taken off only when it
has gone by. -/
theorem sizedState?_eq (phases : List Phase) {offset : Nat} (fits : offset ≤ mostMillis) :
    sizedState? offset phases = some (stateAfter? offset phases) := by
  induction phases generalizing offset with
  | nil => rfl
  | cons phase rest ih =>
    simp only [sizedState?, stateAfter?, Int.ofNat_lt]
    split
    · rfl
    · rename_i gone
      have left : sized? ((offset : Int) - phase.millis) =
          some ((offset - phase.millis : Nat) : Int) := by
        rw [← sized?_of_le (Nat.le_trans (Nat.sub_le ..) fits), Int.ofNat_sub (Nat.not_lt.mp gone)]
      simp only [left, bind, Option.bind_some]
      exact ih (Nat.le_trans (Nat.sub_le ..) fits)

/-! ## Timetables -/

/-- The cycle of a gate after gates were added one after the other: the phases of the last
addition under its name that has any that lasts. -/
def cycleOf (gates : List (String × List Phase)) (name : String) : List Phase :=
  (((gates.filter (·.1 = name)).map fun gate => lasting gate.2).filter (· ≠ [])).getLastD []

/-- The time that a cycle takes. -/
def cycleSpan (cycle : List Phase) : Duration where
  nanos := min (spanMillis cycle) mostMillis * nanosPerMilli
  bounded :=
    Nat.lt_of_le_of_lt (Nat.mul_le_mul_right _ (Nat.min_le_right ..))
      (by decide : mostMillis * nanosPerMilli < Duration.limit)

namespace Timetable

/-- The timetable to which gates were added one after the other. -/
def ofGates (gates : List (String × List Phase)) : Timetable :=
  gates.foldl (fun timetable gate => timetable.withGate gate.1 gate.2) .empty

theorem cycleOf_concat (gates : List (String × List Phase)) (gate : String × List Phase)
    (name : String) :
    cycleOf (gates ++ [gate]) name =
      if gate.1 = name ∧ lasting gate.2 ≠ [] then lasting gate.2 else cycleOf gates name := by
  by_cases own : gate.1 = name <;> by_cases brief : lasting gate.2 = [] <;>
    simp [cycleOf, own, brief]

/-- A gate has its cycle in the timetable, or it is not there. -/
theorem find?_ofGates (gates : List (String × List Phase)) (name : String) :
    (ofGates gates).cycles.find? name =
      if cycleOf gates name = [] then none else some (cycleOf gates name) := by
  induction gates using List.reverseRecOn with
  | nil => rfl
  | append_singleton gates gate ih =>
    have added : ofGates (gates ++ [gate]) = (ofGates gates).withGate gate.1 gate.2 :=
      List.foldl_append
    rw [added, find?_withGate, cycleOf_concat, ih]
    by_cases counts : gate.1 = name ∧ lasting gate.2 ≠ []
    · simp only [if_pos counts, if_neg counts.2]
    · simp only [if_neg counts]

theorem stateAt?_ofGates (gates : List (String × List Phase)) (name : String) (t : Instant) :
    let cycle := cycleOf gates name
    (ofGates gates).stateAt? name t =
      if min (spanMillis cycle) mostMillis = 0 then none
      else stateAfter? (offsetAt cycle t) cycle := by
  intro cycle
  simp only [stateAt?, find?_ofGates, bind, Option.bind]
  by_cases absent : cycle = []
  · simp [cycle, absent, spanMillis]
  · rw [if_neg absent]
    simp only [cycleMillis_eq]
    rfl

/-- The walk over a cycle that checks all it computes finds what is shown. -/
theorem sizedReading?_eq (gates : List (String × List Phase)) (gate : String) (t : Instant) :
    sizedReading? (cycleOf gates gate) t = some ((ofGates gates).stateAt? gate t) := by
  have length : sizedLength? 0 (cycleOf gates gate) =
      some ((min (spanMillis (cycleOf gates gate)) mostMillis : Nat) : Int) := by
    rw [← cycleMillis_eq]
    exact sizedLength?_eq _ (Nat.zero_le _)
  simp only [sizedReading?, length, bind, Option.bind_some, stateAt?_ofGates]
  by_cases idle : min (spanMillis (cycleOf gates gate)) mostMillis = 0
  · simp [idle]
  · have positive := Nat.pos_of_ne_zero idle
    have below := offsetAt_lt positive t
    have offset : sized? (t.millis % (min (spanMillis (cycleOf gates gate)) mostMillis : Nat)) =
        some (offsetAt (cycleOf gates gate) t : Int) := by
      rw [← sized?_of_le (Nat.le_trans (Nat.le_of_lt below) (Nat.min_le_right ..)), offsetAt,
        Int.toNat_of_nonneg (Int.emod_nonneg _ (Int.natCast_ne_zero.mpr idle))]
    rw [if_neg (by omega), offset, if_neg idle]
    exact sizedState?_eq _ (Nat.le_trans (Nat.le_of_lt below) (Nat.min_le_right ..))

/-- A gate shows the label of the one phase of its cycle that the time falls into, and
nothing if its cycle has no whole millisecond. No number on the way is negative or needs
more than 63 bits. At times that are a whole cycle apart it shows the same, and so it does
when its cycle has gone by, unless that leaves a leap second. -/
theorem gates_follow_their_cycles (gates : List (String × List Phase)) (gate : String)
    (t : Instant) :
    let cycle := cycleOf gates gate
    let length := min (spanMillis cycle) mostMillis
    let shown (t : Instant) := (ofGates gates).stateAt? gate t
    (length = 0 → shown t = none) ∧
      (0 < length →
        (∃! i, ∃ phase, Current cycle (t.millis % length).toNat i phase) ∧
        ∀ i phase, Current cycle (t.millis % length).toNat i phase →
          shown t = some phase.state) ∧
      (-(mostMillis : Int) ≤ t.millis ∧ t.millis ≤ mostMillis) ∧
      sizedReading? cycle t = some (shown t) ∧
      (∀ later : Instant, later.millis = t.millis + length → shown later = shown t) ∧
      ∀ later, t.after? (cycleSpan cycle) = some later → later.leap = t.leap →
        shown later = shown t := by
  intro cycle length shown
  have reading (t : Instant) :
      shown t = if length = 0 then none else stateAfter? (offsetAt cycle t) cycle :=
    stateAt?_ofGates gates gate t
  have again (later : Instant) (apart : later.millis = t.millis + length) :
      shown later = shown t := by
    have offset : offsetAt cycle later = offsetAt cycle t := by
      simp only [offsetAt, apart]
      exact congrArg Int.toNat (Int.add_emod_right ..)
    rw [reading, reading, offset]
  refine ⟨fun idle => by rw [reading, if_pos idle], fun positive => ⟨?_, ?_⟩, t.millis_bounded,
    sizedReading?_eq gates gate t, again, fun later ends same =>
    again later (Instant.millis_of_after? rfl ends same)⟩
  · obtain ⟨i, phase, current⟩ := exists_current
      (Nat.lt_of_lt_of_le (offsetAt_lt positive t) (Nat.min_le_left ..))
    refine ⟨i, ⟨phase, current⟩, ?_⟩
    rintro j ⟨_, also⟩
    exact also.unique current
  · intro i phase current
    rw [reading, if_neg (Nat.ne_of_gt positive)]
    exact current.stateAfter?

/-- The last millisecond before 1970 falls into the second of two phases; the phase
between them is too short to be shown. -/
theorem lamp_is_out_before_the_epoch :
    let gates : List (String × List Phase) :=
      [("lamp", [⟨"on", ⟨2000000000, by decide⟩⟩, ⟨"flickering", ⟨999999, by decide⟩⟩,
        ⟨"out", ⟨3000000000, by decide⟩⟩])]
    let t : Instant := ⟨-1000000, false, by decide, by decide, nofun⟩
    let later : Instant := ⟨4999000000, false, by decide, by decide, nofun⟩
    (ofGates gates).stateAt? "lamp" t = some "out" ∧
      (ofGates gates).stateAt? "lamp" later = (ofGates gates).stateAt? "lamp" t := by
  intro gates t later
  obtain ⟨-, shown, -, -, again, -⟩ := gates_follow_their_cycles gates "lamp" t
  exact ⟨(shown (by decide)).2 2 ⟨"out", ⟨3000000000, by decide⟩⟩ (by decide),
    again later (by decide)⟩

end Timetable

end Gate

end InstancedAreas
