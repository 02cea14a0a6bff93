import InstancedAreas.Gate.Timetable
import InstancedAreas.Table.Lemmas
import Mathlib.Algebra.Order.Ring.Nat

/-! What a cycle of phases shows. It is the label of the phase that the time falls
into, counted in whole milliseconds from the start of 1970 and from the beginning
again where the cycle ends. Phases of less than a millisecond are never shown, and it
makes no difference whether a timetable leaves them out. -/
namespace InstancedAreas.Gate

/-- The milliseconds of phases one after the other. -/
def spanMillis (phases : List Phase) : Nat := (phases.map Phase.millis).sum

/-- The milliseconds of a cycle that have passed at a time. -/
def offsetAt (phases : List Phase) (t : Instant) : Nat :=
  (t.millis % (min (spanMillis phases) mostMillis : Nat)).toNat

/-- What a cycle shows at a time: nothing if no phase lasts for a millisecond, and the
label of the phase that the time falls into otherwise. -/
inductive Shows (phases : List Phase) (t : Instant) : Option String → Prop where
  | nothing (brief : ∀ phase ∈ phases, phase.duration.nanos < nanosPerMilli) :
      Shows phases t none
  | label (before after : List Phase) (phase : Phase) (split : phases = before ++ phase :: after)
      (begun : spanMillis before ≤ offsetAt phases t)
      (lasts : offsetAt phases t < spanMillis before + phase.millis) :
      Shows phases t (some phase.state)

theorem spanMillis_cons (phase : Phase) (rest : List Phase) :
    spanMillis (phase :: rest) = phase.millis + spanMillis rest := by
  simp [spanMillis]

/-- A phase has no whole millisecond if it is shorter than one. -/
theorem Phase.millis_eq_zero_iff {phase : Phase} :
    phase.millis = 0 ↔ phase.duration.nanos < nanosPerMilli := by
  have positive : 0 < mostMillis := by decide
  have whole : phase.duration.wholeMillis = 0 ↔ phase.duration.nanos < nanosPerMilli :=
    Nat.div_eq_zero_iff.trans (or_iff_right (by decide))
  rw [← whole, Phase.millis]
  omega

theorem spanMillis_eq_zero_iff {phases : List Phase} :
    spanMillis phases = 0 ↔ ∀ phase ∈ phases, phase.duration.nanos < nanosPerMilli := by
  induction phases with
  | nil => simp [spanMillis]
  | cons phase rest ih =>
    rw [spanMillis_cons, Nat.add_eq_zero_iff, ih, Phase.millis_eq_zero_iff, List.forall_mem_cons]

/-- A cycle lasts as long as its phases, or as long as a cycle may last. -/
theorem cycleMillis_eq (phases : List Phase) :
    cycleMillis phases = min (spanMillis phases) mostMillis := by
  have onward (start : Nat) (below : start ≤ mostMillis) :
      phases.foldl (fun total phase => min (total + phase.millis) mostMillis) start =
        min (start + spanMillis phases) mostMillis := by
    induction phases generalizing start with
    | nil => simpa [spanMillis] using below
    | cons phase rest ih =>
      rw [List.foldl_cons, ih _ (Nat.min_le_right ..), spanMillis_cons]
      omega
  have whole := onward 0 (Nat.zero_le _)
  rwa [Nat.zero_add] at whole

/-- The phase that the time falls into is the one that is shown. -/
theorem stateAfter?_of_split {before after : List Phase} {phase : Phase} {offset : Nat}
    (begun : spanMillis before ≤ offset) (lasts : offset < spanMillis before + phase.millis) :
    stateAfter? offset (before ++ phase :: after) = some phase.state := by
  induction before generalizing offset with
  | nil =>
    have here : offset < phase.millis := by simpa [spanMillis] using lasts
    simp [stateAfter?, here]
  | cons first rest ih =>
    rw [spanMillis_cons] at begun lasts
    have passed : ¬ offset < first.millis := by omega
    rw [List.cons_append, stateAfter?, if_neg passed]
    exact ih (by omega) (by omega)

/-- Every time within phases falls into one of them. -/
theorem exists_phase {phases : List Phase} {offset : Nat} (within : offset < spanMillis phases) :
    ∃ before after phase, phases = before ++ phase :: after ∧ spanMillis before ≤ offset ∧
      offset < spanMillis before + phase.millis := by
  induction phases generalizing offset with
  | nil => simp [spanMillis] at within
  | cons first rest ih =>
    by_cases here : offset < first.millis
    · exact ⟨[], rest, first, rfl, Nat.zero_le _, by simpa [spanMillis] using here⟩
    · rw [spanMillis_cons] at within
      obtain ⟨before, after, phase, rfl, begun, lasts⟩ :=
        ih (show offset - first.millis < _ by omega)
      refine ⟨first :: before, after, phase, rfl, ?_, ?_⟩ <;> rw [spanMillis_cons] <;> omega

/-- Where no phase has a whole millisecond, none is shown. -/
theorem stateAfter?_of_brief {phases : List Phase} (none : spanMillis phases = 0) (offset : Nat) :
    stateAfter? offset phases = .none := by
  induction phases generalizing offset with
  | nil => rfl
  | cons first rest ih =>
    rw [spanMillis_cons, Nat.add_eq_zero_iff] at none
    rw [stateAfter?, none.1, if_neg (Nat.not_lt_zero _)]
    exact ih none.2 _

/-- A cycle shows one thing at a time. -/
theorem Shows.eq_stateAfter? {phases : List Phase} {t : Instant} {label : Option String}
    (shows : Shows phases t label) : label = stateAfter? (offsetAt phases t) phases := by
  cases shows with
  | nothing brief => exact (stateAfter?_of_brief (spanMillis_eq_zero_iff.mpr brief) _).symm
  | label before after phase split begun lasts =>
    generalize offsetAt phases t = offset at begun lasts
    rw [split]
    exact (stateAfter?_of_split begun lasts).symm

theorem Shows.unique {phases : List Phase} {t : Instant} {label other : Option String}
    (first : Shows phases t label) (second : Shows phases t other) : label = other :=
  first.eq_stateAfter?.trans second.eq_stateAfter?.symm

/-- Of a cycle with a whole millisecond the time falls into some phase. -/
theorem shows_stateAfter? {phases : List Phase} (t : Instant) (lasting : spanMillis phases ≠ 0) :
    Shows phases t (stateAfter? (offsetAt phases t) phases) := by
  have positive : 0 < min (spanMillis phases) mostMillis :=
    Nat.lt_min.mpr ⟨Nat.pos_of_ne_zero lasting, by decide⟩
  have within : offsetAt phases t < spanMillis phases := by
    have below := Int.emod_lt_of_pos t.millis (Int.natCast_pos.mpr positive)
    simp only [offsetAt]
    omega
  obtain ⟨before, after, phase, split, begun, lasts⟩ := exists_phase within
  have shown : stateAfter? (offsetAt phases t) phases = some phase.state := by
    generalize offsetAt phases t = offset at begun lasts
    rw [split]
    exact stateAfter?_of_split begun lasts
  rw [shown]
  exact .label before after phase split begun lasts

/-! ## Timetables -/

section Lasting

variable {keep : Phase → Bool} {phases : List Phase}
  (brief : ∀ phase ∈ phases, keep phase = false → phase.millis = 0)

include brief

/-- Leaving out phases without a whole millisecond shortens nothing. -/
theorem spanMillis_filter : spanMillis (phases.filter keep) = spanMillis phases := by
  induction phases with
  | nil => rfl
  | cons phase rest ih =>
    obtain ⟨first, others⟩ := List.forall_mem_cons.mp brief
    rw [List.filter_cons, spanMillis_cons, ← ih others]
    split
    · exact spanMillis_cons ..
    · rename_i dropped
      rw [first (by simpa using dropped), Nat.zero_add]

theorem stateAfter?_filter (offset : Nat) :
    stateAfter? offset (phases.filter keep) = stateAfter? offset phases := by
  induction phases generalizing offset with
  | nil => rfl
  | cons phase rest ih =>
    obtain ⟨first, others⟩ := List.forall_mem_cons.mp brief
    rw [List.filter_cons]
    split
    · simp only [stateAfter?, ih others]
    · rename_i dropped
      rw [ih others, stateAfter?, first (by simpa using dropped), if_neg (Nat.not_lt_zero _),
        Nat.sub_zero]

end Lasting

/-- The phases that last some time. -/
def lasting (phases : List Phase) : List Phase := phases.filter fun phase => !phase.duration.isZero

namespace Timetable

/-- Adding a gate gives it the phases that last some time as its cycle, if there are any,
and changes nothing else. -/
theorem find?_withGate (timetable : Timetable) (gate : String) (phases : List Phase)
    (name : String) :
    (timetable.withGate gate phases).cycles.find? name =
      if gate = name ∧ lasting phases ≠ [] then some (lasting phases)
      else timetable.cycles.find? name := by
  have added : timetable.withGate gate phases =
      if (lasting phases).isEmpty then timetable
      else ⟨timetable.cycles.insert gate (lasting phases)⟩ := rfl
  rw [added]
  by_cases brief : lasting phases = []
  · simp [brief]
  · rw [if_neg (by simpa using brief), Table.find?_insert]
    simp only [brief, ne_eq, not_false_eq_true, and_true, eq_comm]

/-- What a gate that was just added to a timetable shows is what its cycle does. -/
theorem shows_withGate {timetable : Timetable} {gate : String}
    (new : timetable.cycles.find? gate = none) (cycle : List Phase) (t : Instant) :
    Shows cycle t ((timetable.withGate gate cycle).stateAt? gate t) := by
  have brief : ∀ phase ∈ cycle, (!phase.duration.isZero) = false → phase.millis = 0 := by
    intro phase _ zero
    have nothing : phase.duration.nanos = 0 := by simpa [Duration.isZero] using zero
    rw [Phase.millis_eq_zero_iff, nothing]
    decide
  have span : spanMillis (lasting cycle) = spanMillis cycle := spanMillis_filter brief
  rw [stateAt?, find?_withGate]
  by_cases none : lasting cycle = []
  · rw [if_neg (fun added => added.2 none), new]
    refine .nothing (spanMillis_eq_zero_iff.mp ?_)
    rw [← span, none]
    rfl
  · simp only [none, ne_eq, not_false_eq_true, and_self, if_true, bind, Option.bind]
    rw [cycleMillis_eq, span]
    split
    · rename_i idle
      have positive : 0 < mostMillis := by decide
      exact .nothing (spanMillis_eq_zero_iff.mp (by omega))
    · rename_i lasts
      rw [lasting, stateAfter?_filter brief]
      exact shows_stateAfter? t fun idle => lasts (by rw [idle, Nat.zero_min])

end Timetable

end InstancedAreas.Gate
