import InstancedAreas.Instant
import InstancedAreas.Table

/-! Gates that cycle through phases, aligned to the start of 1970 so that the
phase at a time does not hang on when anybody began to look. -/
namespace InstancedAreas.Gate

/-- A state that lasts for a while. -/
structure Phase where
  state : String
  duration : Duration
deriving DecidableEq

/-- The greatest number of milliseconds of a phase or of a whole cycle. -/
def mostMillis : Nat := 9223372036854775807

/-- The whole milliseconds of a phase. -/
def Phase.millis (phase : Phase) : Nat := min phase.duration.wholeMillis mostMillis

/-- The milliseconds of a cycle. -/
def cycleMillis (phases : List Phase) : Nat :=
  phases.foldl (fun total phase => min (total + phase.millis) mostMillis) 0

/-- The state so many milliseconds after the start of a cycle. -/
def stateAfter? : Nat → List Phase → Option String
  | _, [] => none
  | offset, phase :: rest =>
    if offset < phase.millis then some phase.state else stateAfter? (offset - phase.millis) rest

/-- The cycles of gates by name. -/
structure Timetable where
  cycles : Table String (List Phase)

namespace Timetable

/-- The timetable without gates. -/
def empty : Timetable := ⟨.empty⟩

instance : Inhabited Timetable := ⟨empty⟩

/-- The timetable with a gate. Phases that last no time are left out, and a
gate without any other phase is not added. -/
def withGate (timetable : Timetable) (gate : String) (phases : List Phase) : Timetable :=
  let lasting := phases.filter fun phase => !phase.duration.isZero
  if lasting.isEmpty then timetable else ⟨timetable.cycles.insert gate lasting⟩

/-- The names of the gates in ascending order. -/
def gates (timetable : Timetable) : List String := timetable.cycles.keys

/-- The state of a gate at a time. A cycle shorter than a millisecond has
none. -/
def stateAt? (timetable : Timetable) (gate : String) (moment : Instant) : Option String := do
  let phases ← timetable.cycles.find? gate
  let length := cycleMillis phases
  if length = 0 then none else stateAfter? (moment.millis % length).toNat phases

end Timetable

end InstancedAreas.Gate
