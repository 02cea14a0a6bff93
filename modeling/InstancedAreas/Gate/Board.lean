import InstancedAreas.Gate.Timetable

/-! Where the state of a gate is looked up: on a board that the game world
writes to, or in a timetable. -/
namespace InstancedAreas.Gate

/-- The states that the game world has written up. -/
structure Board where
  states : Table String String

namespace Board

/-- The board with nothing on it. -/
def empty : Board := ⟨.empty⟩

instance : Inhabited Board := ⟨empty⟩

/-- Writes up the state of a gate. -/
def set (board : Board) (gate state : String) : Board := ⟨board.states.insert gate state⟩

/-- The state of a gate. -/
def get? (board : Board) (gate : String) : Option String := board.states.find? gate

/-- Wipes out the state of a gate. -/
def clear (board : Board) (gate : String) : Board := ⟨board.states.erase gate⟩

end Board

/-- Where gate states come from. -/
inductive Source where
  | board (board : Board)
  | timetable (timetable : Timetable)

/-- The state of a gate at a time, if it has one. -/
def Source.state? (source : Source) (now : Instant) (gate : String) : Option String :=
  match source with
  | board written => written.get? gate
  | timetable cycles => cycles.stateAt? gate now

end InstancedAreas.Gate
