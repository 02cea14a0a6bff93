import InstancedAreas.Duration
import InstancedAreas.Eviction

/-! Relocators take eviction notices and see to the return of the players. One
may take its time or never answer, so whoever hands a notice over waits no
longer than a given span and then counts it as failed. -/
namespace InstancedAreas

/-- The answer to a notice. -/
inductive Reply where
  /-- The notice is taken after so many milliseconds. -/
  | accepted (millis : Nat)
  /-- The notice is refused at once. -/
  | refused (error : EvictionError)
  /-- There is no answer, ever. -/
  | silent
deriving DecidableEq, Repr

/-- How the handing over of a notice ends: with or without success, and after
how many milliseconds. -/
structure Settlement where
  accepted : Bool
  millis : Nat
deriving DecidableEq, Repr

/-- The end of a wait for a reply. Waits are cut at whole milliseconds, and a
notice that is taken in the last one is taken in time. -/
def Reply.settle (patience : Duration) : Reply → Settlement
  | accepted millis =>
    if millis ≤ patience.ceilMillis then ⟨true, millis⟩ else ⟨false, patience.ceilMillis⟩
  | refused _ => ⟨false, 0⟩
  | silent => ⟨false, patience.ceilMillis⟩

/-- Who takes the eviction notices. -/
inductive Relocator where
  /-- Nobody: notices are taken and forgotten. -/
  | none
  /-- A channel that somebody else empties. -/
  | channel (channel : Eviction.Channel)
  /-- A layer that answers each notice by a rule and remembers it, the latest
  first. -/
  | layer (reply : Eviction → Reply) (seen : List Eviction)

namespace Relocator

/-- Hands a notice over. -/
def take (relocator : Relocator) (notice : Eviction) : Relocator × Reply :=
  match relocator with
  | .none => (.none, .accepted 0)
  | .channel before =>
    match before.offer notice with
    | .ok after => (.channel after, .accepted 0)
    | .error error => (.channel before, .refused error)
  | .layer reply seen => (.layer reply (notice :: seen), reply notice)

/-- Hands notices over one after the other, and counts those that fail. -/
def takeAll (patience : Duration) : Relocator → List Eviction → Relocator × Nat
  | relocator, [] => (relocator, 0)
  | relocator, notice :: rest =>
    let (relocator, reply) := relocator.take notice
    let (relocator, failures) := takeAll patience relocator rest
    (relocator, (if (reply.settle patience).accepted then 0 else 1) + failures)

end Relocator

end InstancedAreas
