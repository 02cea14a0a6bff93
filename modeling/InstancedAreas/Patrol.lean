import InstancedAreas.Eviction.Relocator

/-! Patrols sweep once in every period. Time is counted in milliseconds, and
the times at which sweeps are due in nanoseconds. Handing notices over goes on
at the points where a reply arrives or the patience ends. -/
namespace InstancedAreas

/-- Notices that are being handed over: those still to come, when the wait for
the one in hand ends and whether it is taken then, and how many have failed. -/
structure Delivery where
  waiting : List Eviction
  inHand : Option (Nat × Bool)
  failures : Nat

/-- Hands notices over until one takes time. -/
def Delivery.proceed (patience : Duration) (time : Nat) :
    List Eviction → Nat → Relocator → Relocator × Delivery
  | [], failures, relocator => (relocator, ⟨[], none, failures⟩)
  | notice :: rest, failures, relocator =>
    let (relocator, reply) := relocator.take notice
    let settlement := reply.settle patience
    if settlement.millis = 0 then
      proceed patience time rest (failures + if settlement.accepted then 0 else 1) relocator
    else (relocator, ⟨rest, some (time + settlement.millis, settlement.accepted), failures⟩)

/-- What a patrol is doing. -/
inductive Patrol.Phase where
  /-- It sets out as soon as somebody waits. -/
  | starting
  /-- It sweeps at a time. -/
  | resting (due : Nat)
  /-- It hands over the notices of a sweep, and sweeps again after a time. -/
  | handing (due : Nat) (delivery : Delivery)
  /-- It has given up at the start, having no period to keep. -/
  | ended

/-- A patrol. Only the one that was sent out last can be called off. -/
structure Patrol where
  period : Duration
  phase : Patrol.Phase
  recallable : Bool

namespace Patrol

/-- A patrol that is about to set out. -/
def new (period : Duration) : Patrol := ⟨period, .starting, true⟩

/-- The first millisecond that is not before a time. -/
def ceilMillis (nanos : Nat) : Nat := (nanos + (nanosPerMilli - 1)) / nanosPerMilli

/-- The delay up to which a sweep counts as being in time, five milliseconds. -/
def leeway : Nat := 5 * nanosPerMilli

/-- When the sweep after one that was due at a time and began at another is
due: a period after the former, or after the latter when it began late. -/
def nextDue (period : Duration) (due began : Nat) : Nat :=
  (if due + leeway < began then began else due) + period.nanos

/-- When the next step of a patrol comes, if there is one. -/
def nextTime? (now : Nat) (patrol : Patrol) : Option Nat :=
  match patrol.phase with
  | .starting => some now
  | .resting due => some (max now (ceilMillis due))
  | .handing _ delivery => delivery.inHand.map fun (time, _) => max now time
  | .ended => none

/-- The next step among patrols: when it comes, whose it is, and the others. Of
steps at one time the foremost comes first. -/
def first? (now : Nat) : List Patrol → Option (Nat × Patrol × List Patrol)
  | [] => none
  | patrol :: rest =>
    match patrol.nextTime? now, first? now rest with
    | none, none => none
    | some time, none => some (time, patrol, rest)
    | none, some (time, next, others) => some (time, next, patrol :: others)
    | some time, some (later, next, others) =>
      if time ≤ later then some (time, patrol, rest) else some (later, next, patrol :: others)

/-- Whether a patrol has not given up. -/
def isRunning (patrol : Patrol) : Bool :=
  match patrol.phase with
  | .ended => false
  | _ => true

/-- More steps than a patrol takes in so many milliseconds: in each it ends one
wait at most, and sweeps no oftener than its period allows, apart from catching
up on what it missed within the leeway. -/
def stepBound (patrol : Patrol) (millis : Nat) : Nat :=
  (millis + leeway / nanosPerMilli + 1) * (nanosPerMilli / max patrol.period.nanos 1 + 3) + 4

end Patrol

end InstancedAreas
