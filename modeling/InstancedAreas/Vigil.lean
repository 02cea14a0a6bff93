import InstancedAreas.Patrol
import InstancedAreas.Service

/-! A service that is watched over in the course of time. Time passes in
milliseconds, apart from the clock of the service, and only while somebody
waits: for a while, or for a relocator that takes its time. Meanwhile patrols
may sweep again and again. -/
namespace InstancedAreas

/-- A service in the course of time, with the patrols that are out, the one
whose last step lies farthest back in front. -/
structure Vigil where
  service : Service
  time : Nat
  patrols : List Patrol

namespace Vigil

/-- The beginning. -/
def start (service : Service) : Vigil := ⟨service, 0, []⟩

/-- Runs an operation of the service, which takes no time. -/
def onService {α : Type} (v : Vigil) (act : Service → Service × α) : Vigil × α :=
  let (service, result) := act v.service
  ({ v with service }, result)

/-- Lets a patrol hand over the notices of its sweep until one takes time, and
puts it behind the others. -/
def patrolHands (v : Vigil) (patrol : Patrol) (due : Nat) (notices : List Eviction)
    (failures : Nat) : Vigil :=
  let (relocator, delivery) :=
    Delivery.proceed v.service.patience v.time notices failures v.service.relocator
  let phase := match delivery.inHand with
    | none => Patrol.Phase.resting due
    | some _ => .handing due delivery
  { v with
    service := { v.service with relocator }
    patrols := v.patrols ++ [{ patrol with phase }] }

/-- Lets a patrol sweep that was due at a time. -/
def patrolSweeps (v : Vigil) (patrol : Patrol) (due : Nat) : Vigil :=
  let harvest := v.service.registry.reclaimDue v.service.now
  let v := { v with service := { v.service with registry := harvest.registry } }
  let next := Patrol.nextDue patrol.period due (v.time * nanosPerMilli)
  v.patrolHands patrol next harvest.notices 0

/-- Lets a patrol, taken out from among the others, take its next step. -/
def patrolSteps (v : Vigil) (patrol : Patrol) : Vigil :=
  match patrol.phase with
  | .starting =>
    if patrol.period.isZero then
      { v with patrols := v.patrols ++ [{ patrol with phase := .ended }] }
    else v.patrolSweeps patrol (v.time * nanosPerMilli)
  | .resting due => v.patrolSweeps patrol due
  | .handing due delivery =>
    let missed := match delivery.inHand with
      | some (_, false) => 1
      | _ => 0
    v.patrolHands patrol due delivery.waiting (delivery.failures + missed)
  | .ended => { v with patrols := v.patrols ++ [patrol] }

/-- Lets the patrols take their steps before a time, so many at most. -/
def patrolUntil (target : Nat) : Nat → Vigil → Vigil
  | 0, v => v
  | steps + 1, v =>
    match Patrol.first? v.time v.patrols with
    | none => v
    | some (time, patrol, patrols) =>
      if time < target then
        patrolUntil target steps ({ v with time, patrols }.patrolSteps patrol)
      else v

/-- Lets time pass until a moment. -/
def waitUntil (v : Vigil) (target : Nat) : Vigil :=
  let steps := v.patrols.foldl (fun total patrol => total + patrol.stepBound (target - v.time)) 0
  let v := patrolUntil target steps v
  { v with time := max v.time target }

/-- Lets so many milliseconds pass. -/
def sleep (v : Vigil) (millis : Nat) : Vigil := v.waitUntil (v.time + millis)

/-- Hands over notices, waiting for each as long as it takes, but not past a
limit. Yields the number of failures, or nothing when the limit cut it
short. -/
def deliver (limit : Option Nat) : List Eviction → Nat → Vigil → Vigil × Option Nat
  | [], failures, v => (v, some failures)
  | notice :: rest, failures, v =>
    let (relocator, reply) := v.service.relocator.take notice
    let settlement := reply.settle v.service.patience
    let v := { v with service := { v.service with relocator } }
    let failures := failures + if settlement.accepted then 0 else 1
    if settlement.millis = 0 then deliver limit rest failures v
    else
      let target := v.time + settlement.millis
      match limit with
      | none => deliver limit rest failures (v.waitUntil target)
      | some last =>
        if last < target then (v.waitUntil last, none)
        else deliver limit rest failures (v.waitUntil target)

/-- Sweeps, and waits until all notices are handed over. -/
def sweep (v : Vigil) : Vigil × SweepReport :=
  let harvest := v.service.registry.reclaimDue v.service.now
  let (v, failures) := deliver none harvest.notices 0
    { v with service := { v.service with registry := harvest.registry } }
  (v, harvest.report (failures.getD 0))

/-- Sweeps for so many milliseconds at most while a template is held. At the
first due teardown of that template the sweep stops and waits in vain; what it
had not gone through is then put back, and the notices it had gathered are
lost. Without such a teardown the sweep goes on to hand over its notices. -/
def sweepHeld (v : Vigil) (template : TemplateId) (millis : Nat) : Vigil × Option SweepReport :=
  let registry := v.service.registry
  let limit := v.time + millis
  match registry.dueBefore? v.service.now template with
  | some count =>
    let (harvest, left) := registry.reclaimSome v.service.now count
    let v := { v with service := { v.service with registry := harvest.registry } }
    let v := v.waitUntil limit
    ({ v with service := { v.service with registry := v.service.registry.putBack left } }, none)
  | none =>
    let harvest := registry.reclaimDue v.service.now
    let (v, failures) := deliver (some limit) harvest.notices 0
      { v with service := { v.service with registry := harvest.registry } }
    (v, failures.map harvest.report)

/-- Lets the patrols that are about to set out do so. -/
def setOut (v : Vigil) : Vigil :=
  let (leaving, others) := v.patrols.partition fun patrol =>
    match patrol.phase with
    | .starting => true
    | _ => false
  leaving.foldl patrolSteps { v with patrols := others }

/-- Sends a patrol out. Nobody can call off the earlier ones any more. -/
def startPatrol (v : Vigil) (period : Duration) : Vigil :=
  let earlier := v.patrols.map fun patrol => { patrol with recallable := false }
  { v with patrols := earlier ++ [.new period] }

/-- The patrol that can be called off. -/
def patrol? (v : Vigil) : Option Patrol := v.patrols.find? (·.recallable)

/-- Calls off the patrol that can be called off, in the middle of a sweep if
need be, and yields whether there was one. The notices that it had not handed
over are lost. While it comes back, others may set out. -/
def stopPatrol (v : Vigil) : Vigil × Bool :=
  if v.patrol?.isSome then
    ({ v with patrols := v.patrols.filter (!·.recallable) }.setOut, true)
  else (v, false)

/-- Whether the patrol that can be called off is running, if there is one. -/
def isPatrolled? (v : Vigil) : Option Bool := v.patrol?.map (·.isRunning)

end Vigil

end InstancedAreas
