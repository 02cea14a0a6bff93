import InstancedAreas.Eviction.Relocator
import InstancedAreas.Registry

/-! Sweeps reclaim every instance whose deadline has passed. What is due leaves
the queue at once and is gone through in order; the notices are handed over
when all of it has been reclaimed. A sweep that is cut short puts back on the
queue what it has not gone through. -/
namespace InstancedAreas

/-- The outcome of a sweep. -/
structure SweepReport where
  released : List (TemplateId × InstanceKey)
  evicted : Nat
  stale : Nat
  notifyFailures : Nat
deriving DecidableEq, Repr

/-- Whether a sweep found nothing to do. -/
def SweepReport.isEmpty (report : SweepReport) : Bool :=
  report.released.isEmpty && report.stale == 0 && report.notifyFailures == 0

/-- What became of a due teardown. -/
inductive Reclaimed where
  /-- The instance was ended, with these notices to hand over. -/
  | expired (notices : List Eviction)
  /-- The instance lives longer than the teardown said. -/
  | deferred
  /-- The incarnation had already gone. -/
  | stale

/-- Goes through a due teardown. It concerns the incarnation that it was
scheduled for and no later one under the same key. An incarnation whose
deadline lies ahead is scheduled anew for that deadline. -/
def Registry.reclaim (r : Registry) (now : Instant) (due : Teardown) : Registry × Reclaimed :=
  match r.instance? due.template due.key with
  | none => (r, .stale)
  | some i =>
    if i.id ≠ due.instanceId then (r, .stale)
    else if now < i.expiresAt then (r.schedule { due with deadline := i.expiresAt }, .deferred)
    else
      match r.expire now due.template due.key with
      | (after, .ok notices) => (after, .expired notices)
      | (after, .error _) => (after, .stale)

/-- How far a sweep has come: the registry, the keys released so far, the
number of stale teardowns and the notices to hand over, in order. -/
structure Harvest where
  registry : Registry
  released : List (TemplateId × InstanceKey)
  stale : Nat
  notices : List Eviction

namespace Harvest

/-- A sweep that has gone through nothing yet. -/
def start (r : Registry) : Harvest := ⟨r, [], 0, []⟩

/-- Goes through one more due teardown. -/
def step (now : Instant) (harvest : Harvest) (due : Teardown) : Harvest :=
  match harvest.registry.reclaim now due with
  | (r, .expired notices) =>
    { harvest with
      registry := r
      released := harvest.released ++ [(due.template, due.key)]
      notices := harvest.notices ++ notices }
  | (r, .deferred) => { harvest with registry := r }
  | (r, .stale) => { harvest with registry := r, stale := harvest.stale + 1 }

/-- The report of a sweep so many of whose notices failed. -/
def report (harvest : Harvest) (failures : Nat) : SweepReport :=
  ⟨harvest.released, harvest.notices.length, harvest.stale, failures⟩

end Harvest

namespace Registry

/-- What is due, in order, and the registry with it taken off the queue. -/
def takeDue (r : Registry) (now : Instant) : List Teardown × Registry :=
  ((r.queue.popDue now).1, { r with queue := (r.queue.popDue now).2 })

/-- Reclaims all that is due. -/
def reclaimDue (r : Registry) (now : Instant) : Harvest :=
  (r.takeDue now).1.foldl (Harvest.step now) (.start (r.takeDue now).2)

/-- Reclaims the first so many of what is due. The others are still to come. -/
def reclaimSome (r : Registry) (now : Instant) (count : Nat) : Harvest × List Teardown :=
  ((((r.takeDue now).1.take count).foldl (Harvest.step now) (.start (r.takeDue now).2)),
    (r.takeDue now).1.drop count)

/-- Puts teardowns back on the queue. -/
def putBack (r : Registry) (teardowns : List Teardown) : Registry :=
  { r with queue := r.queue.scheduleAll teardowns }

/-- Reclaims the first so many of what is due and puts the others back on the
queue, as a sweep does that is cut short. -/
def reclaimFirst (r : Registry) (now : Instant) (count : Nat) : Harvest :=
  let (harvest, left) := r.reclaimSome now count
  { harvest with registry := harvest.registry.putBack left }

/-- How many due teardowns stand before the first that concerns a template, if
one does. A sweep waits there while that template is held. -/
def dueBefore? (r : Registry) (now : Instant) (template : TemplateId) : Option Nat :=
  (r.takeDue now).1.findIdx? (·.template = template)

/-- Reclaims all that is due and hands over the notices. -/
def sweep (r : Registry) (now : Instant) (relocator : Relocator) (patience : Duration) :
    Registry × Relocator × SweepReport :=
  let harvest := r.reclaimDue now
  let (relocator, failures) := relocator.takeAll patience harvest.notices
  (harvest.registry, relocator, harvest.report failures)

end Registry

end InstancedAreas
