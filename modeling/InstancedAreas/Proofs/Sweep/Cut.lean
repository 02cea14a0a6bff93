import InstancedAreas.Proofs.Sweep.Progress

/-! Sweeps that are cut short. A sweep waits in two kinds of places: for the
template of the next due teardown, and for the answer to a notice. A sweep that
is dropped at the former puts back what it has not gone through; at the latter
nothing is left to be gone through. The notices it had not handed over are gone
in both cases. -/
namespace InstancedAreas

/-- Where a sweep is when it is cut short. -/
inductive SweepPoint where
  /-- It waits for the template of the due teardown that so many others precede. -/
  | reclaiming (count : Nat)
  /-- It waits for the answer to the notice that so many others precede. -/
  | notifying (count : Nat)
deriving DecidableEq, Repr

namespace SweepPoint

/-- What a sweep has gone through, of what is due. -/
def done (point : SweepPoint) (due : List Teardown) : List Teardown :=
  match point with
  | reclaiming count => due.take count
  | notifying _ => due

/-- What a sweep has still to go through, of what is due. -/
def left (point : SweepPoint) (due : List Teardown) : List Teardown :=
  match point with
  | reclaiming count => due.drop count
  | notifying _ => []

/-- The notices that a sweep has handed over, the last of which it waits for,
of those it has gathered. -/
def handed (point : SweepPoint) (notices : List Eviction) : List Eviction :=
  match point with
  | reclaiming _ => []
  | notifying count => notices.take (count + 1)

/-- The notices that a sweep has not handed over, of those it has gathered. -/
def lost (point : SweepPoint) (notices : List Eviction) : List Eviction :=
  match point with
  | reclaiming _ => notices
  | notifying count => notices.drop (count + 1)

theorem done_append_left (point : SweepPoint) (due : List Teardown) :
    point.done due ++ point.left due = due := by
  cases point with
  | reclaiming count => exact List.take_append_drop count due
  | notifying _ => exact List.append_nil due

theorem handed_append_lost (point : SweepPoint) (notices : List Eviction) :
    point.handed notices ++ point.lost notices = notices := by
  cases point with
  | reclaiming _ => rfl
  | notifying count => exact List.take_append_drop (count + 1) notices

end SweepPoint

namespace Registry

/-- How far a sweep comes that is cut short, with what it had still to go
through put back on the queue. -/
def reclaimUntil (r : Registry) (now : Instant) : SweepPoint → Harvest
  | .reclaiming count => r.reclaimFirst now count
  | .notifying _ => r.reclaimDue now

/-- A sweep that is cut short: the registry and the relocator it leaves. -/
def cutSweep (r : Registry) (now : Instant) (relocator : Relocator) (patience : Duration)
    (point : SweepPoint) : Registry × Relocator :=
  let harvest := r.reclaimUntil now point
  (harvest.registry, (relocator.takeAll patience (point.handed harvest.notices)).1)

/-- A sweep that is cut short has gone through what it did of what is due, and
puts the rest back. -/
theorem reclaimUntil_eq (r : Registry) (now : Instant) (point : SweepPoint) :
    r.reclaimUntil now point =
      let gone := (point.done (r.takeDue now).1).foldl (Harvest.step now) (.start (r.takeDue now).2)
      { gone with registry := gone.registry.putBack (point.left (r.takeDue now).1) } := by
  cases point with
  | reclaiming count => rfl
  | notifying _ => rfl

/-- What a sweep has done that is cut short, before it puts the rest back. -/
theorem Keyed.cut_tracks {r : Registry} (keyed : r.Keyed) (now : Instant) (point : SweepPoint) :
    ∃ ended deferred gone, Harvest.Tracks now (r.takeDue now).2 (point.done (r.takeDue now).1)
        ended deferred gone ∧
      r.reclaimUntil now point =
        { gone with registry := gone.registry.putBack (point.left (r.takeDue now).1) } := by
  have keyed : (r.takeDue now).2.Keyed := keyed
  obtain ⟨ended, deferred, tracks⟩ := keyed.tracks now (point.done (r.takeDue now).1)
  exact ⟨ended, deferred, _, tracks, r.reclaimUntil_eq now point⟩

end Registry

end InstancedAreas
