import InstancedAreas.Proofs.Sweep.Coverage
import Mathlib.Algebra.Order.Ring.Nat

/-! What a complete sweep does. It ends the live instances whose deadline has
passed, all of them and no others, and accounts for each of them and for every
teardown that came too late. Nothing is due afterwards, so another sweep at the
same time finds nothing to do. -/
namespace InstancedAreas

variable {now : Instant}

/-- What the due teardown that so many others precede finds when a sweep comes
to it. -/
def Registry.finding? (r : Registry) (now : Instant) (count : Nat) : Option Instance :=
  (r.takeDue now).1[count]?.bind (r.reclaimSome now count).1.registry.incarnation?

namespace Harvest

variable {h : Harvest}

theorem stale_step (keyed : h.registry.Keyed) (t : Teardown) :
    (h.step now t).stale =
      h.stale + if (h.registry.incarnation? t).isNone then 1 else 0 := by
  cases concerned : h.registry.incarnation? t with
  | none =>
    rw [step_stale concerned]
    rfl
  | some i =>
    by_cases ahead : now < i.expiresAt
    · rw [step_deferred keyed concerned ahead]
      rfl
    · obtain ⟨_, _, _, same⟩ := Registry.reclaim_expired keyed concerned (Int.not_lt.mp ahead)
      simp [step, same]

/-- As many teardowns are stale as find nothing when the sweep comes to them. -/
theorem stale_foldl_step (keyed : h.registry.Keyed) (due : List Teardown) :
    (due.foldl (step now) h).stale = h.stale + (List.range due.length).countP fun n =>
      (due[n]?.bind ((due.take n).foldl (step now) h).registry.incarnation?).isNone := by
  induction due generalizing h with
  | nil => rfl
  | cons t rest ih =>
    have next : (h.step now t).registry.Keyed := foldl_step_keyed [t] keyed
    rw [List.foldl_cons, ih next, stale_step keyed, List.length_cons, List.range_succ_eq_map,
      List.countP_cons, List.countP_map, Nat.add_assoc, Nat.add_comm (ite ..)]
    rfl

end Harvest

namespace Registry

variable {r : Registry} {ended : List Instance} {deferred : List Teardown} {h : Harvest}

/-- Where all are scheduled, a sweep ends exactly the live instances whose
deadline has passed. -/
theorem Covered.mem_ended_iff (covered : r.Covered) (keyed : r.Keyed)
    (tracks : Harvest.Tracks now (r.takeDue now).2 (r.takeDue now).1 ended deferred h)
    {i : Instance} :
    i ∈ ended ↔ r.instance? i.template i.key = some i ∧ i.expiresAt ≤ now := by
  constructor
  · exact fun member => ⟨tracks.lived keyed member, tracks.reached i member⟩
  · rintro ⟨found, reached⟩
    exact tracks.mem_ended_iff.mpr ⟨reached, .of i, mem_takeDue.mpr ⟨covered _ _ i found, reached⟩,
      keyed.incarnation?_of found⟩

/-- Where pending teardowns have distinct ids, a sweep ends instances in the
order of their teardowns. -/
theorem Covered.ended_ascending (covered : r.Covered) {ids : List InstanceId}
    (distinct : r.Distinct ids)
    (tracks : Harvest.Tracks now (r.takeDue now).2 (r.takeDue now).1 ended deferred h) :
    (ended.map Teardown.of).Pairwise (fun a b => compare a b = .lt) := by
  obtain ⟨causes, part, same⟩ := tracks.causes
  have own : ∀ t ∈ causes, (r.incarnation? t).map Teardown.of = some t := by
    intro t cause
    have found : r.incarnation? t ∈ ended.map some := same ▸ List.mem_map_of_mem cause
    obtain ⟨i, -, concerned⟩ := List.mem_map.mp found
    rw [← concerned, covered.own_teardown distinct (mem_takeDue.mp (part.subset cause)).1
      concerned.symm]
    rfl
  -- Each cause is the own teardown of what it ended, so the causes, which are in
  -- the order of the queue, are the teardowns of the ended instances.
  have all : causes = ended.map Teardown.of := by
    apply List.map_injective_iff.mpr fun _ _ => Option.some.inj
    calc causes.map some
        = causes.map fun t => (r.incarnation? t).map Teardown.of :=
          (List.map_congr_left own).symm
      _ = (causes.map r.incarnation?).map (Option.map Teardown.of) := by
          rw [List.map_map]
          rfl
      _ = (ended.map some).map (Option.map Teardown.of) := congrArg _ same
      _ = (ended.map Teardown.of).map some := by simp
  have once : (r.takeDue now).1.Nodup := by
    have ids : (r.queue.pending.map Teardown.instanceId).Nodup := (List.nodup_append.mp distinct).1
    exact ids.of_map.sublist (List.takeWhile_sublist _)
  rw [← all]
  refine (((takeDue_ascending r now).and once).sublist part).imp fun {a b} ⟨order, differs⟩ => ?_
  cases comparison : compare a b with
  | lt => rfl
  | eq => exact absurd (Std.LawfulEqCmp.eq_of_compare comparison) differs
  | gt => exact absurd comparison order

end Registry

namespace Run

/-- A complete sweep after any run, whoever takes the notices: every live
instance whose deadline has passed is gone and reported once, with the number
of all their occupants, and everything else is as it was. The stale teardowns
are those that found nothing. Nothing is due any more, and a further sweep
changes nothing and reports nothing. If ids are fresh and no teardown was
scheduled but for an instance, the instances were ended in the order of their
teardowns. -/
theorem sweep_ends_exactly_what_expired (run : Run) (templates : List Template) (buffer : Nat)
    (now : Instant) (relocator : Relocator) (patience : Duration) :
    let before := run.result templates buffer
    let after := (before.sweep now relocator patience).1
    let report := (before.sweep now relocator patience).2.2
    (∀ template key, after.instance? template key =
      (before.instance? template key).filter fun i => now < i.expiresAt) ∧
    (∀ id, after.template? id = before.template? id) ∧
    (∃ ended : List Instance,
      (∀ i, i ∈ ended ↔ before.instance? i.template i.key = some i ∧ i.expiresAt ≤ now) ∧
      report.released = ended.map (fun i => (i.template, i.key)) ∧ report.released.Nodup ∧
      report.evicted = (ended.map fun i => i.occupants.size).sum ∧
      (run.Fresh → run.Unscheduled →
        (ended.map Teardown.of).Pairwise fun a b => compare a b = .lt)) ∧
    report.stale = (List.range (before.takeDue now).1.length).countP
      (fun n => (before.finding? now n).isNone) ∧
    (∀ t ∈ after.queue.pending, now < t.deadline) ∧
    (∀ other patience, (after.sweep now other patience).1 = after ∧
      (after.sweep now other patience).2.1 = other ∧
      (after.sweep now other patience).2.2.isEmpty = true) := by
  intro before after report
  have keyed : before.Keyed := run.keyed templates buffer
  have covered : before.Covered := run.covered templates buffer
  obtain ⟨ended, deferred, tracks⟩ := keyed.reclaimDue_tracks now
  have exact (i : Instance) := covered.mem_ended_iff keyed tracks (i := i)
  have ahead : ∀ t ∈ after.queue.pending, now < t.deadline :=
    tracks.ahead fun t member => (Registry.mem_takeDue_rest.mp member).2
  refine ⟨fun template key => ?_, tracks.templates, ⟨ended, exact, tracks.released, ?_, ?_, ?_⟩,
    ?_, ahead, fun other patience => ?_⟩
  · apply Option.ext
    intro i
    have stays (found : before.instance? template key = some i) :
        i ∉ ended ↔ now < i.expiresAt := by
      obtain ⟨rfl, rfl⟩ := keyed.own_place found
      rw [exact i, and_iff_right found]
      exact Int.not_le
    rw [Option.filter_eq_some_iff, decide_eq_true_eq]
    exact (tracks.live template key i).trans (and_congr_right stays)
  · exact tracks.released_nodup keyed
  · have evicted : report.evicted = (ended.flatMap Eviction.all).length :=
      congrArg List.length tracks.notices
    rw [evicted, List.length_flatMap]
    simp [Eviction.all, Occupants.size]
  · exact fun fresh unscheduled =>
      covered.ended_ascending (distinct fresh unscheduled templates buffer) tracks
  · have keyedRest : (before.takeDue now).2.Keyed := keyed
    exact (Harvest.stale_foldl_step keyedRest _).trans (Nat.zero_add _)
  · have nothing := Registry.takeDue_of_ahead ahead
    simp [Registry.sweep, Registry.reclaimDue, nothing, Harvest.start, Relocator.takeAll,
      Harvest.report, SweepReport.isEmpty]

end Run

end InstancedAreas
