import InstancedAreas.Proofs.Sweep.Coverage

/-! No instance outlives its deadline unnoticed. Whatever is live is scheduled
for teardown at its deadline. Where ids are fresh and nothing is scheduled by
itself it is scheduled once, no other teardown bears its id, and a sweep never
comes to an instance before its deadline. -/
namespace InstancedAreas

namespace Registry

variable {r : Registry} {now : Instant}

/-- What becomes of the due teardown that so many others precede, when a sweep
comes to it. -/
def reclaiming? (r : Registry) (now : Instant) (count : Nat) : Option Reclaimed :=
  (r.takeDue now).1[count]?.map fun t => ((r.reclaimSome now count).1.registry.reclaim now t).2

theorem Covered.never_deferred (covered : r.Covered) {ids : List InstanceId}
    (distinct : r.Distinct ids) (keyed : r.Keyed) (now : Instant) (count : Nat) :
    r.reclaiming? now count ≠ some .deferred := by
  intro anew
  obtain ⟨t, here, outcome⟩ := Option.map_eq_some_iff.mp anew
  obtain ⟨pending, passed⟩ := mem_takeDue.mp (List.mem_of_getElem? here)
  have keyedRest : (r.takeDue now).2.Keyed := keyed
  obtain ⟨ended, deferred, tracks⟩ := keyedRest.tracks now ((r.takeDue now).1.take count)
  cases concerned : (r.reclaimSome now count).1.registry.incarnation? t with
  | none =>
    cases outcome.symm.trans (congrArg Prod.snd (reclaim_stale concerned))
  | some i =>
    -- The instance has been there since before the sweep, so the teardown is its own.
    have own : t = .of i := covered.own_teardown distinct pending
      (tracks.incarnation?_eq_some_iff.mp concerned).1
    have reached : i.expiresAt ≤ now := by
      rw [own] at passed
      exact passed
    obtain ⟨_, _, _, same⟩ := reclaim_expired tracks.keyed concerned reached
    cases outcome.symm.trans (congrArg Prod.snd same)

end Registry

/-- After every run, sweeps that are cut short included, every live instance is
scheduled for teardown at its deadline. If ids are fresh and no teardown was
scheduled but for an instance, it is scheduled just once, no two teardowns that
are pending have the same id, and no sweep schedules one anew. -/
theorem Run.every_instance_is_scheduled_for_its_deadline (run : Run) (templates : List Template)
    (buffer : Nat) :
    let reached := run.result templates buffer
    (∀ template key i, reached.instance? template key = some i →
      ⟨i.expiresAt, i.template, i.key, i.id⟩ ∈ reached.queue.pending) ∧
    (run.Fresh → run.Unscheduled →
      (∀ template key i, reached.instance? template key = some i →
        reached.queue.pending.count ⟨i.expiresAt, i.template, i.key, i.id⟩ = 1) ∧
      (reached.queue.pending.map Teardown.instanceId).Nodup ∧
      ∀ now count, reached.reclaiming? now count ≠ some .deferred) := by
  intro reached
  have keyed : reached.Keyed := run.keyed templates buffer
  have covered : reached.Covered := run.covered templates buffer
  refine ⟨covered, fun fresh unscheduled => ?_⟩
  have distinct : reached.Distinct [] := Run.distinct fresh unscheduled templates buffer
  have ids : (reached.queue.pending.map Teardown.instanceId).Nodup :=
    (List.nodup_append.mp distinct).1
  refine ⟨fun template key i live => ?_, ids, covered.never_deferred distinct keyed⟩
  exact List.count_eq_one_of_mem ids.of_map (covered template key i live)

/-- A slot that was left and is used again, with a sweep cut short at the
deadline. Two teardowns are pending for the slot, one of them for who is there
now. -/
theorem Run.reused_slot_is_scheduled_once :
    let template := (Template.pooled "a" 100 "entry" 2 (.ofSeconds 3600)).withRelease .whenEmpty
    let late := (Instant.epoch.after? (.ofSeconds 3600)).getD .epoch
    let run : Run := [(.epoch, .enter (.ofNat 1) (.new 1 900 "a")),
      (.epoch, .leave ⟨"a", .slot 0, .ofNat 1⟩ 1), (.epoch, .enter (.ofNat 2) (.new 1 900 "a")),
      (late, .cutSweep (.reclaiming 0))]
    let reached := run.result [template] 16
    run.Fresh ∧ run.Unscheduled ∧ reached.queue.size = 2 ∧
      ∃ i, reached.instance? "a" (.slot 0) = some i ∧ i.id = .ofNat 2 ∧
        reached.queue.pending.count ⟨i.expiresAt, i.template, i.key, i.id⟩ = 1 ∧
        ∀ now count, reached.reclaiming? now count ≠ some .deferred := by
  intro template late run reached
  have fresh : run.Fresh := by decide
  have unscheduled : run.Unscheduled := by decide
  obtain ⟨once, -, never⟩ :=
    (every_instance_is_scheduled_for_its_deadline run [template] 16).2 fresh unscheduled
  have present : (reached.instance? "a" (.slot 0)).any (·.id = .ofNat 2) = true := by decide
  obtain ⟨i, live, second⟩ := (Option.any_eq_true _ _).mp present
  exact ⟨fresh, unscheduled, by decide, i, live, of_decide_eq_true second, once _ _ i live, never⟩

end InstancedAreas
