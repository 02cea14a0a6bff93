import InstancedAreas.Proofs.Feed.History
import InstancedAreas.Proofs.Sweep.Cut

/-! What a sweep announces. The instances that it ends take their leave in the
order in which it ends them, each with its evictions before its release, and
nothing else is announced. -/
namespace InstancedAreas

variable {now : Instant}

namespace Harvest

variable {start : Registry} {done : List Teardown} {ended : List Instance}
  {deferred : List Teardown} {h : Harvest}

/-- A sweep has announced the end of what it has ended, and nothing else. -/
def Announces (now : Instant) (start : Registry) (ended : List Instance) (h : Harvest) : Prop :=
  h.registry.history = start.history ++ ended.flatMap (·.farewell now)

/-- One more teardown ends and announces an instance, or announces nothing. -/
theorem Tracks.step_announces (keyed : start.Keyed) (tracks : Tracks now start done ended deferred h)
    (announces : h.Announces now start ended) (t : Teardown) :
    ∃ ended deferred, Tracks now start (done ++ [t]) ended deferred (h.step now t) ∧
      (h.step now t).Announces now start ended := by
  cases concerned : h.registry.incarnation? t with
  | none =>
    refine ⟨_, _, tracks.of_stale concerned, ?_⟩
    rw [step_stale concerned]
    exact announces
  | some i =>
    by_cases ahead : now < i.expiresAt
    · refine ⟨_, _, tracks.of_deferred concerned ahead, ?_⟩
      rw [step_deferred tracks.keyed concerned ahead]
      exact announces
    · have reached : i.expiresAt ≤ now := Int.not_lt.mp ahead
      obtain ⟨pool, -, -, same⟩ := Registry.reclaim_expired tracks.keyed concerned reached
      refine ⟨_, _, tracks.of_expired keyed concerned reached, ?_⟩
      rw [Announces, registry_step, same, Registry.history_expired, announces,
        List.flatMap_append, List.flatMap_singleton, List.append_assoc]

theorem Tracks.foldl_announces (keyed : start.Keyed)
    (tracks : Tracks now start done ended deferred h) (announces : h.Announces now start ended)
    (due : List Teardown) :
    ∃ ended deferred, Tracks now start (done ++ due) ended deferred (due.foldl (Harvest.step now) h) ∧
      (due.foldl (Harvest.step now) h).Announces now start ended := by
  induction due generalizing done ended deferred h with
  | nil => exact ⟨ended, deferred, by simpa using tracks, announces⟩
  | cons t rest ih =>
    obtain ⟨_, _, next, announced⟩ := tracks.step_announces keyed announces t
    simpa using ih next announced

end Harvest

namespace Registry

variable {r : Registry}

/-- What a sweep leaves, wherever it is cut short: it ends some of the live
instances whose deadline has passed, and announces that. -/
theorem Keyed.reclaimUntil_announces (keyed : r.Keyed) (now : Instant) (point : SweepPoint) :
    ∃ ended : List Instance, ended.Nodup ∧
      (∀ i ∈ ended, r.instance? i.template i.key = some i ∧ i.expiresAt ≤ now) ∧
      (∀ template key i, (r.reclaimUntil now point).registry.instance? template key = some i ↔
        r.instance? template key = some i ∧ i ∉ ended) ∧
      (r.reclaimUntil now point).registry.history =
        r.history ++ ended.flatMap (·.farewell now) := by
  have keyedRest : (r.takeDue now).2.Keyed := keyed
  have begin : (Harvest.start (r.takeDue now).2).Announces now (r.takeDue now).2 [] :=
    (List.append_nil _).symm
  obtain ⟨ended, deferred, tracks, announces⟩ := Harvest.Tracks.foldl_announces keyedRest
    (.begin keyedRest) begin (point.done (r.takeDue now).1)
  rw [reclaimUntil_eq]
  exact ⟨ended, tracks.once,
    fun i member => ⟨tracks.lived keyedRest member, tracks.reached i member⟩,
    tracks.live, announces⟩

end Registry

end InstancedAreas
