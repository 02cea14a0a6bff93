import InstancedAreas.Proofs.Sweep.Coverage

/-! A sweep that is cut short loses no work on instances. What it has not gone
through is due again, and a complete sweep at the same time takes up where it
stopped: the two together do what one sweep would have done. -/
namespace InstancedAreas

variable {now : Instant}

namespace Harvest

/-- What two parts of a sweep have done together, the second from where the
first stopped. -/
def together (first second : Harvest) : Harvest where
  registry := second.registry
  released := first.released ++ second.released
  stale := first.stale + second.stale
  notices := first.notices ++ second.notices

theorem together_assoc (first second third : Harvest) :
    (first.together second).together third = first.together (second.together third) := by
  simp only [together, List.append_assoc, Nat.add_assoc]

theorem step_eq_together (h : Harvest) (t : Teardown) :
    h.step now t = h.together ((start h.registry).step now t) := by
  simp only [step, start, together]
  split <;> simp

/-- What a sweep does next depends on the registry alone. -/
theorem foldl_step_eq_together (h : Harvest) (due : List Teardown) :
    due.foldl (step now) h = h.together (due.foldl (step now) (start h.registry)) := by
  induction due generalizing h with
  | nil => simp [together, start]
  | cons t rest ih =>
    have same : (h.step now t).registry = ((start h.registry).step now t).registry := by
      rw [step_eq_together]
      rfl
    calc (t :: rest).foldl (step now) h
        = (h.step now t).together (rest.foldl (step now) (start (h.step now t).registry)) := ih _
      _ = (h.together ((start h.registry).step now t)).together
            (rest.foldl (step now) (start ((start h.registry).step now t).registry)) := by
          rw [same, ← step_eq_together]
      _ = h.together ((t :: rest).foldl (step now) (start h.registry)) := by
          rw [together_assoc, ← ih, List.foldl_cons]

end Harvest

namespace Registry

variable {r : Registry}

theorem left_sublist (r : Registry) (now : Instant) (point : SweepPoint) :
    (point.left (r.takeDue now).1).Sublist (r.takeDue now).1 := by
  conv => rhs; rw [← point.done_append_left (r.takeDue now).1]
  exact List.sublist_append_right ..

/-- What is due after a sweep was cut short is what it had not gone through. -/
theorem Keyed.takeDue_reclaimUntil (keyed : r.Keyed) (now : Instant) (point : SweepPoint) :
    (r.reclaimUntil now point).registry.takeDue now =
      (point.left (r.takeDue now).1,
        ((point.done (r.takeDue now).1).foldl (Harvest.step now)
          (.start (r.takeDue now).2)).registry) := by
  have keyedRest : (r.takeDue now).2.Keyed := keyed
  obtain ⟨ended, deferred, tracks⟩ := keyedRest.tracks now (point.done (r.takeDue now).1)
  rw [reclaimUntil_eq]
  refine takeDue_putBack (tracks.ahead fun t member => (mem_takeDue_rest.mp member).2)
    (fun t member => ?_) ?_
  · exact (mem_takeDue.mp ((left_sublist r now point).subset member)).2
  · exact (takeDue_ascending r now).sublist (left_sublist r now point)

/-- A sweep that was cut short and the next one together do what one sweep does. -/
theorem Keyed.reclaimUntil_together (keyed : r.Keyed) (now : Instant) (point : SweepPoint) :
    (r.reclaimUntil now point).together ((r.reclaimUntil now point).registry.reclaimDue now) =
      r.reclaimDue now := by
  rw [reclaimDue, keyed.takeDue_reclaimUntil, reclaimUntil_eq]
  calc _ = (point.left (r.takeDue now).1).foldl (Harvest.step now)
        ((point.done (r.takeDue now).1).foldl (Harvest.step now) (.start (r.takeDue now).2)) :=
        (Harvest.foldl_step_eq_together _ _).symm
    _ = r.reclaimDue now := by
      rw [← List.foldl_append, point.done_append_left, reclaimDue]

end Registry

/-- After any run, wherever a sweep is cut short: a teardown that was due is
still due, as often as it was, or has been gone through, so that its
incarnation is gone or lives on with its own teardown pending. One complete
sweep at the same time then leads to the registry that one sweep would have led
to, and both together release what that would have released, each instance
once. -/
theorem Run.interrupted_sweep_is_completed_by_the_next (run : Run) (templates : List Template)
    (buffer : Nat) (now : Instant) (point : SweepPoint) (relocator other : Relocator)
    (patience : Duration) :
    let before := run.result templates buffer
    let cut := before.reclaimUntil now point
    let next := cut.registry.sweep now other patience
    let whole := before.sweep now relocator patience
    (before.takeDue now).1 = point.done (before.takeDue now).1 ++ (cut.registry.takeDue now).1 ∧
    (∀ t ∈ point.done (before.takeDue now).1, ∀ i, cut.registry.incarnation? t = some i →
      now < i.expiresAt ∧ .of i ∈ cut.registry.queue.pending) ∧
    next.1 = whole.1 ∧
    cut.released ++ next.2.2.released = whole.2.2.released ∧ whole.2.2.released.Nodup := by
  intro before cut next whole
  have keyed : before.Keyed := run.keyed templates buffer
  have covered : before.Covered := run.covered templates buffer
  have together := keyed.reclaimUntil_together now point
  have registry := congrArg Harvest.registry together
  have released := congrArg Harvest.released together
  refine ⟨?_, fun t done i concerned => ?_, registry, released, ?_⟩
  · rw [keyed.takeDue_reclaimUntil, point.done_append_left]
  · obtain ⟨ended, deferred, gone, tracks, same⟩ := keyed.cut_tracks now point
    have live : gone.registry.incarnation? t = some i := by
      have found : (before.reclaimUntil now point).registry.incarnation? t = some i := concerned
      rw [same] at found
      exact found
    obtain ⟨first, stays⟩ := tracks.incarnation?_eq_some_iff.mp live
    refine ⟨Int.not_le.mp fun reached => stays (tracks.complete t done i first reached), ?_⟩
    exact covered.reclaimUntil keyed now point _ _ i
      (Registry.incarnation?_eq_some_iff.mp concerned).1
  · obtain ⟨ended, deferred, tracks⟩ := keyed.reclaimDue_tracks now
    exact tracks.released_nodup keyed

end InstancedAreas
