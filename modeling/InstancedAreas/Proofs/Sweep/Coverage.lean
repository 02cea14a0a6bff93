import InstancedAreas.Proofs.Run

/-! Teardowns and live instances. Whatever a run does, sweeps that are cut short
included, each live instance has its own teardown pending. Where ids are fresh
no two live instances share one, and where besides nothing is scheduled by
itself, no two pending teardowns do. -/
namespace InstancedAreas

/-- Every live instance is scheduled for teardown at its deadline. -/
def Registry.Covered (r : Registry) : Prop :=
  ∀ template key i, r.instance? template key = some i → .of i ∈ r.queue.pending

/-- No two live instances have the same id, and none has one of these. -/
def Registry.Apart (ids : List InstanceId) (r : Registry) : Prop :=
  (∀ template key i, r.instance? template key = some i → i.id ∉ ids) ∧
    ∀ template key i template' key' j, r.instance? template key = some i →
      r.instance? template' key' = some j → i.id = j.id → template = template' ∧ key = key'

/-- No two pending teardowns have the same id, and none has one of these. -/
def Registry.Distinct (ids : List InstanceId) (r : Registry) : Prop :=
  (r.queue.pending.map Teardown.instanceId ++ ids).Nodup

variable {opens : Template → Instance → Prop} {now : Instant} {r s : Registry}

/-! ## Coverage -/

theorem Opening.covered (opening : Opening opens now r s) (covered : r.Covered) : s.Covered := by
  obtain ⟨_, i, -, -, -, queue, found⟩ := opening.found
  intro template key j live
  rw [found] at live
  apply queue.mem_iff.mpr
  split at live
  · cases live
    exact List.mem_cons_self ..
  · exact List.mem_cons_of_mem _ (covered template key j live)

theorem Change.covered (change : Change now r s) (covered : r.Covered) : s.Covered := by
  intro template key j live
  obtain ⟨i, found, same⟩ := change.found live
  rw [change.queue_eq, same]
  exact covered template key i found

namespace Registry

/-- A sweep ends what it takes the teardown of, or puts the teardown back. -/
theorem Covered.reclaimUntil (covered : r.Covered) (keyed : r.Keyed) (now : Instant)
    (point : SweepPoint) : (r.reclaimUntil now point).registry.Covered := by
  obtain ⟨ended, deferred, gone, tracks, same⟩ := keyed.cut_tracks now point
  intro template key i live
  rw [same] at live ⊢
  obtain ⟨found, stays⟩ := (tracks.live template key i).mp live
  have scheduled := covered template key i found
  apply (gone.registry.queue.pending_scheduleAll _).mem_iff.mpr
  -- Had its own teardown been gone through when due, it would not be live.
  by_cases due : i.expiresAt ≤ now
  · have taken : .of i ∈ point.done (r.takeDue now).1 ++ point.left (r.takeDue now).1 := by
      rw [point.done_append_left]
      exact mem_takeDue.mpr ⟨scheduled, due⟩
    rcases List.mem_append.mp taken with done | left
    · exact absurd (tracks.complete _ done i (keyed.incarnation?_of found) due) stays
    · exact List.mem_append_left _ left
  · refine List.mem_append_right _ (tracks.pending.mem_iff.mpr (List.mem_append_right _ ?_))
    exact mem_takeDue_rest.mpr ⟨scheduled, Int.not_le.mp due⟩

theorem perform_covered (keyed : r.Keyed) (now : Instant) (op : Operation)
    (covered : r.Covered) : (r.perform now op).Covered := by
  rcases perform_cases keyed now op with ⟨point, swept⟩ | ⟨t, rfl⟩ | effect
  · rw [swept]
    exact covered.reclaimUntil keyed now point
  · intro template key i live
    apply (r.queue.pending_schedule t).mem_iff.mpr
    exact List.mem_cons_of_mem _ (covered template key i live)
  · exact effect.preserve (fun opening => opening.covered) (fun _ change => change.covered) keyed
      covered

end Registry

/-- After every run, every live instance is scheduled for teardown at its
deadline. -/
theorem Run.covered (run : Run) (templates : List Template) (buffer : Nat) :
    (run.result templates buffer).Covered :=
  Registry.after_preserves (fun _ keyed => Registry.perform_covered keyed _ _)
    (Registry.keyed_ofTemplates templates buffer) fun template key i live => by
      rw [Registry.instance?_ofTemplates] at live
      cases live

/-! ## Live instances -/

theorem Opening.apart {fresh : InstanceId} {ids : List InstanceId}
    (opening : Opening opens now r s) (given : ∀ t i, opens t i → i.id = fresh)
    (unused : fresh ∉ ids) (apart : r.Apart (fresh :: ids)) : s.Apart ids := by
  obtain ⟨t, born, allowed, -, -, -, found⟩ := opening.found
  have id := given t born allowed
  obtain ⟨clear, unique⟩ := apart
  have old {template : TemplateId} {key : InstanceKey} {i : Instance}
      (live : s.instance? template key = some i) :
      template = born.template ∧ key = born.key ∧ i = born ∨
        r.instance? template key = some i := by
    rw [found] at live
    split at live
    · cases live
      exact .inl ⟨‹_ ∧ _›.1, ‹_ ∧ _›.2, rfl⟩
    · exact .inr live
  have notBorn {template : TemplateId} {key : InstanceKey} {i : Instance}
      (live : r.instance? template key = some i) : i.id ≠ born.id := by
    intro same
    exact clear template key i live (by simp [same, id])
  refine ⟨fun template key i live => ?_, fun template key i template' key' j liveI liveJ same => ?_⟩
  · rcases old live with ⟨-, -, rfl⟩ | before
    · exact id ▸ unused
    · exact fun member => clear template key i before (List.mem_cons_of_mem _ member)
  · rcases old liveI with ⟨rfl, rfl, rfl⟩ | beforeI <;>
      rcases old liveJ with ⟨rfl, rfl, rfl⟩ | beforeJ
    · exact ⟨rfl, rfl⟩
    · exact absurd same.symm (notBorn beforeJ)
    · exact absurd same (notBorn beforeI)
    · exact unique _ _ i _ _ j beforeI beforeJ same

theorem Change.apart {ids : List InstanceId} (change : Change now r s) (apart : r.Apart ids) :
    s.Apart ids := by
  constructor
  · intro template key j live
    obtain ⟨i, found, same⟩ := change.found live
    rw [same]
    exact apart.1 template key i found
  · intro template key j template' key' j' live live' same
    obtain ⟨i, found, term⟩ := change.found live
    obtain ⟨i', found', term'⟩ := change.found live'
    rw [term, term'] at same
    exact apart.2 template key i template' key' i' found found' same

namespace Registry

theorem Apart.mono {ids rest : List InstanceId} (apart : r.Apart ids) (part : rest ⊆ ids) :
    r.Apart rest :=
  ⟨fun template key i live member => apart.1 template key i live (part member), apart.2⟩

theorem perform_apart {op : Operation} {ids : List InstanceId} (keyed : r.Keyed)
    (unique : (op.fresh?.toList ++ ids).Nodup) (apart : r.Apart (op.fresh?.toList ++ ids)) :
    (r.perform now op).Apart ids := by
  refine perform_preserves (I := Apart ids) (fun _ holds => holds) (fun {s} opening _ => ?_)
    (fun _ change => change.apart) keyed (apart.mono fun _ => List.mem_append_right _)
  obtain ⟨t, i, allowed, -⟩ := opening.found
  have given := Operation.id_of_opens allowed
  rw [given] at unique apart
  exact opening.apart (fun t j allowed => Option.some.inj
    ((Operation.id_of_opens allowed).symm.trans given)) (List.nodup_cons.mp unique).1 apart

end Registry

/-- After every run with fresh ids, no two live instances have the same id. -/
theorem Run.apart {run : Run} (fresh : run.Fresh) (templates : List Template) (buffer : Nat) :
    (run.result templates buffer).Apart [] := by
  refine (Registry.after_preserves_rest (I := fun rest r => rest.ids.Nodup ∧ r.Apart rest.ids)
    (fun {r now op rest} keyed ⟨unique, apart⟩ => ?_) (Registry.keyed_ofTemplates templates buffer)
    ⟨fresh, ?_⟩).2
  · rw [Run.ids_cons] at unique apart
    exact ⟨(List.nodup_append.mp unique).2.1, Registry.perform_apart keyed unique apart⟩
  · simp [Registry.Apart, Registry.instance?_ofTemplates]

/-! ## Pending teardowns -/

namespace Registry

/-- Where pending teardowns have distinct ids, one that concerns an instance is
that instance's own. -/
theorem Covered.own_teardown (covered : r.Covered) {ids : List InstanceId}
    (distinct : r.Distinct ids) {t : Teardown} {i : Instance} (pending : t ∈ r.queue.pending)
    (concerned : r.incarnation? t = some i) : t = .of i := by
  obtain ⟨found, same⟩ := incarnation?_eq_some_iff.mp concerned
  have unique : (r.queue.pending.map Teardown.instanceId).Nodup :=
    (List.nodup_append.mp distinct).1
  exact List.inj_on_of_nodup_map unique pending (covered _ _ i found) same.symm

/-- Where pending teardowns have distinct ids, a sweep schedules nothing
anew. -/
theorem Covered.nothing_deferred (covered : r.Covered) {ids : List InstanceId}
    (distinct : r.Distinct ids) {point : SweepPoint} {ended : List Instance}
    {deferred : List Teardown} {gone : Harvest}
    (tracks : Harvest.Tracks now (r.takeDue now).2 (point.done (r.takeDue now).1) ended deferred
      gone) : deferred = [] := by
  apply List.eq_nil_iff_forall_not_mem.mpr
  intro t member
  obtain ⟨cause, done, i, concerned, ahead, -⟩ := tracks.early t member
  have due : cause ∈ (r.takeDue now).1 := by
    rw [← point.done_append_left (r.takeDue now).1]
    exact List.mem_append_left _ done
  obtain ⟨pending, passed⟩ := mem_takeDue.mp due
  rw [covered.own_teardown distinct pending concerned] at passed
  exact absurd ahead (Int.not_lt.mpr passed)

theorem Distinct.reclaimUntil {ids : List InstanceId} (distinct : r.Distinct ids)
    (covered : r.Covered) (keyed : r.Keyed) (now : Instant) (point : SweepPoint) :
    (r.reclaimUntil now point).registry.Distinct ids := by
  obtain ⟨ended, deferred, gone, tracks, same⟩ := keyed.cut_tracks now point
  have pending := tracks.pending
  rw [covered.nothing_deferred distinct tracks, List.nil_append] at pending
  have back := (gone.registry.queue.pending_scheduleAll (point.left (r.takeDue now).1)).trans
    (pending.append_left _)
  have part : (point.left (r.takeDue now).1 ++ (r.takeDue now).2.queue.pending).Sublist
      r.queue.pending := by
    rw [← takeDue_append r now]
    conv => rhs; rw [← point.done_append_left (r.takeDue now).1]
    exact (List.sublist_append_right ..).append (.refl _)
  rw [same]
  exact ((back.map Teardown.instanceId).append_right ids).nodup_iff.mpr
    (List.Nodup.sublist ((part.map Teardown.instanceId).append (.refl _)) distinct)

theorem perform_distinct {op : Operation} {ids : List InstanceId} (keyed : r.Keyed)
    (covered : r.Covered) (unscheduled : op.isSchedule = false)
    (distinct : r.Distinct (op.fresh?.toList ++ ids)) : (r.perform now op).Distinct ids := by
  have fewer : r.Distinct ids :=
    List.Nodup.sublist ((List.Sublist.refl _).append (List.sublist_append_right ..)) distinct
  rcases perform_cases keyed now op with ⟨point, swept⟩ | ⟨t, rfl⟩ | effect
  · rw [swept]
    exact fewer.reclaimUntil covered keyed now point
  · cases unscheduled
  · refine effect.preserve (fun opening _ => ?_) (fun _ change before => ?_) keyed fewer
    · -- The id moves from those still to come to those that are pending.
      obtain ⟨t, i, allowed, -, -, queue, -⟩ := opening.found
      rw [Operation.id_of_opens allowed] at distinct
      have order := (queue.map Teardown.instanceId).append_right ids
      exact (order.trans List.perm_middle.symm).nodup_iff.mpr distinct
    · rw [Distinct, change.queue_eq]
      exact before

end Registry

/-- After every run with fresh ids in which nothing is scheduled by itself, no
two pending teardowns have the same id. -/
theorem Run.distinct {run : Run} (fresh : run.Fresh) (unscheduled : run.Unscheduled)
    (templates : List Template) (buffer : Nat) :
    (run.result templates buffer).Distinct [] := by
  refine (Registry.after_preserves_rest
    (I := fun rest r => rest.Unscheduled ∧ r.Covered ∧ r.Distinct rest.ids)
    (fun {r now op rest} keyed ⟨unscheduled, covered, distinct⟩ => ?_)
    (Registry.keyed_ofTemplates templates buffer)
    ⟨unscheduled, Run.covered [] templates buffer, fresh⟩).2.2
  rw [Run.ids_cons] at distinct
  exact ⟨fun step member => unscheduled step (List.mem_cons_of_mem _ member),
    Registry.perform_covered keyed now op covered,
    Registry.perform_distinct keyed covered (unscheduled _ (List.mem_cons_self ..)) distinct⟩

end InstancedAreas
