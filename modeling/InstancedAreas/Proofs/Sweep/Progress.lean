import InstancedAreas.Proofs.Registry.Change
import Mathlib.Data.List.Nodup

/-! How a sweep goes through what is due. A teardown concerns the incarnation
that it was scheduled for. It finds that incarnation or is stale; what it finds
ends at its deadline and is scheduled anew before. Gone through one after the
other, teardowns end every expired incarnation they concern, once, and leave
all else as it was. -/
namespace InstancedAreas

variable {now : Instant}

namespace Registry

theorem takeDue_append (r : Registry) (now : Instant) :
    (r.takeDue now).1 ++ (r.takeDue now).2.queue.pending = r.queue.pending :=
  List.takeWhile_append_dropWhile

theorem mem_takeDue {r : Registry} {t : Teardown} :
    t ∈ (r.takeDue now).1 ↔ t ∈ r.queue.pending ∧ t.deadline ≤ now := by
  simp [takeDue, TeardownQueue.popDue_fst]

theorem mem_takeDue_rest {r : Registry} {t : Teardown} :
    t ∈ (r.takeDue now).2.queue.pending ↔ t ∈ r.queue.pending ∧ now < t.deadline := by
  have ahead : ¬ t.deadline ≤ now ↔ now < t.deadline := Int.not_le
  simp [takeDue, TeardownQueue.popDue_snd, ahead]

theorem takeDue_ascending (r : Registry) (now : Instant) :
    (r.takeDue now).1.Pairwise (fun a b => compare a b ≠ .gt) :=
  r.queue.ascending.sublist (List.takeWhile_sublist _)

/-- Of a registry in which nothing is due, what is put back is what is due. -/
theorem takeDue_putBack {r : Registry} {left : List Teardown}
    (ahead : ∀ t ∈ r.queue.pending, now < t.deadline) (passed : ∀ t ∈ left, t.deadline ≤ now)
    (ascending : left.Pairwise (fun a b => compare a b ≠ .gt)) :
    (r.putBack left).takeDue now = (left, r) := by
  simp only [takeDue, putBack, TeardownQueue.popDue_scheduleAll passed ahead ascending]

theorem takeDue_of_ahead {r : Registry} (ahead : ∀ t ∈ r.queue.pending, now < t.deadline) :
    r.takeDue now = ([], r) :=
  takeDue_putBack ahead (List.forall_mem_nil _) .nil

/-- The live incarnation that a teardown was scheduled for. -/
def incarnation? (r : Registry) (t : Teardown) : Option Instance :=
  (r.instance? t.template t.key).filter (·.id = t.instanceId)

variable {r : Registry} {t : Teardown} {i : Instance}

theorem incarnation?_eq_some_iff :
    r.incarnation? t = some i ↔ r.instance? t.template t.key = some i ∧ i.id = t.instanceId := by
  simp [incarnation?, Option.filter_eq_some_iff]

/-- The teardown of a live instance concerns it. -/
theorem Keyed.incarnation?_of (keyed : r.Keyed) {template : TemplateId} {key : InstanceKey}
    (found : r.instance? template key = some i) : r.incarnation? (.of i) = some i := by
  obtain ⟨rfl, rfl⟩ := keyed.own_place found
  exact incarnation?_eq_some_iff.mpr ⟨found, rfl⟩

/-- A teardown that finds no incarnation is stale. -/
theorem reclaim_stale (absent : r.incarnation? t = none) : r.reclaim now t = (r, .stale) := by
  simp only [reclaim]
  cases found : r.instance? t.template t.key with
  | none => rfl
  | some i =>
    have other : i.id ≠ t.instanceId := by
      simpa [incarnation?, found, Option.filter_eq_none_iff] using absent
    simp only [if_pos other]

/-- A teardown that comes too early is scheduled anew. -/
theorem reclaim_deferred (keyed : r.Keyed) (concerned : r.incarnation? t = some i)
    (ahead : now < i.expiresAt) : r.reclaim now t = (r.schedule (.of i), .deferred) := by
  obtain ⟨found, same⟩ := incarnation?_eq_some_iff.mp concerned
  obtain ⟨template, key⟩ := keyed.own_place found
  have anew : { t with deadline := i.expiresAt } = Teardown.of i := by
    rw [Teardown.of, template, key, same]
  simp only [reclaim, found, same, ne_eq, not_true_eq_false, if_false, ahead, if_true, anew]

/-- A teardown whose incarnation has reached its deadline ends it, and yields a
notice for each occupant. -/
theorem reclaim_expired (keyed : r.Keyed) (concerned : r.incarnation? t = some i)
    (reached : i.expiresAt ≤ now) :
    ∃ pool, r.pool? pool.template.id = some pool ∧ pool.instances.find? i.key = some i ∧
      r.reclaim now t = (r.expired now pool i, .expired (Eviction.all i)) := by
  obtain ⟨found, same⟩ := incarnation?_eq_some_iff.mp concerned
  obtain ⟨-, key⟩ := keyed.own_place found
  obtain ⟨pool, home, held⟩ := instance?_eq_some_iff.mp found
  have notAhead : ¬ now < i.expiresAt := Int.not_lt.mpr reached
  refine ⟨pool, keyed.home home, key ▸ held, ?_⟩
  simp only [reclaim, found, same, ne_eq, not_true_eq_false, if_false, notAhead, expire,
    withInstance, home, held]
  rfl

/-- Going through a teardown schedules one at most, or ends an instance. -/
theorem reclaim_cases (keyed : r.Keyed) (t : Teardown) :
    (∃ queue, (r.reclaim now t).1 = { r with queue }) ∨ Change now r (r.reclaim now t).1 := by
  cases concerned : r.incarnation? t with
  | none =>
    rw [reclaim_stale concerned]
    exact .inl ⟨r.queue, rfl⟩
  | some i =>
    by_cases ahead : now < i.expiresAt
    · rw [reclaim_deferred keyed concerned ahead]
      exact .inl ⟨_, rfl⟩
    · obtain ⟨pool, home, held, same⟩ := reclaim_expired keyed concerned (Int.not_lt.mp ahead)
      rw [same]
      exact .inr (.expired pool i home held (Int.not_lt.mp ahead))

/-- The end of an instance frees its place and no other. -/
theorem instance?_expired (keyed : r.Keyed) {pool : Pool}
    (home : r.pool? pool.template.id = some pool) (held : pool.instances.find? i.key = some i)
    (template : TemplateId) (key : InstanceKey) :
    (r.expired now pool i).instance? template key =
      if template = i.template ∧ key = i.key then none else r.instance? template key := by
  rw [((keyed _ pool home).2 i.key i held).1]
  exact instance?_putPool_drop home i.key template key

theorem template?_expired {pool : Pool} (home : r.pool? pool.template.id = some pool)
    (id : TemplateId) : (r.expired now pool i).template? id = r.template? id := by
  have dropped : (r.putPool (pool.drop i.key)).template? id = r.template? id :=
    template?_putPool home (pool.template_drop i.key) id
  exact dropped

end Registry

namespace Harvest

variable {h : Harvest} {t : Teardown} {i : Instance}

theorem registry_step (h : Harvest) (t : Teardown) :
    (h.step now t).registry = (h.registry.reclaim now t).1 := by
  simp only [step]
  split <;> simp_all

/-- What does not depend on the queue, and is preserved by every change, is
preserved by sweeps. -/
theorem foldl_step_preserves {I : Registry → Prop}
    (queueFree : ∀ {r : Registry} (queue : TeardownQueue), I r → I { r with queue })
    (change : ∀ {r s}, r.Keyed → Change now r s → I r → I s) (due : List Teardown)
    (keyed : h.registry.Keyed) (holds : I h.registry) :
    I (due.foldl (step now) h).registry := by
  induction due generalizing h with
  | nil => exact holds
  | cons t rest ih =>
    have both : (h.step now t).registry.Keyed ∧ I (h.step now t).registry := by
      rw [registry_step]
      rcases h.registry.reclaim_cases keyed t with ⟨queue, same⟩ | changed
      · rw [same]
        exact ⟨keyed, queueFree queue holds⟩
      · exact ⟨changed.keyed keyed, change keyed changed holds⟩
    exact ih both.1 both.2

theorem foldl_step_keyed (due : List Teardown) (keyed : h.registry.Keyed) :
    (due.foldl (step now) h).registry.Keyed :=
  foldl_step_preserves (I := Registry.Keyed) (fun _ holds => holds)
    (fun _ change => change.keyed) due keyed keyed

theorem step_stale (absent : h.registry.incarnation? t = none) :
    h.step now t = { h with stale := h.stale + 1 } := by
  simp only [step, Registry.reclaim_stale absent]

theorem step_deferred (keyed : h.registry.Keyed) (concerned : h.registry.incarnation? t = some i)
    (ahead : now < i.expiresAt) :
    h.step now t = { h with registry := h.registry.schedule (.of i) } := by
  simp only [step, Registry.reclaim_deferred keyed concerned ahead]

/-- What a sweep has done so far. Of a registry at the beginning it has gone
through some teardowns, ended some instances and scheduled others anew. -/
structure Tracks (now : Instant) (start : Registry) (done : List Teardown) (ended : List Instance)
    (deferred : List Teardown) (h : Harvest) : Prop where
  keyed : h.registry.Keyed
  templates : ∀ id, h.registry.template? id = start.template? id
  /-- What is live was live, and has not been ended. -/
  live : ∀ template key i, h.registry.instance? template key = some i ↔
    start.instance? template key = some i ∧ i ∉ ended
  released : h.released = ended.map fun i => (i.template, i.key)
  notices : h.notices = ended.flatMap Eviction.all
  once : ended.Nodup
  reached : ∀ i ∈ ended, i.expiresAt ≤ now
  /-- Each instance that was ended was so by a teardown of its own, in order. -/
  causes : ∃ causes : List Teardown, causes.Sublist done ∧
    causes.map start.incarnation? = ended.map some
  /-- Whatever is concerned and has reached its deadline was ended. -/
  complete : ∀ t ∈ done, ∀ i, start.incarnation? t = some i → i.expiresAt ≤ now → i ∈ ended
  pending : h.registry.queue.pending.Perm (deferred ++ start.queue.pending)
  /-- Only what a teardown came too early for was scheduled anew. -/
  early : ∀ t ∈ deferred, ∃ cause ∈ done, ∃ i, start.incarnation? cause = some i ∧
    now < i.expiresAt ∧ t = .of i

namespace Tracks

variable {start : Registry} {done : List Teardown} {ended : List Instance}
  {deferred : List Teardown}

theorem begin (keyed : start.Keyed) : Tracks now start [] [] [] (.start start) where
  keyed := keyed
  templates _ := rfl
  live _ _ _ := by simp only [Harvest.start, List.not_mem_nil, not_false_eq_true, and_true]
  released := rfl
  notices := rfl
  once := List.nodup_nil
  reached _ member := nomatch member
  causes := ⟨[], .slnil, rfl⟩
  complete _ member := nomatch member
  pending := .refl _
  early _ member := nomatch member

/-- An incarnation that is found was there at the beginning. -/
theorem incarnation?_eq_some_iff (tracks : Tracks now start done ended deferred h) :
    h.registry.incarnation? t = some i ↔ start.incarnation? t = some i ∧ i ∉ ended := by
  rw [Registry.incarnation?_eq_some_iff, Registry.incarnation?_eq_some_iff, tracks.live]
  exact and_right_comm

/-- Going through a teardown settles it if it concerns nothing that has to end. -/
theorem settle (tracks : Tracks now start done ended deferred h)
    (settled : ∀ i, start.incarnation? t = some i → i.expiresAt ≤ now → i ∈ ended) :
    Tracks now start (done ++ [t]) ended deferred h := by
  obtain ⟨causes, part, same⟩ := tracks.causes
  refine { tracks with
    causes := ⟨causes, part.trans (List.sublist_append_left ..), same⟩
    complete := fun other member i concerned reached => ?_
    early := fun other member => ?_ }
  · rcases List.mem_append.mp member with before | here
    · exact tracks.complete other before i concerned reached
    · obtain rfl := List.mem_singleton.mp here
      exact settled i concerned reached
  · obtain ⟨cause, before, rest⟩ := tracks.early other member
    exact ⟨cause, List.mem_append_left _ before, rest⟩

theorem of_stale (tracks : Tracks now start done ended deferred h)
    (absent : h.registry.incarnation? t = none) :
    Tracks now start (done ++ [t]) ended deferred (h.step now t) := by
  rw [step_stale absent]
  -- What the teardown was for has been ended by an earlier one, or never was.
  refine { tracks.settle fun i concerned _ => ?_ with }
  refine Classical.byContradiction fun left => ?_
  rw [tracks.incarnation?_eq_some_iff.mpr ⟨concerned, left⟩] at absent
  cases absent

theorem of_deferred (tracks : Tracks now start done ended deferred h)
    (concerned : h.registry.incarnation? t = some i) (ahead : now < i.expiresAt) :
    Tracks now start (done ++ [t]) ended (.of i :: deferred) (h.step now t) := by
  rw [step_deferred tracks.keyed concerned ahead]
  have concernedFirst := (tracks.incarnation?_eq_some_iff.mp concerned).1
  have settled : Tracks now start (done ++ [t]) ended deferred h :=
    tracks.settle fun j concerned' reached => by
      cases concernedFirst.symm.trans concerned'
      exact absurd ahead (Int.not_lt.mpr reached)
  refine { settled with
    pending := (h.registry.queue.pending_schedule (.of i)).trans (tracks.pending.cons _)
    early := fun other member => ?_ }
  rcases List.mem_cons.mp member with rfl | older
  · exact ⟨t, by simp, i, concernedFirst, ahead, rfl⟩
  · exact settled.early other older

theorem of_expired (keyed : start.Keyed) (tracks : Tracks now start done ended deferred h)
    (concerned : h.registry.incarnation? t = some i) (reached : i.expiresAt ≤ now) :
    Tracks now start (done ++ [t]) (ended ++ [i]) deferred (h.step now t) := by
  obtain ⟨pool, home, held, same⟩ :=
    Registry.reclaim_expired tracks.keyed concerned reached
  obtain ⟨concernedFirst, left⟩ := tracks.incarnation?_eq_some_iff.mp concerned
  have found := (Registry.incarnation?_eq_some_iff.mp concernedFirst).1
  obtain ⟨template, key⟩ := keyed.own_place found
  obtain ⟨causes, part, eq⟩ := tracks.causes
  simp only [step, same]
  -- The place of the instance is free now. Elsewhere nothing changes, and
  -- nothing that lives elsewhere is this instance.
  exact {
    keyed := (Change.expired pool i home held reached).keyed tracks.keyed
    templates := fun id => (Registry.template?_expired home id).trans (tracks.templates id)
    live := fun template' key' j => by
      rw [Registry.instance?_expired tracks.keyed home held]
      split
      · rename_i here
        obtain ⟨rfl, rfl⟩ := here
        rw [template, key, found]
        refine ⟨nofun, fun ⟨same, stays⟩ => absurd ?_ stays⟩
        rw [← Option.some.inj same]
        exact List.mem_append_right _ (List.mem_singleton_self i)
      · rename_i elsewhere
        rw [tracks.live]
        have differs (live : start.instance? template' key' = some j) : j ≠ i := by
          rintro rfl
          obtain ⟨rfl, rfl⟩ := keyed.own_place live
          exact elsewhere ⟨rfl, rfl⟩
        simp only [List.mem_append, List.mem_singleton, not_or]
        exact ⟨fun ⟨live, stays⟩ => ⟨live, stays, differs live⟩,
          fun ⟨live, stays, _⟩ => ⟨live, stays⟩⟩
    released := by simp [tracks.released, template, key]
    notices := by simp [tracks.notices]
    once := List.nodup_append.mpr ⟨tracks.once, List.pairwise_singleton _ i, by
      intro j before k here
      obtain rfl := List.mem_singleton.mp here
      rintro rfl
      exact left before⟩
    reached := fun j member => by
      rcases List.mem_append.mp member with before | here
      · exact tracks.reached j before
      · obtain rfl := List.mem_singleton.mp here
        exact reached
    causes := ⟨causes ++ [t], part.append (.refl _), by simp [eq, concernedFirst]⟩
    complete := fun other member j concerned' reached' => by
      rcases List.mem_append.mp member with before | here
      · exact List.mem_append_left _ (tracks.complete other before j concerned' reached')
      · obtain rfl := List.mem_singleton.mp here
        cases concernedFirst.symm.trans concerned'
        exact List.mem_append_right _ (List.mem_singleton_self _)
    pending := tracks.pending
    early := fun other member => by
      obtain ⟨cause, before, rest⟩ := tracks.early other member
      exact ⟨cause, List.mem_append_left _ before, rest⟩ }

/-- One more teardown ends an instance, schedules one anew, or is stale. -/
theorem step (keyed : start.Keyed) (tracks : Tracks now start done ended deferred h)
    (t : Teardown) : ∃ ended deferred, Tracks now start (done ++ [t]) ended deferred
      (h.step now t) := by
  cases concerned : h.registry.incarnation? t with
  | none => exact ⟨_, _, tracks.of_stale concerned⟩
  | some i =>
    by_cases ahead : now < i.expiresAt
    · exact ⟨_, _, tracks.of_deferred concerned ahead⟩
    · exact ⟨_, _, tracks.of_expired keyed concerned (Int.not_lt.mp ahead)⟩

theorem foldl (keyed : start.Keyed) (tracks : Tracks now start done ended deferred h)
    (due : List Teardown) : ∃ ended deferred, Tracks now start (done ++ due) ended deferred
      (due.foldl (Harvest.step now) h) := by
  induction due generalizing done ended deferred h with
  | nil => exact ⟨ended, deferred, by simpa using tracks⟩
  | cons t rest ih =>
    obtain ⟨_, _, next⟩ := tracks.step keyed t
    simpa using ih next

/-- The instances that were ended are those that the teardowns concern and
whose deadline has passed. -/
theorem mem_ended_iff (tracks : Tracks now start done ended deferred h) :
    i ∈ ended ↔ i.expiresAt ≤ now ∧ ∃ t ∈ done, start.incarnation? t = some i := by
  constructor
  · intro member
    obtain ⟨causes, part, same⟩ := tracks.causes
    have some : some i ∈ causes.map start.incarnation? := same ▸ List.mem_map_of_mem member
    obtain ⟨t, cause, concerned⟩ := List.mem_map.mp some
    exact ⟨tracks.reached i member, t, part.subset cause, concerned⟩
  · rintro ⟨reached, t, member, concerned⟩
    exact tracks.complete t member i concerned reached

/-- What was ended was live. -/
theorem lived (tracks : Tracks now start done ended deferred h) (keyed : start.Keyed)
    (member : i ∈ ended) : start.instance? i.template i.key = some i := by
  obtain ⟨-, t, -, concerned⟩ := tracks.mem_ended_iff.mp member
  exact keyed.found_in_place (Registry.incarnation?_eq_some_iff.mp concerned).1

/-- No place is released twice. -/
theorem released_nodup (tracks : Tracks now start done ended deferred h)
    (keyed : start.Keyed) : h.released.Nodup := by
  rw [tracks.released]
  refine List.Nodup.map_on (fun i member j other same => ?_) tracks.once
  obtain ⟨template, key⟩ := Prod.mk.inj same
  have live := tracks.lived keyed member
  rw [template, key, tracks.lived keyed other] at live
  exact (Option.some.inj live).symm

/-- Nothing is due after a sweep that was not due at its beginning. -/
theorem ahead (tracks : Tracks now start done ended deferred h)
    (ahead : ∀ t ∈ start.queue.pending, now < t.deadline) :
    ∀ t ∈ h.registry.queue.pending, now < t.deadline := by
  intro t member
  rcases List.mem_append.mp (tracks.pending.mem_iff.mp member) with anew | before
  · obtain ⟨_, _, i, _, later, rfl⟩ := tracks.early t anew
    exact later
  · exact ahead t before

end Tracks

end Harvest

namespace Registry

variable {r : Registry}

/-- What a sweep does that goes through some teardowns. -/
theorem Keyed.tracks (keyed : r.Keyed) (now : Instant) (due : List Teardown) :
    ∃ ended deferred, Harvest.Tracks now r due ended deferred
      (due.foldl (Harvest.step now) (.start r)) :=
  Harvest.Tracks.foldl keyed (.begin keyed) due

/-- What a complete sweep does. -/
theorem Keyed.reclaimDue_tracks (keyed : r.Keyed) (now : Instant) :
    ∃ ended deferred, Harvest.Tracks now (r.takeDue now).2 (r.takeDue now).1 ended deferred
      (r.reclaimDue now) := by
  have keyedRest : (r.takeDue now).2.Keyed := keyed
  exact keyedRest.tracks now (r.takeDue now).1

end Registry

end InstancedAreas
