import InstancedAreas.Proofs.Feed.Replay
import InstancedAreas.Proofs.Incarnation
import InstancedAreas.Proofs.Terms

/-! Handles. A handle stands for one instance, for as long as that is live, and it
never comes to stand for another one that is opened under the same key later. What
makes it so is that an instance keeps its place for as long as it is live. -/
namespace InstancedAreas

/-- Whichever way an instance ends, its release is announced. -/
theorem Ending.releases {i : Instance} {last : List Announcement} (ending : Ending i last) :
    ∃ a ∈ last, ∃ reason, a.event.kind = .released reason := by
  cases ending with
  | swept turn sweeps live due =>
    have told : Event.of i turn.now (.released .expired) ∈ i.farewell turn.now := by
      simp [Instance.farewell]
    exact ⟨⟨turn, _⟩, List.mem_map.mpr ⟨_, told, rfl⟩, .expired, rfl⟩
  | emptied turn t player => exact ⟨_, List.mem_singleton_self _, .emptied, rfl⟩
  | released turn reason => exact ⟨_, List.mem_singleton_self _, reason, rfl⟩

/-- Of an instance that there has been, the release is announced exactly if it is not
live any more. -/
theorem Biography.released_iff {r : Registry} {id : InstanceId} {told : List Announcement}
    (biography : Biography r id told) (born : told ≠ []) :
    (∃ a ∈ told, ∃ reason, a.event.kind = .released reason) ↔ r.Lacks id := by
  cases biography with
  | unborn absent => exact absurd rfl born
  | alive i told same live life =>
    constructor
    · rintro ⟨a, member, reason, released⟩
      exact absurd released (life.begins.2 a member reason)
    · intro absent
      exact absurd same (absent i live)
  | ended i told last same absent life ending =>
    obtain ⟨a, member, released⟩ := ending.releases
    exact iff_of_true ⟨a, List.mem_append_right _ member, released⟩ absent

namespace Run

variable {templates : List Template} {buffer : Nat}

/-- Where ids are fresh, what is announced of a live instance has begun. -/
theorem told_of_live {run : Run} (fresh : run.Fresh) {i : Instance}
    (live : (run.result templates buffer).Live i) :
    Alive i (run.about templates buffer i.id) := by
  have apart : (run.result templates buffer).Apart [] := Run.apart fresh templates buffer
  exact (biography fresh templates buffer i.id).1.life apart live

end Run

namespace Registry

variable {r : Registry} {t : Template}

/-- By the handle of an instance that is not live nobody leaves another one, whatever
is at its place. -/
theorem Keyed.leave_of_lacks (keyed : r.Keyed) (handle : Handle)
    (home : r.template? handle.template = some t) (absent : r.Lacks handle.instanceId)
    (now : Instant) (player : PlayerId) :
    r.leave now handle player = (r, .error (.notFound handle.template handle.key)) := by
  obtain ⟨pool, found, -⟩ := Option.map_eq_some_iff.mp home
  apply leave_of_gone found
  cases here : r.instance? handle.template handle.key with
  | none => rfl
  | some i => simpa using absent i (keyed.found_in_place here)

end Registry

namespace Run

variable {templates : List Template} {buffer : Nat}

/-- A handle that was granted in a run was that of a live instance at some time. -/
theorem live_of_grants {run : Run} {turn : Turn} (member : turn ∈ run.turns templates buffer)
    {request : Request} {handle : Handle} (grants : turn.Grants request handle) :
    ∃ first rest i, run = first ++ rest ∧ (Run.result first templates buffer).Live i ∧
      handle = ⟨i.template, i.key, i.id⟩ := by
  obtain ⟨early, late, split⟩ := List.append_of_mem member
  obtain ⟨first, rest, same, -, before, -⟩ := Registry.turns_split split
  obtain ⟨i, own, live, -⟩ := grants.found (keyed_of_mem_turns member)
  refine ⟨first ++ [(turn.now, turn.op)], rest, i, by simp [same], ?_, own.symm⟩
  rw [Turn.after, before] at live
  rw [result_concat]
  exact live

/-- In every run with fresh ids, leaving by a handle that was granted in it concerns
the one instance that it was granted for. While that is live, the player leaves it if
inside; it goes exactly if it is left by its only occupant under a template that asks
for its release then, which the answer tells; and nothing changes at any other place.
Once its release has been announced, for whatever reason, the instance is not found
and nothing changes at all, whoever is at its place by then. -/
theorem handles_stand_for_one_instance {run : Run} (fresh : run.Fresh) (templates : List Template)
    (buffer : Nat) {turn : Turn} (member : turn ∈ run.turns templates buffer) {request : Request}
    {handle : Handle} (grants : turn.Grants request handle) (now : Instant) (player : PlayerId) :
    let before := run.result templates buffer
    let left := before.leave now handle player
    (∀ i, before.Live i → i.id = handle.instanceId →
      handle = ⟨i.template, i.key, i.id⟩ ∧ ∃ t, before.template? i.template = some t ∧
        left.2 = .ok (decide (i.occupants.players = [player] ∧ t.release = .whenEmpty)) ∧
        ∀ template key, left.1.instance? template key =
          if template = i.template ∧ key = i.key then i.without t player
          else before.instance? template key) ∧
    ((∃ a ∈ run.about templates buffer handle.instanceId, ∃ reason,
        a.event.kind = .released reason) ↔ before.Lacks handle.instanceId) ∧
    (before.Lacks handle.instanceId →
      left = (before, .error (.notFound handle.template handle.key))) := by
  have keyed : (run.result templates buffer).Keyed := run.keyed templates buffer
  obtain ⟨first, rest, i, rfl, live, rfl⟩ := live_of_grants member grants
  obtain ⟨t, home⟩ : ∃ t, (Run.result (first ++ rest) templates buffer).template? i.template =
      some t := by
    obtain ⟨pool, found, -⟩ := Registry.instance?_eq_some_iff.mp live
    refine ⟨pool.template, ?_⟩
    rw [template?_result, ← template?_result first, Registry.template?, found]
    rfl
  refine ⟨?_, ?_, ?_⟩
  · intro j liveJ own
    obtain ⟨template, key⟩ : j.template = i.template ∧ j.key = i.key := by
      rw [terms_of_id fresh live liveJ own]
      exact ⟨rfl, rfl⟩
    have same : (⟨i.template, i.key, i.id⟩ : Handle) = ⟨j.template, j.key, j.id⟩ := by
      rw [template, key, own]
    rw [← template] at home
    obtain ⟨answered, places⟩ := keyed.leave_of_live liveJ home now player
    rw [Instance.isNone_without] at answered
    rw [same]
    exact ⟨rfl, t, home, answered, places⟩
  · apply (biography fresh templates buffer i.id).1.released_iff
    rw [about_append]
    exact List.append_ne_nil_of_left_ne_nil (told_of_live fresh.of_append live).ne_nil _
  · intro absent
    exact keyed.leave_of_lacks ⟨i.template, i.key, i.id⟩ home absent now player

/-- An instance is released, and its occupant is let in again under the same key. By
the first handle that player is not found any more. -/
theorem first_handle_is_void_in_the_next_instance :
    let template := Template.pooled "a" 100 "entry" 1 (.ofSeconds 3600)
    let request := Request.new 1 900 "a"
    let run : Run := [(.epoch, .enter (.ofNat 1) request),
      (.epoch, .release "a" (.slot 0) .manual), (.epoch, .enter (.ofNat 2) request)]
    let handle : Handle := ⟨"a", .slot 0, .ofNat 1⟩
    let before := run.result [template] 16
    run.Fresh ∧ (∃ turn ∈ run.turns [template] 16, turn.Grants request handle) ∧
      (before.instance? "a" (.slot 0)).any (fun i => i.id = .ofNat 2 ∧ i.occupants.contains 1) ∧
      before.leave .epoch handle 1 = (before, .error (.notFound "a" (.slot 0))) := by
  intro template request run handle before
  have fresh : run.Fresh := by decide
  let first : Turn := ⟨.ofTemplates [template] 16, .epoch, .enter (.ofNat 1) request⟩
  have member : first ∈ run.turns [template] 16 := List.mem_cons_self ..
  have answered : first.answer?.bind Admitted.handle = some handle := by decide
  have grants : first.Grants request handle := ⟨rfl, Option.bind_eq_some_iff.mp answered⟩
  obtain ⟨-, released, stale⟩ :=
    handles_stand_for_one_instance fresh [template] 16 member grants .epoch 1
  have told : (run.about [template] 16 handle.instanceId).any
      (fun a => a.event.kind = .released .manual) = true := by decide
  obtain ⟨a, inside, kind⟩ := List.any_eq_true.mp told
  have absent := released.mp ⟨a, inside, .manual, of_decide_eq_true kind⟩
  exact ⟨fresh, ⟨first, member, grants⟩, by decide, stale absent⟩

end Run

end InstancedAreas
