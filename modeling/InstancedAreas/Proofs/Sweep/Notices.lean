import InstancedAreas.Proofs.Instance.Room
import InstancedAreas.Proofs.Sweep.Coverage

/-! Eviction notices when a sweep is cut short. Complete sweeps hand over a
notice for every occupant of every instance that they end. A sweep that is cut
short restores its teardowns but not the notices it had gathered, so just those
it had not handed over are never handed over. -/
namespace InstancedAreas

/-- The notices that a layer has seen. -/
def Relocator.seen : Relocator → List Eviction
  | .layer _ seen => seen
  | _ => []

/-- A layer sees all notices that are handed over, the last one first. -/
theorem Relocator.takeAll_layer (patience : Duration) (reply : Eviction → Reply)
    (seen notices : List Eviction) :
    ((Relocator.layer reply seen).takeAll patience notices).1 =
      .layer reply (notices.reverse ++ seen) := by
  induction notices generalizing seen with
  | nil => rfl
  | cons notice rest ih =>
    simp only [takeAll, take, ih, List.reverse_cons, List.append_assoc, List.singleton_append]

/-- Complete sweeps one after the other, each at a time. -/
def Registry.sweepAll (r : Registry) (relocator : Relocator) (patience : Duration) :
    List Instant → Registry × Relocator
  | [] => (r, relocator)
  | now :: later =>
    let swept := r.sweep now relocator patience
    swept.1.sweepAll swept.2.1 patience later

/-- The notice for an occupant of an ended instance. -/
theorem Eviction.mem_flatMap_all {ended : List Instance} {notice : Eviction} :
    notice ∈ ended.flatMap Eviction.all ↔
      ∃ i ∈ ended, ∃ player ∈ i.occupants.players, notice = .of i player := by
  simp [Eviction.all, eq_comm]

namespace Registry

variable {r : Registry} {now : Instant}

/-- What complete sweeps end and hand over. -/
theorem Keyed.sweepAll_spec (keyed : r.Keyed) (reply : Eviction → Reply) (patience : Duration)
    (times : List Instant) (seen : List Eviction) :
    ∃ ended : List Instance,
      (∀ template key i, (r.sweepAll (.layer reply seen) patience times).1.instance? template key =
        some i ↔ r.instance? template key = some i ∧ i ∉ ended) ∧
      (∀ i ∈ ended, r.instance? i.template i.key = some i) ∧
      ∀ notice, notice ∈ (r.sweepAll (.layer reply seen) patience times).2.seen ↔
        notice ∈ seen ∨ notice ∈ ended.flatMap Eviction.all := by
  induction times generalizing r seen with
  | nil => exact ⟨[], by simp [sweepAll], List.forall_mem_nil _, by simp [sweepAll, Relocator.seen]⟩
  | cons now later ih =>
    obtain ⟨first, _, tracks⟩ := keyed.reclaimDue_tracks now
    obtain ⟨others, live, lived, handed⟩ :=
      ih tracks.keyed ((r.reclaimDue now).notices.reverse ++ seen)
    have next : r.sweepAll (.layer reply seen) patience (now :: later) =
        (r.reclaimDue now).registry.sweepAll
          (.layer reply ((r.reclaimDue now).notices.reverse ++ seen)) patience later := by
      rw [sweepAll, sweep, Relocator.takeAll_layer]
    have notices : (r.reclaimDue now).notices = first.flatMap Eviction.all := tracks.notices
    refine ⟨first ++ others, fun template key i => ?_, fun i member => ?_, fun notice => ?_⟩
    · rw [next, live, List.mem_append, not_or, ← and_assoc]
      exact and_congr_left fun _ => tracks.live template key i
    · rcases List.mem_append.mp member with before | after
      · exact tracks.lived keyed before
      · exact ((tracks.live _ _ i).mp (lived i after)).1
    · rw [next, handed, notices, List.flatMap_append, List.mem_append, List.mem_append,
        List.mem_reverse]
      tauto

/-- What a sweep that is cut short and the complete sweeps after it end and hand
over. The notices for what the first of them ended are in two parts, and only
one of them is handed over. -/
theorem Keyed.cutSweep_spec (keyed : r.Keyed) (now : Instant) (point : SweepPoint)
    (reply : Eviction → Reply) (patience : Duration) (times : List Instant) :
    let notices := (r.reclaimUntil now point).notices
    let cut := r.cutSweep now (.layer reply []) patience point
    let final := cut.1.sweepAll cut.2 patience times
    ∃ first later : List Instance, first.Nodup ∧
      point.handed notices ++ point.lost notices = first.flatMap Eviction.all ∧
      (∀ i ∈ first, r.instance? i.template i.key = some i) ∧
      (∀ i ∈ later, r.instance? i.template i.key = some i ∧ i ∉ first) ∧
      (∀ template key i, final.1.instance? template key = some i ↔
        r.instance? template key = some i ∧ i ∉ first ∧ i ∉ later) ∧
      ∀ notice, notice ∈ final.2.seen ↔
        notice ∈ point.handed notices ∨ notice ∈ later.flatMap Eviction.all := by
  intro notices cut final
  obtain ⟨first, deferred, gone, tracks, same⟩ := keyed.cut_tracks now point
  have live (template : TemplateId) (key : InstanceKey) (i : Instance) :
      cut.1.instance? template key = some i ↔
        r.instance? template key = some i ∧ i ∉ first := by
    have registry : cut.1 = gone.registry.putBack (point.left (r.takeDue now).1) :=
      congrArg Harvest.registry same
    rw [registry]
    exact tracks.live template key i
  have gathered : notices = first.flatMap Eviction.all :=
    (congrArg Harvest.notices same).trans tracks.notices
  have taken : cut.2 = .layer reply (point.handed notices).reverse := by
    simp [cut, notices, cutSweep, Relocator.takeAll_layer]
  have cutKeyed : cut.1.Keyed := perform_keyed keyed now (.cutSweep point)
  obtain ⟨later, liveLater, lived, seen⟩ :=
    cutKeyed.sweepAll_spec reply patience times (point.handed notices).reverse
  rw [← taken] at liveLater seen
  refine ⟨first, later, tracks.once, by rw [point.handed_append_lost, gathered],
    fun i => tracks.lived keyed, fun i member => (live _ _ i).mp (lived i member),
    fun template key i => ?_, fun notice => ?_⟩
  · rw [liveLater, live, and_assoc]
  · rw [seen, List.mem_reverse]

/-- In a registry where no two live instances have the same id, a notice tells
whom it concerns. -/
theorem Apart.eq_of_notice {ids : List InstanceId} (apart : r.Apart ids) {i j : Instance}
    {player other : PlayerId} (live : r.instance? i.template i.key = some i)
    (live' : r.instance? j.template j.key = some j)
    (same : Eviction.of i player = Eviction.of j other) : i = j := by
  obtain ⟨template, key⟩ := apart.2 _ _ i _ _ j live live' (congrArg Eviction.instanceId same)
  rw [template, key, live'] at live
  exact (Option.some.inj live).symm

theorem Apart.mem_of_notice {ids : List InstanceId} (apart : r.Apart ids) {i : Instance}
    {player : PlayerId} {ended : List Instance} (live : r.instance? i.template i.key = some i)
    (lived : ∀ j ∈ ended, r.instance? j.template j.key = some j)
    (gathered : Eviction.of i player ∈ ended.flatMap Eviction.all) : i ∈ ended := by
  obtain ⟨j, member, other, -, same⟩ := Eviction.mem_flatMap_all.mp gathered
  exact apart.eq_of_notice live (lived j member) same ▸ member

/-- Where no two live instances have the same id, no notice is gathered
twice. -/
theorem Apart.notices_nodup {ids : List InstanceId} (apart : r.Apart ids) {ended : List Instance}
    (once : ended.Nodup) (lived : ∀ i ∈ ended, r.instance? i.template i.key = some i) :
    (ended.flatMap Eviction.all).Nodup := by
  rw [List.nodup_flatMap]
  refine ⟨fun i _ => i.occupants.players_nodup.map fun player other same => ?_,
    once.pairwise_of_forall_ne fun i member j other differs notice first second => ?_⟩
  · exact congrArg Eviction.player same
  · obtain ⟨player, -, rfl⟩ := List.mem_map.mp first
    obtain ⟨_, -, same⟩ := List.mem_map.mp second
    exact differs (apart.eq_of_notice (lived i member) (lived j other) same.symm)

/-- Where no two live instances have the same id, the notice for an occupant of
an instance that is gone in the end has been handed over unless it was lost, and
only such notices are lost. -/
theorem Apart.handed_over_iff {ids : List InstanceId} (apart : r.Apart ids) (keyed : r.Keyed)
    (now : Instant) (point : SweepPoint) (reply : Eviction → Reply) (patience : Duration)
    (times : List Instant) :
    let lost := point.lost (r.reclaimUntil now point).notices
    let cut := r.cutSweep now (.layer reply []) patience point
    let final := cut.1.sweepAll cut.2 patience times
    (∀ i player, r.instance? i.template i.key = some i →
      final.1.instance? i.template i.key ≠ some i → player ∈ i.occupants.players →
        (Eviction.of i player ∈ final.2.seen ↔ Eviction.of i player ∉ lost)) ∧
    ∀ notice ∈ lost, ∃ i player, r.instance? i.template i.key = some i ∧
      final.1.instance? i.template i.key ≠ some i ∧ player ∈ i.occupants.players ∧
        notice = .of i player := by
  intro lost cut final
  obtain ⟨first, later, once, parts, lived, livedLater, live, seen⟩ :=
    keyed.cutSweep_spec now point reply patience times
  have gathered {notice : Eviction} (missed : notice ∈ lost) :
      notice ∈ first.flatMap Eviction.all := parts ▸ List.mem_append_right _ missed
  refine ⟨fun i player present absent inside => ⟨fun handed missed => ?_, fun kept => ?_⟩,
    fun notice missed => ?_⟩
  · -- No notice is in both parts, and what is ended later was not ended first.
    rcases (seen _).mp handed with taken | after
    · have disjoint := (List.nodup_append.mp (parts ▸ apart.notices_nodup once lived)).2.2
      exact disjoint _ taken _ missed rfl
    · have gone := apart.mem_of_notice present (fun j member => (livedLater j member).1) after
      exact (livedLater i gone).2 (apart.mem_of_notice present lived (gathered missed))
  · refine (seen _).mpr ?_
    by_cases ended : i ∈ first
    · have either := Eviction.mem_flatMap_all.mpr ⟨i, ended, player, inside, rfl⟩
      rw [← parts] at either
      exact .inl ((List.mem_append.mp either).resolve_right kept)
    · have gone : i ∈ later := Classical.byContradiction fun stays =>
        absent ((live _ _ i).mpr ⟨present, ended, stays⟩)
      exact .inr (Eviction.mem_flatMap_all.mpr ⟨i, gone, player, inside, rfl⟩)
  · obtain ⟨i, ended, player, inside, same⟩ := Eviction.mem_flatMap_all.mp (gathered missed)
    exact ⟨i, player, lived i ended, fun stays => ((live _ _ i).mp stays).2.1 ended, inside, same⟩

end Registry

namespace Run

/-- After a run with fresh ids, a sweep is cut short and complete sweeps follow.
The notice for an occupant of an instance that is gone in the end has been
handed over unless it was lost where the sweep was cut short. So all of them
have been handed over exactly if none was lost there. -/
theorem notice_is_handed_over_unless_lost {run : Run} (fresh : run.Fresh)
    (templates : List Template) (buffer : Nat) (now : Instant) (point : SweepPoint)
    (reply : Eviction → Reply) (patience : Duration) (times : List Instant) :
    let before := run.result templates buffer
    let cut := before.cutSweep now (.layer reply []) patience point
    let lost := point.lost (before.reclaimUntil now point).notices
    let final := cut.1.sweepAll cut.2 patience times
    (∀ i player, before.instance? i.template i.key = some i →
      final.1.instance? i.template i.key ≠ some i → player ∈ i.occupants.players →
        (Eviction.of i player ∈ final.2.seen ↔ Eviction.of i player ∉ lost)) ∧
    ((∀ i player, before.instance? i.template i.key = some i →
      final.1.instance? i.template i.key ≠ some i → player ∈ i.occupants.players →
        Eviction.of i player ∈ final.2.seen) ↔ lost = []) := by
  intro before cut lost final
  obtain ⟨each, missing⟩ := (Run.apart fresh templates buffer).handed_over_iff
    (run.keyed templates buffer) now point reply patience times
  refine ⟨each, fun all => ?_, fun none i player present absent inside => ?_⟩
  · apply List.eq_nil_iff_forall_not_mem.mpr
    intro notice missed
    obtain ⟨i, player, present, absent, inside, rfl⟩ := missing notice missed
    exact (each i player present absent inside).mp (all i player present absent inside) missed
  · apply (each i player present absent inside).mpr
    exact List.eq_nil_iff_forall_not_mem.mp none _

/-- Two players, each alone in an instance of another template. A sweep that is
cut short while it waits for the answer to the second notice loses none. -/
theorem both_notices_are_handed_over_when_the_second_is_cut_short :
    let template (id : TemplateId) : Template := .pooled id 100 "entry" 2 (.ofSeconds 3600)
    let run : Run := [(.epoch, .enter (.ofNat 1) (.new 1 900 "a")),
      (.epoch, .enter (.ofNat 2) (.new 2 900 "b"))]
    let late := (Instant.epoch.after? (.ofSeconds 3600)).getD .epoch
    let before := run.result [template "a", template "b"] 16
    let layer := Relocator.layer (fun _ => .accepted 0) []
    let cut := before.cutSweep late layer (.ofSeconds 2) (.notifying 1)
    let final := cut.1.sweepAll cut.2 (.ofSeconds 2) [late]
    run.Fresh ∧ ∀ i player, before.instance? i.template i.key = some i →
      final.1.instance? i.template i.key ≠ some i → player ∈ i.occupants.players →
        Eviction.of i player ∈ final.2.seen := by
  intro template run late before layer cut final
  have fresh : run.Fresh := by decide
  exact ⟨fresh, (notice_is_handed_over_unless_lost fresh [template "a", template "b"] 16 late
    (.notifying 1) (fun _ => .accepted 0) (.ofSeconds 2) [late]).2.mpr (by decide)⟩

/-- The same two players. A sweep that is cut short while it waits for the
second template has ended the instance of the first player, whose notice nobody
ever sees, although every notice that is handed over is accepted. -/
theorem first_notice_is_lost_when_the_second_template_is_awaited :
    let template (id : TemplateId) : Template := .pooled id 100 "entry" 2 (.ofSeconds 3600)
    let run : Run := [(.epoch, .enter (.ofNat 1) (.new 1 900 "a")),
      (.epoch, .enter (.ofNat 2) (.new 2 900 "b"))]
    let late := (Instant.epoch.after? (.ofSeconds 3600)).getD .epoch
    let before := run.result [template "a", template "b"] 16
    let layer := Relocator.layer (fun _ => .accepted 0) []
    let cut := before.cutSweep late layer (.ofSeconds 2) (.reclaiming 1)
    let final := cut.1.sweepAll cut.2 (.ofSeconds 2) [late]
    ((before.takeDue late).1.map Teardown.template) = ["a", "b"] ∧
      (before.instance? "a" (.slot 0)).map (·.occupants.players) = some [1] ∧
      final.1.instance? "a" (.slot 0) = none ∧
      final.2.seen = [⟨.ofNat 2, "b", 2, 900⟩] := by
  decide

end Run

end InstancedAreas
