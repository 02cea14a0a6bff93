import InstancedAreas.Proofs.Admission.Grant
import InstancedAreas.Proofs.Run.Turns
import InstancedAreas.Proofs.Sweep.Exactness

/-! Taking a census. As long as requests are made for players who are nowhere yet, the
answers tell what is live: as many instances as were answered to be created, and in them
just the players who were let in. A sweep then releases those instances whose deadline
has passed, and evicts all who are in them. -/
namespace InstancedAreas

/-- Letting in players who are not inside adds them to those who are. -/
theorem Occupants.players_insertAll_perm {o : Occupants} {players : List PlayerId}
    (once : players.Nodup) (outside : ∀ player ∈ players, player ∉ o.players) :
    (o.insertAll players).players.Perm (players ++ o.players) := by
  have apart : (players ++ o.players).Nodup :=
    List.nodup_append'.mpr ⟨once, o.players_nodup, fun _ new old => outside _ new old⟩
  refine (List.perm_ext_iff_of_nodup (Occupants.players_nodup _) apart).mpr fun player => ?_
  rw [mem_players, contains_insertAll, List.mem_append, Bool.or_eq_true, mem_players,
    List.contains_iff_mem]

/-- Everybody who is inside some instances. -/
def Instance.everybody (instances : List Instance) : List PlayerId :=
  instances.flatMap (·.occupants.players)

@[simp]
theorem Instance.everybody_nil : everybody [] = [] := rfl

/-- These are the live instances of a registry, and each is scheduled for teardown. -/
structure Registry.Census (r : Registry) (lives : List Instance) : Prop where
  keyed : r.Keyed
  covered : r.Covered
  once : lives.Nodup
  mem_iff : ∀ i, i ∈ lives ↔ r.Live i

namespace Turn

variable {turn : Turn} {lives : List Instance} {i j : Instance}

/-- An instance at a free place is counted with the others. -/
theorem Puts.census_of_free (puts : turn.Puts j) (census : turn.before.Census lives)
    (free : turn.before.instance? j.template j.key = none) : turn.after.Census (j :: lives) where
  keyed := Registry.perform_keyed census.keyed turn.now turn.op
  covered := Registry.perform_covered census.keyed turn.now turn.op census.covered
  once := by
    refine List.nodup_cons.mpr ⟨fun member => ?_, census.once⟩
    cases ((census.mem_iff j).mp member).symm.trans free
  mem_iff k := by
    rw [puts.live_iff, List.mem_cons, census.mem_iff]
    refine or_congr_right (iff_self_and.mpr fun live here => ?_)
    rw [Registry.Live, here.1, here.2] at live
    cases live.symm.trans free

/-- An instance is counted in place of the one that it was before. -/
theorem Puts.census_of_live (puts : turn.Puts j) (census : turn.before.Census lives)
    (member : i ∈ lives) (template : j.template = i.template) (key : j.key = i.key) :
    turn.after.Census (j :: lives.erase i) where
  keyed := Registry.perform_keyed census.keyed turn.now turn.op
  covered := Registry.perform_covered census.keyed turn.now turn.op census.covered
  once := by
    refine List.nodup_cons.mpr ⟨fun again => ?_, census.once.erase i⟩
    obtain ⟨differs, before⟩ := (census.once.mem_erase_iff).mp again
    exact differs (((census.mem_iff j).mp before).eq ((census.mem_iff i).mp member) template key)
  mem_iff k := by
    have live := (census.mem_iff i).mp member
    rw [puts.live_iff, List.mem_cons, census.once.mem_erase_iff, census.mem_iff, template, key]
    refine or_congr_right ⟨fun ⟨differs, there⟩ => ⟨there, fun here => ?_⟩,
      fun ⟨there, elsewhere⟩ => ⟨fun same => ?_, there⟩⟩
    · exact differs (there.eq live here.1 here.2)
    · exact elsewhere (same ▸ ⟨rfl, rfl⟩)

end Turn

/-- What a request of players who are nowhere yet adds to a census. -/
structure Instance.Grown (lives : List Instance) (r : Registry) (now : Instant) (request : Request)
    (answer : Except AdmissionError Admitted) (after : List Instance) : Prop where
  instances : after.length = lives.length + if answer.toOption.any (·.created) then 1 else 0
  players : (everybody after).Perm
    ((if answer.toOption.isSome then request.group else []) ++ everybody lives)
  /-- What is new ends a lifetime ahead. -/
  deadlines : ∀ j ∈ after, (∃ i ∈ lives, j.expiresAt = i.expiresAt) ∨
    ∃ t, r.template? request.template = some t ∧
      now.after? (request.lifetime t) = some j.expiresAt

namespace Registry

variable {r : Registry} {lives : List Instance}

theorem Census.granted {s : Registry} {now : Instant} {fresh : InstanceId} {request : Request}
    {a : Admitted} (census : r.Census lives) (entry : r.enter now fresh request = (s, .ok a))
    (granted : Granted r now fresh request s a)
    (outside : ∀ player ∈ request.group, player ∉ Instance.everybody lives) :
    ∃ after, s.Census after ∧ Instance.Grown lives r now request (.ok a) after := by
  have reached : (⟨r, now, .enter fresh request⟩ : Turn).after = s := congrArg Prod.fst entry
  have once : request.group.Nodup := Request.distinct_nodup ..
  cases granted with
  | joins pool i home target leads placed held ahead room =>
    let j : Instance := { i with occupants := i.occupants.insertAll request.group }
    obtain ⟨owner, -⟩ := (census.keyed _ pool home).2 i.key i held
    have member : i ∈ lives := (census.mem_iff i).mpr
      (instance?_eq_some_iff.mpr ⟨pool, owner ▸ home, held⟩)
    have puts : (⟨r, now, .enter fresh request⟩ : Turn).Puts j := by
      intro template key
      rw [reached, instance?_joined home, ← owner]
    have split := List.perm_cons_erase member
    have newcomers : ∀ player ∈ request.group, player ∉ i.occupants.players := fun player new old =>
      outside player new (List.mem_flatMap.mpr ⟨i, member, old⟩)
    refine ⟨j :: lives.erase i, reached ▸ puts.census_of_live census member rfl rfl, ?_, ?_, ?_⟩
    · exact split.length_eq.symm
    · have everybody : (Instance.everybody lives).Perm
          (i.occupants.players ++ Instance.everybody (lives.erase i)) :=
        split.flatMap_right _
      have grown := Occupants.players_insertAll_perm once newcomers
      exact ((grown.append_right _).trans (.of_eq (List.append_assoc ..))).trans
        (everybody.symm.append_left _)
    · intro k counted
      rcases List.mem_cons.mp counted with rfl | other
      · exact .inl ⟨i, member, rfl⟩
      · exact .inl ⟨k, List.mem_of_mem_erase other, rfl⟩
  | opens pool key deadline born home target leads placed free ends fits new =>
    let j : Instance := { born with occupants := born.occupants.insertAll request.group }
    subst new
    have puts : (⟨r, now, .enter fresh request⟩ : Turn).Puts j := by
      intro template key
      rw [reached, instance?_opened_joined home]
      rfl
    have vacant : r.instance? pool.template.id key = none := by
      rw [instance?, home]
      exact free
    refine ⟨j :: lives, reached ▸ puts.census_of_free census vacant, rfl, ?_, ?_⟩
    · have group : j.occupants.players.Perm (request.group ++ []) :=
        Occupants.players_insertAll_perm once fun _ _ => List.not_mem_nil
      rw [List.append_nil] at group
      exact group.append_right _
    · intro k counted
      rcases List.mem_cons.mp counted with rfl | other
      · refine .inr ⟨pool.template, ?_, ends⟩
        rw [target, template?, home]
        rfl
      · exact .inl ⟨k, other, rfl⟩

/-- A request of players who are nowhere yet adds what it is answered to the census. -/
theorem Census.enter (census : r.Census lives) (now : Instant) (fresh : InstanceId)
    {request : Request} (outside : ∀ player ∈ request.group, player ∉ Instance.everybody lives) :
    ∃ after, (r.enter now fresh request).1.Census after ∧
      Instance.Grown lives r now request (r.enter now fresh request).2 after := by
  rcases census.keyed.enter_cases now fresh request with
    ⟨error, refused, -⟩ | ⟨s, a, entry, granted⟩
  · rw [refused]
    exact ⟨lives, census, rfl, .refl _, fun j counted => .inl ⟨j, counted, rfl⟩⟩
  · rw [entry]
    exact census.granted entry granted outside

/-- A sweep releases what is due of a census, and evicts all who are in it. -/
theorem Census.sweep (census : r.Census lives) (now : Instant) (relocator : Relocator)
    (patience : Duration) :
    let due := lives.filter fun i => i.expiresAt ≤ now
    let report := (r.sweep now relocator patience).2.2
    report.released.length = due.length ∧ report.evicted = (Instance.everybody due).length := by
  intro due report
  obtain ⟨ended, deferred, tracks⟩ := census.keyed.reclaimDue_tracks now
  have same : ended.Perm due := by
    refine (List.perm_ext_iff_of_nodup tracks.once (census.once.filter _)).mpr fun i => ?_
    rw [census.covered.mem_ended_iff census.keyed tracks, List.mem_filter, census.mem_iff,
      decide_eq_true_eq, Live]
  have released : report.released = _ := tracks.released
  have evicted : report.evicted = (ended.flatMap Eviction.all).length :=
    congrArg List.length tracks.notices
  refine ⟨?_, ?_⟩
  · rw [released, List.length_map]
    exact same.length_eq
  · rw [evicted, Instance.everybody, (same.flatMap_right _).length_eq, List.length_flatMap,
      List.length_flatMap]
    simp [Eviction.all]

end Registry

end InstancedAreas
