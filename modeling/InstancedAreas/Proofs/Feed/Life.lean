import InstancedAreas.Proofs.Run.Turns
import InstancedAreas.Proofs.Sweep.Coverage

/-! The life of an instance as it is announced. It is created; players come in
who were not inside; and it ends by a sweep that evicts its occupants, because
its last occupant leaves, or on request. Each turn takes up the life of an
instance where the turn before left it. -/
namespace InstancedAreas

/-- An event with the turn in which it is announced. -/
structure Announcement where
  turn : Turn
  event : Event

/-- No instance with an id is live. -/
def Registry.Lacks (r : Registry) (id : InstanceId) : Prop := ∀ i, r.Live i → i.id ≠ id

/-- A player is in no live instance with an id. -/
def Registry.Outside (r : Registry) (id : InstanceId) (player : PlayerId) : Prop :=
  ∀ i, r.Live i → i.id = id → i.occupants.contains player = false

/-- What is announced of an instance while it is live: that it is created, and
then of some players each time that they come in, none of them twice and none who
was inside. -/
inductive Alive (i : Instance) : List Announcement → Prop where
  | created (turn : Turn) (t : Template) (home : turn.before.template? i.template = some t)
      (given : turn.op.fresh? = some i.id) :
      Alive i [⟨turn, .of i turn.now (.created t.destination i.expiresAt)⟩]
  | admitted (told : List Announcement) (turn : Turn) (players : List PlayerId)
      (before : Alive i told) (some : players ≠ []) (once : players.Nodup)
      (outside : ∀ player ∈ players, turn.before.Outside i.id player) :
      Alive i (told ++ [⟨turn, .of i turn.now (.admitted players)⟩])

/-- What is announced when an instance ends, with the occupants that it has. -/
inductive Ending (i : Instance) : List Announcement → Prop where
  /-- A sweep evicts its occupants and releases it. -/
  | swept (turn : Turn) (sweeps : turn.op.isSweep = true) (live : turn.before.Live i)
      (due : i.expiresAt ≤ turn.now) :
      Ending i ((i.farewell turn.now).map fun event => ⟨turn, event⟩)
  /-- Its only occupant leaves, and the template asks for its release. -/
  | emptied (turn : Turn) (t : Template) (player : PlayerId)
      (home : turn.before.template? i.template = some t) (policy : t.release = .whenEmpty)
      (out : turn.op.TakesOut i player) (live : turn.before.Live i)
      (alone : i.occupants.players = [player]) :
      Ending i [⟨turn, .of i turn.now (.released .emptied)⟩]
  /-- It is released on request, for the reason that is given there. -/
  | released (turn : Turn) (reason : ReleaseReason) (live : turn.before.Live i)
      (asked : turn.op = .release i.template i.key reason) :
      Ending i [⟨turn, .of i turn.now (.released reason)⟩]

/-- All that has been announced of the instance with an id. -/
inductive Biography (r : Registry) (id : InstanceId) : List Announcement → Prop where
  /-- There has been no such instance. -/
  | unborn (absent : r.Lacks id) : Biography r id []
  | alive (i : Instance) (told : List Announcement) (same : i.id = id) (live : r.Live i)
      (life : Alive i told) : Biography r id told
  /-- Nothing is announced after the end. -/
  | ended (i : Instance) (told last : List Announcement) (same : i.id = id)
      (absent : r.Lacks id) (life : Alive i told) (ending : Ending i last) :
      Biography r id (told ++ last)

/-- What is announced of an instance does not tell who is inside. -/
theorem Alive.with_occupants {i : Instance} {told : List Announcement} (life : Alive i told)
    (occupants : Occupants) : Alive { i with occupants } told := by
  induction life with
  | created turn t home given => exact .created turn t home given
  | admitted told turn players before some once outside ih =>
    exact .admitted told turn players ih some once outside

theorem Alive.ne_nil {i : Instance} {told : List Announcement} (life : Alive i told) :
    told ≠ [] := by
  cases life <;> simp

/-- In registries with the same instances of an id, its biography is the same. -/
theorem Biography.of_same {r s : Registry} {id : InstanceId} {told : List Announcement}
    (biography : Biography r id told) (same : ∀ i, i.id = id → (s.Live i ↔ r.Live i)) :
    Biography s id told := by
  have lacks (absent : r.Lacks id) : s.Lacks id := fun i live here =>
    absent i ((same i here).mp live) here
  cases biography with
  | unborn absent => exact .unborn (lacks absent)
  | alive i told here live life => exact .alive i told here ((same i here).mpr live) life
  | ended i told last here absent life ending =>
    exact .ended i told last here (lacks absent) life ending

/-- Where ids are apart, an instance is known by its id. -/
theorem Registry.Apart.eq_of_id {r : Registry} {ids : List InstanceId} (apart : r.Apart ids)
    {i j : Instance} (live : r.Live i) (other : r.Live j) (same : i.id = j.id) : i = j := by
  obtain ⟨template, key⟩ := apart.2 _ _ i _ _ j live other same
  exact live.eq other template key

/-- The biography of a live instance is that of one that is alive. -/
theorem Biography.life {r : Registry} {ids : List InstanceId} {i : Instance}
    {told : List Announcement} (biography : Biography r i.id told) (apart : r.Apart ids)
    (live : r.Live i) : Alive i told := by
  generalize given : i.id = id at biography
  cases biography with
  | unborn absent => exact absurd given (absent i live)
  | alive j told same liveJ life =>
    obtain rfl := apart.eq_of_id live liveJ (given.trans same.symm)
    exact life
  | ended j told last same absent life ending => exact absurd given (absent i live)

/-- Where nothing has been announced there is no instance. -/
theorem Biography.lacks {r : Registry} {id : InstanceId} (biography : Biography r id []) :
    r.Lacks id := by
  generalize none : [] = told at biography
  cases biography with
  | unborn absent => exact absent
  | alive i told same live life => exact absurd none.symm life.ne_nil
  | ended i told last same absent => exact absent

namespace Turn

variable {turn : Turn} {i : Instance} {id : InstanceId} {events : List Event}
  {told : List Announcement}

/-- What is announced in a turn of the instance with an id. -/
def about (turn : Turn) (id : InstanceId) : List Announcement :=
  (turn.events.filter (·.instanceId = id)).map fun event => ⟨turn, event⟩

theorem Tells.about_own (tells : turn.Tells events) (own : ∀ event ∈ events, event.instanceId = id) :
    turn.about id = events.map fun event => ⟨turn, event⟩ := by
  rw [about, tells.events_eq, List.filter_eq_self.mpr (by simpa using own)]

theorem Tells.about_other (tells : turn.Tells events)
    (others : ∀ event ∈ events, event.instanceId ≠ id) : turn.about id = [] := by
  rw [about, tells.events_eq, List.filter_eq_nil_iff.mpr (by simpa using others), List.map_nil]

theorem Tells.about_elsewhere (tells : turn.Tells events)
    (own : ∀ event ∈ events, event.instanceId = i.id) (other : id ≠ i.id) : turn.about id = [] := by
  apply tells.about_other
  intro event member
  rw [own event member]
  exact other.symm

end Turn

/-- Players who come in, if there are any, are added to the life of an instance. -/
theorem Alive.welcome {i : Instance} {told : List Announcement} (life : Alive i told) {turn : Turn}
    (occupants : Occupants) (players : List PlayerId)
    (outside : ∀ player, occupants.contains player = false → turn.before.Outside i.id player) :
    Alive i (told ++ (i.welcome turn.now (occupants.enterAll players).2).map fun event =>
      ⟨turn, event⟩) := by
  simp only [Instance.welcome]
  split
  · simpa using life
  · rename_i some
    refine .admitted told turn _ life (by simpa using some) (occupants.entered_nodup players) ?_
    exact fun player member => outside player (Occupants.mem_entered.mp member).2

namespace Turn

variable {turn : Turn} {i j : Instance} {id : InstanceId} {events : List Event}
  {told : List Announcement} {ids : List InstanceId}

theorem Puts.live_other {occupants : Occupants} (puts : turn.Puts { i with occupants })
    (own : ∀ j, turn.before.Live j → j.template = i.template → j.key = i.key → j.id = i.id)
    (other : j.id ≠ i.id) : turn.after.Live j ↔ turn.before.Live j := by
  rw [puts.live_iff]
  constructor
  · rintro (rfl | ⟨before, -⟩)
    · exact absurd rfl other
    · exact before
  · intro live
    refine .inr ⟨live, ?_⟩
    rintro ⟨template, key⟩
    exact other (own j live template key)

theorem Frees.live_other (frees : turn.Frees i) (found : turn.before.Live i)
    (other : j.id ≠ i.id) : turn.after.Live j ↔ turn.before.Live j := by
  rw [frees.live_iff]
  constructor
  · exact And.left
  · intro live
    refine ⟨live, ?_⟩
    rintro ⟨template, key⟩
    exact other (by rw [live.eq found template key])

/-- A turn that changes the occupants of an instance takes up its life. -/
theorem biography_of_change {occupants : Occupants} (apart : turn.before.Apart ids)
    (found : turn.before.Live i) (puts : turn.Puts { i with occupants })
    (tells : turn.Tells events) (own : ∀ event ∈ events, event.instanceId = i.id)
    (onward : ∀ told, Alive i told → Alive i (told ++ events.map fun event => ⟨turn, event⟩))
    (before : Biography turn.before id told) :
    Biography turn.after id (told ++ turn.about id) := by
  by_cases here : id = i.id
  · subst here
    rw [tells.about_own own]
    exact .alive { i with occupants } _ rfl (puts.live_iff.mpr (.inl rfl))
      ((onward told (before.life apart found)).with_occupants occupants)
  · rw [tells.about_elsewhere own here, List.append_nil]
    apply before.of_same
    rintro j rfl
    apply puts.live_other _ here
    intro k live template key
    rw [live.eq found template key]

/-- A turn that ends one instance ends its life. -/
theorem biography_of_end (apart : turn.before.Apart ids) (found : turn.before.Live i)
    (frees : turn.Frees i) (tells : turn.Tells events)
    (own : ∀ event ∈ events, event.instanceId = i.id)
    (ending : Ending i (events.map fun event => ⟨turn, event⟩))
    (before : Biography turn.before id told) :
    Biography turn.after id (told ++ turn.about id) := by
  by_cases here : id = i.id
  · subst here
    rw [tells.about_own own]
    have absent : turn.after.Lacks i.id := by
      intro j live same
      obtain ⟨live, elsewhere⟩ := frees.live_iff.mp live
      rw [apart.eq_of_id live found same] at elsewhere
      exact elsewhere ⟨rfl, rfl⟩
    exact .ended i told _ rfl absent (before.life apart found) ending
  · rw [tells.about_elsewhere own here, List.append_nil]
    apply before.of_same
    rintro j rfl
    exact frees.live_other found here

/-- A turn that opens an instance begins its life. -/
theorem biography_of_opening {t : Template} {players : List PlayerId}
    (home : turn.before.template? i.template = some t)
    (free : turn.before.instance? i.template i.key = none)
    (given : turn.op.fresh? = some i.id)
    (puts : turn.Puts { i with occupants := i.occupants.insertAll players })
    (tells : turn.Tells (.of i turn.now (.created t.destination i.expiresAt) ::
      i.welcome turn.now (i.occupants.enterAll players).2))
    (unused : turn.op.fresh? = some id → told = []) (before : Biography turn.before id told) :
    Biography turn.after id (told ++ turn.about id) := by
  have own : ∀ event ∈ Event.of i turn.now (.created t.destination i.expiresAt) ::
      i.welcome turn.now (i.occupants.enterAll players).2, event.instanceId = i.id := by
    intro event member
    rcases List.mem_cons.mp member with rfl | entered
    · rfl
    · exact Instance.id_of_welcome entered
  by_cases here : id = i.id
  · subst here
    obtain rfl := unused given
    rw [tells.about_own own]
    have outside (player : PlayerId) (_ : i.occupants.contains player = false) :
        turn.before.Outside i.id player := by
      intro j live same
      exact absurd same (before.lacks j live)
    have life := (Alive.created turn t home given).welcome i.occupants players outside
    exact .alive { i with occupants := i.occupants.insertAll players } _ rfl
      (puts.live_iff.mpr (.inl rfl)) (life.with_occupants _)
  · rw [tells.about_elsewhere own here, List.append_nil]
    apply before.of_same
    rintro j rfl
    apply puts.live_other _ here
    intro k live template key
    rw [Registry.Live, template, key] at live
    cases live.symm.trans free

/-- The farewells of instances are about each of them in turn. -/
theorem about_of_farewells {ended : List Instance} (apart : turn.before.Apart ids)
    (once : ended.Nodup) (live : ∀ i ∈ ended, turn.before.Live i)
    (tells : turn.Tells (ended.flatMap (·.farewell turn.now))) (member : i ∈ ended) :
    turn.about i.id = (i.farewell turn.now).map fun event => ⟨turn, event⟩ := by
  obtain ⟨early, late, rfl⟩ := List.append_of_mem member
  -- Two instances with one id would be one, and none ends twice.
  have silent {part : List Instance} (others : ∀ j ∈ part, turn.before.Live j ∧ j ≠ i) :
      (part.flatMap (·.farewell turn.now)).filter (·.instanceId = i.id) = [] := by
    refine List.filter_eq_nil_iff.mpr fun event announced same => ?_
    obtain ⟨j, inside, own⟩ := List.mem_flatMap.mp announced
    have id : j.id = i.id := (Instance.id_of_farewell own).symm.trans (by simpa using same)
    exact (others j inside).2 (apart.eq_of_id (others j inside).1 (live i member) id)
  obtain ⟨-, onceLate, clear⟩ := List.nodup_append.mp once
  have before := silent fun j inside =>
    ⟨live j (List.mem_append_left _ inside), clear j inside i (List.mem_cons_self ..)⟩
  have after := silent fun j inside =>
    ⟨live j (List.mem_append_right _ (List.mem_cons_of_mem _ inside)), fun same : j = i =>
      (List.nodup_cons.mp onceLate).1 (same ▸ inside)⟩
  have own : (i.farewell turn.now).filter (·.instanceId = i.id) = i.farewell turn.now :=
    List.filter_eq_self.mpr fun event inside => by simpa using Instance.id_of_farewell inside
  rw [about, tells.events_eq, List.flatMap_append, List.flatMap_cons, List.filter_append,
    List.filter_append, before, after, own, List.nil_append, List.append_nil]

/-- Each turn takes up every life where it was left. -/
theorem biography (keyed : turn.before.Keyed) (apart : turn.before.Apart ids)
    (unused : turn.op.fresh? = some id → told = []) (before : Biography turn.before id told) :
    Biography turn.after id (told ++ turn.about id) := by
  have outside {i : Instance} (live : turn.before.Live i) (player : PlayerId)
      (absent : i.occupants.contains player = false) : turn.before.Outside i.id player := by
    intro j other same
    rw [apart.eq_of_id other live same, absent]
  cases turn.outcome keyed with
  | quiet still tells =>
    rw [tells.about_other (List.forall_mem_nil _), List.append_nil]
    exact before.of_same fun i _ => by rw [Registry.Live, still, Registry.Live]
  | joined i players found puts tells =>
    exact biography_of_change apart found puts tells (fun _ => Instance.id_of_welcome)
      (fun told life => life.welcome i.occupants players (outside found)) before
  | opened t born players home free given empty puts tells =>
    exact biography_of_opening home free given puts tells unused before
  | left t i player home found out stays puts tells =>
    exact biography_of_change apart found puts tells (List.forall_mem_nil _)
      (fun told life => by simpa using life) before
  | emptied t i player home found out inside last policy frees tells =>
    exact biography_of_end apart found frees tells (by simp [Event.of])
      (.emptied turn t player home policy out found (Occupants.eq_singleton inside last)) before
  | released i reason found asked frees tells =>
    exact biography_of_end apart found frees tells (by simp [Event.of])
      (.released turn reason found asked) before
  | swept ended sweeps once due live tells =>
    -- A sweep ends many instances, and at most one of them has the id.
    by_cases here : ∃ i ∈ ended, i.id = id
    · obtain ⟨i, member, rfl⟩ := here
      have found := (due i member).1
      rw [about_of_farewells apart once (fun j inside => (due j inside).1) tells member]
      have absent : turn.after.Lacks i.id := by
        intro j after same
        obtain ⟨stays, left⟩ := (live j).mp after
        exact left (apart.eq_of_id stays found same ▸ member)
      exact .ended i told _ rfl absent (before.life apart found)
        (.swept turn sweeps found (due i member).2)
    · have others : ∀ event ∈ ended.flatMap (·.farewell turn.now), event.instanceId ≠ id := by
        intro event announced same
        obtain ⟨i, member, own⟩ := List.mem_flatMap.mp announced
        exact here ⟨i, member, (Instance.id_of_farewell own).symm.trans same⟩
      rw [tells.about_other others, List.append_nil]
      apply before.of_same
      intro i same
      rw [live]
      exact and_iff_left fun member => here ⟨i, member, same⟩

/-- What is announced in a turn comes behind all that was announced before. It is
stamped with the time of the turn, and it is about an instance that was live or
has the id that the turn was given. -/
theorem tells (keyed : turn.before.Keyed) :
    turn.Tells turn.events ∧ ∀ event ∈ turn.events, event.timestamp = turn.now ∧
      ((∃ i, turn.before.Live i ∧ i.id = event.instanceId) ∨
        turn.op.fresh? = some event.instanceId) := by
  have of_live {i : Instance} {events : List Event} (tells : turn.Tells events)
      (found : turn.before.Live i) (own : ∀ event ∈ events, ∃ kind, event = .of i turn.now kind) :
      turn.Tells turn.events ∧ ∀ event ∈ turn.events, event.timestamp = turn.now ∧
        ((∃ i, turn.before.Live i ∧ i.id = event.instanceId) ∨
          turn.op.fresh? = some event.instanceId) := by
    rw [tells.events_eq]
    refine ⟨tells, fun event member => ?_⟩
    obtain ⟨kind, rfl⟩ := own event member
    exact ⟨rfl, .inl ⟨i, found, rfl⟩⟩
  cases turn.outcome keyed with
  | quiet still tells =>
    rw [tells.events_eq]
    exact ⟨tells, List.forall_mem_nil _⟩
  | joined i players found puts tells =>
    exact of_live tells found fun _ => Instance.of_mem_welcome
  | opened t born players home free given empty puts tells =>
    rw [tells.events_eq]
    refine ⟨tells, fun event member => ?_⟩
    obtain ⟨kind, rfl⟩ : ∃ kind, event = .of born turn.now kind := by
      rcases List.mem_cons.mp member with rfl | entered
      · exact ⟨_, rfl⟩
      · exact Instance.of_mem_welcome entered
    exact ⟨rfl, .inr given⟩
  | left t i player home found out stays puts tells =>
    exact of_live tells found (List.forall_mem_nil _)
  | emptied t i player home found out inside last policy frees tells =>
    exact of_live tells found fun event member => ⟨_, List.mem_singleton.mp member⟩
  | released i reason found asked frees tells =>
    exact of_live tells found fun event member => ⟨_, List.mem_singleton.mp member⟩
  | swept ended sweeps once due live tells =>
    rw [tells.events_eq]
    refine ⟨tells, fun event announced => ?_⟩
    obtain ⟨i, member, own⟩ := List.mem_flatMap.mp announced
    obtain ⟨kind, rfl⟩ := Instance.of_mem_farewell own
    exact ⟨rfl, .inl ⟨i, (due i member).1, rfl⟩⟩

/-- What is announced in a turn of an id is about an instance that was live, or the
id was given to the turn. -/
theorem known_of_about (keyed : turn.before.Keyed) (told : turn.about id ≠ []) :
    (∃ i, turn.before.Live i ∧ i.id = id) ∨ turn.op.fresh? = some id := by
  obtain ⟨announcement, member⟩ := List.exists_mem_of_ne_nil _ told
  obtain ⟨event, here, -⟩ := List.mem_map.mp member
  obtain ⟨announced, same⟩ := List.mem_filter.mp here
  obtain rfl : event.instanceId = id := by simpa using same
  exact ((turn.tells keyed).2 event announced).2

end Turn

namespace Run

variable {templates : List Template} {buffer : Nat}

/-- What is announced in a run of the instance with an id. -/
def about (run : Run) (templates : List Template) (buffer : Nat) (id : InstanceId) :
    List Announcement :=
  (run.turns templates buffer).flatMap (·.about id)

theorem about_append (run more : Run) (id : InstanceId) :
    (run ++ more).about templates buffer id = run.about templates buffer id ++
      ((run.result templates buffer).turns more).flatMap (·.about id) := by
  rw [about, turns_append, List.flatMap_append, about]

theorem about_concat (run : Run) (now : Instant) (op : Operation) (id : InstanceId) :
    Run.about (run ++ [(now, op)]) templates buffer id = run.about templates buffer id ++
      (⟨run.result templates buffer, now, op⟩ : Turn).about id := by
  rw [about_append, Registry.turns, Registry.turns, List.flatMap_singleton]

/-- Where ids are fresh, what a run announces are lives of instances, all with ids
that it was given. -/
theorem biography {run : Run} (fresh : run.Fresh) (templates : List Template) (buffer : Nat)
    (id : InstanceId) :
    Biography (run.result templates buffer) id (run.about templates buffer id) ∧
      (run.about templates buffer id ≠ [] → id ∈ run.ids) := by
  induction run using Run.induction with
  | nil =>
    refine ⟨.unborn fun i live => ?_, fun told => absurd rfl told⟩
    exact absurd live (Registry.not_live_ofTemplates templates buffer i)
  | concat run now op ih =>
    rw [Fresh, ids_concat] at fresh
    obtain ⟨freshBefore, -, apart⟩ := List.nodup_append.mp fresh
    obtain ⟨before, known⟩ := ih freshBefore
    let turn : Turn := ⟨run.result templates buffer, now, op⟩
    have keyed : turn.before.Keyed := run.keyed templates buffer
    have distinct : turn.before.Apart [] := Run.apart freshBefore templates buffer
    rw [result_concat, about_concat, ids_concat]
    have unused : turn.op.fresh? = some id → run.about templates buffer id = [] := by
      intro given
      by_contra told
      exact apart id (known told) id (by simp [show op.fresh? = _ from given]) rfl
    refine ⟨turn.biography keyed distinct unused before, ?_⟩
    · intro told
      rw [List.mem_append]
      by_cases old : run.about templates buffer id = []
      · rw [old, List.nil_append] at told
        rcases turn.known_of_about keyed told with ⟨i, live, rfl⟩ | given
        · exact absurd old (before.life distinct live).ne_nil
        · exact .inr (by simp [show op.fresh? = _ from given])
      · exact .inl (known old)

end Run

end InstancedAreas
