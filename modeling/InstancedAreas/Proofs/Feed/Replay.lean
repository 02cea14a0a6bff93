import InstancedAreas.Proofs.Feed.Life

/-! The feed tells the truth. For every id it tells the life of one instance, or
nothing; whoever follows it knows which instances are live, where, and until
when; and while time does not go back, neither do its timestamps. A release on
request is announced with the reason that was given, whether or not that is why
the instance ends. -/
namespace InstancedAreas

/-- Where an instance is live, and until when. -/
structure Standing where
  template : TemplateId
  key : InstanceKey
  expiresAt : Instant
deriving DecidableEq

/-- Where this instance is live, and until when. -/
def Instance.standing (i : Instance) : Standing := ⟨i.template, i.key, i.expiresAt⟩

/-- What a follower of the feed knows after an event: an instance is written down
when it is created and crossed out when it is released. -/
def Event.note (known : Table InstanceId Standing) (event : Event) : Table InstanceId Standing :=
  match event.kind with
  | .created _ expiresAt =>
    known.insert event.instanceId ⟨event.template, event.key, expiresAt⟩
  | .released _ => known.erase event.instanceId
  | .admitted _ | .evicted .. => known

/-- What a follower knows after some events. -/
def Event.replay (events : List Event) : Table InstanceId Standing := events.foldl note .empty

/-- What becomes of the knowledge of one instance in an event of it. -/
def Event.remember (known : Option Standing) (event : Event) : Option Standing :=
  match event.kind with
  | .created _ expiresAt => some ⟨event.template, event.key, expiresAt⟩
  | .released _ => none
  | .admitted _ | .evicted .. => known

theorem Event.find?_note (known : Table InstanceId Standing) (event : Event) (id : InstanceId) :
    (note known event).find? id =
      if event.instanceId = id then remember (known.find? id) event else known.find? id := by
  cases kind : event.kind with
  | created destination expiresAt =>
    simp only [note, remember, kind, Table.find?_insert, eq_comm]
  | released reason => simp only [note, remember, kind, Table.find?_erase, eq_comm]
  | admitted | evicted => simp only [note, remember, kind, ite_self]

/-- What is known of an instance depends on its own events. -/
theorem Event.find?_replay (events : List Event) (id : InstanceId) :
    (replay events).find? id = (events.filter (·.instanceId = id)).foldl remember none := by
  have onward (known : Table InstanceId Standing) : (events.foldl note known).find? id =
      (events.filter (·.instanceId = id)).foldl remember (known.find? id) := by
    induction events generalizing known with
    | nil => rfl
    | cons event rest ih =>
      rw [List.foldl_cons, ih, find?_note, List.filter_cons]
      by_cases own : event.instanceId = id <;> simp [own]
  exact onward .empty

/-- Of a live instance it is known where it is. -/
theorem Alive.remembered {i : Instance} {told : List Announcement} (life : Alive i told) :
    (told.map Announcement.event).foldl Event.remember none = some i.standing := by
  induction life with
  | created turn t home given => rfl
  | admitted told turn players before some once outside ih =>
    rw [List.map_append, List.foldl_append, ih]
    rfl

/-- Of an instance that has ended nothing is known. -/
theorem Ending.forgotten {i : Instance} {last : List Announcement} (ending : Ending i last)
    (known : Option Standing) : (last.map Announcement.event).foldl Event.remember known = none := by
  cases ending with
  | swept turn =>
    rw [List.map_map, Instance.farewell, List.map_append, List.foldl_append]
    rfl
  | emptied | released => rfl

/-- The first that is announced of an instance is its deadline, and its release is
not announced while it is live. -/
theorem Alive.begins {i : Instance} {told : List Announcement} (life : Alive i told) :
    (∃ first ∈ told, ∃ destination, first.event.kind = .created destination i.expiresAt) ∧
      ∀ a ∈ told, ∀ reason, a.event.kind ≠ .released reason := by
  induction life with
  | created turn t home given =>
    refine ⟨⟨_, List.mem_singleton_self _, _, rfl⟩, ?_⟩
    intro a member reason
    rw [List.mem_singleton.mp member]
    exact nofun
  | admitted told turn players before some once outside ih =>
    obtain ⟨⟨first, member, begins⟩, unreleased⟩ := ih
    refine ⟨⟨first, List.mem_append_left _ member, begins⟩, ?_⟩
    intro a member reason
    rcases List.mem_append.mp member with old | new
    · exact unreleased a old reason
    · rw [List.mem_singleton.mp new]
      exact nofun

/-- An instance is released as expired no earlier than at its deadline, unless its
release for that reason was asked for. -/
theorem Ending.due {i : Instance} {last : List Announcement} (ending : Ending i last)
    {a : Announcement} (member : a ∈ last) (expired : a.event.kind = .released .expired)
    (unasked : ∀ template key, a.turn.op ≠ .release template key .expired) :
    i.expiresAt ≤ a.event.timestamp := by
  cases ending with
  | swept turn sweeps live due =>
    obtain ⟨event, inside, rfl⟩ := List.mem_map.mp member
    obtain ⟨kind, rfl⟩ := Instance.of_mem_farewell inside
    exact due
  | emptied turn t player =>
    rw [List.mem_singleton.mp member] at expired
    cases expired
  | released turn reason live asked =>
    rw [List.mem_singleton.mp member] at expired unasked
    obtain rfl : reason = .expired := Event.Kind.released.inj expired
    exact absurd asked (unasked i.template i.key)

namespace Biography

variable {r : Registry} {id : InstanceId} {told : List Announcement}

/-- Replaying a biography yields the instance if it is live, and nothing else. -/
theorem replay (biography : Biography r id told) {ids : List InstanceId} (apart : r.Apart ids)
    (standing : Standing) :
    (told.map Announcement.event).foldl Event.remember none = some standing ↔
      ∃ i, r.Live i ∧ i.id = id ∧ i.standing = standing := by
  have nobody (absent : r.Lacks id) : none = some standing ↔
      ∃ i, r.Live i ∧ i.id = id ∧ i.standing = standing := by
    constructor
    · intro known
      cases known
    · rintro ⟨i, live, same, -⟩
      exact absurd same (absent i live)
  cases biography with
  | unborn absent => exact nobody absent
  | alive i told same live life =>
    rw [life.remembered, Option.some.injEq]
    constructor
    · intro known
      exact ⟨i, live, same, known⟩
    · rintro ⟨j, other, own, known⟩
      rw [apart.eq_of_id live other (same.trans own.symm), known]
  | ended i told last same absent life ending =>
    rw [List.map_append, List.foldl_append, ending.forgotten]
    exact nobody absent

/-- What is announced as expired has reached the deadline that was announced
first, unless its release for that reason was asked for. -/
theorem due (biography : Biography r id told) {a : Announcement} (member : a ∈ told)
    (expired : a.event.kind = .released .expired)
    (unasked : ∀ template key, a.turn.op ≠ .release template key .expired) :
    ∃ first ∈ told, ∃ destination deadline,
      first.event.kind = .created destination deadline ∧ deadline ≤ a.event.timestamp := by
  cases biography with
  | unborn absent => cases member
  | alive i told same live life => exact absurd expired (life.begins.2 a member _)
  | ended i told last same absent life ending =>
    rcases List.mem_append.mp member with old | new
    · exact absurd expired (life.begins.2 a old _)
    · obtain ⟨⟨first, inside, destination, begins⟩, -⟩ := life.begins
      exact ⟨first, List.mem_append_left _ inside, destination, i.expiresAt, begins,
        ending.due new expired unasked⟩

end Biography

namespace Run

/-- Time does not go back from one operation to the next. -/
def Forward (run : Run) : Prop := run.Pairwise fun a b => a.1 ≤ b.1

instance (run : Run) : Decidable run.Forward := inferInstanceAs (Decidable (List.Pairwise _ _))

variable {templates : List Template} {buffer : Nat}

/-- What has been announced is what the turns announced. -/
theorem history_eq (run : Run) (templates : List Template) (buffer : Nat) :
    (run.result templates buffer).history = (run.turns templates buffer).flatMap Turn.events := by
  induction run using Run.induction with
  | nil => rfl
  | concat run now op ih =>
    have tells := ((⟨run.result templates buffer, now, op⟩ : Turn).tells
      (run.keyed templates buffer)).1
    rw [result_concat, tells, ih, turns_concat, List.flatMap_append, List.flatMap_singleton]

theorem about_eq (run : Run) (templates : List Template) (buffer : Nat) (id : InstanceId) :
    (run.about templates buffer id).map Announcement.event =
      (run.result templates buffer).history.filter (·.instanceId = id) := by
  rw [history_eq, about, List.map_flatMap, List.filter_flatMap]
  congr 1
  funext turn
  rw [Turn.about, List.map_map]
  exact List.map_id _

theorem turns_now (run : Run) (templates : List Template) (buffer : Nat) :
    (run.turns templates buffer).map Turn.now = run.map Prod.fst := by
  induction run using Run.induction with
  | nil => rfl
  | concat run now op ih => rw [turns_concat, List.map_append, ih, List.map_append]; rfl

/-- While time does not go back, neither do the timestamps of what is announced. -/
theorem timestamps_ascend {run : Run} (forward : run.Forward) (templates : List Template)
    (buffer : Nat) :
    (run.result templates buffer).history.Pairwise fun a b => a.timestamp ≤ b.timestamp := by
  have times : (run.turns templates buffer).Pairwise fun a b => a.now ≤ b.now := by
    rw [← List.pairwise_map (f := Turn.now), turns_now, List.pairwise_map]
    exact forward
  have stamped {turn : Turn} (member : turn ∈ run.turns templates buffer) {event : Event}
      (announced : event ∈ turn.events) : event.timestamp = turn.now :=
    ((Turn.tells (keyed_of_mem_turns member)).2 event announced).1
  rw [history_eq, List.pairwise_flatMap]
  refine ⟨fun turn member => ?_, times.imp_of_mem fun {one other} first second ordered => ?_⟩
  · refine List.pairwise_of_forall_mem_list fun a here b also => ?_
    rw [stamped member here, stamped member also]
    exact Int.le_refl _
  · intro a here b there
    rw [stamped first here, stamped second there]
    exact ordered

/-- In every run with fresh ids, whatever is done directly to the registry, what is
announced of an id is the life of one instance, or nothing: it is created, then
players come in who were not inside, and once it is gone it has ended by a sweep
with an eviction of each occupant, or without evictions because its last occupant
left where the template asks for its release then, or because its release was
asked for, with the reason given there. Replaying all that was announced yields
the live instances with their places and deadlines. While time does not go back,
timestamps do not decrease, and no instance is announced as expired before its
deadline unless that was asked for. -/
theorem feed_tells_the_truth {run : Run} (fresh : run.Fresh) (templates : List Template)
    (buffer : Nat) :
    let after := run.result templates buffer
    (∀ id, (run.about templates buffer id).map Announcement.event =
        after.history.filter (·.instanceId = id) ∧
      Biography after id (run.about templates buffer id)) ∧
    (∀ id standing, (Event.replay after.history).find? id = some standing ↔
      ∃ i, after.Live i ∧ i.id = id ∧ i.standing = standing) ∧
    (run.Forward → after.history.Pairwise fun a b => a.timestamp ≤ b.timestamp) ∧
    ∀ id, ∀ a ∈ run.about templates buffer id, a.event.kind = .released .expired →
      (∀ template key, a.turn.op ≠ .release template key .expired) →
        ∃ first ∈ run.about templates buffer id, ∃ destination deadline,
          first.event.kind = .created destination deadline ∧ deadline ≤ a.event.timestamp := by
  intro after
  have lives (id : InstanceId) : Biography after id (run.about templates buffer id) :=
    (biography fresh templates buffer id).1
  have apart : after.Apart [] := Run.apart fresh templates buffer
  refine ⟨fun id => ⟨run.about_eq templates buffer id, lives id⟩, fun id standing => ?_,
    fun forward => timestamps_ascend forward templates buffer, fun id a member expired unasked => ?_⟩
  · rw [Event.find?_replay, ← about_eq]
    exact (lives id).replay apart standing
  · exact (lives id).due member expired unasked

/-- A party of two is admitted and swept at the deadline of its instance. Both are
evicted before the release is announced, and who replays that knows that the
instance is gone. -/
theorem swept_party_is_told_to_its_end :
    let template := Template.exclusive "a" 100 "entry" (.ofSeconds 3600)
    let request := ((Request.new 1 900 "a").withParty 7 true).withCompanions [2]
    let late := (Instant.epoch.after? (.ofSeconds 3600)).getD .epoch
    let run : Run := [(.epoch, .enter (.ofNat 1) request), (late, .sweep)]
    let after := run.result [template] 16
    run.Fresh ∧ run.Forward ∧
      after.history.map Event.kind = [.created 100 late, .admitted [1, 2], .evicted 1 900,
        .evicted 2 900, .released .expired] ∧
      Biography after (.ofNat 1) (run.about [template] 16 (.ofNat 1)) ∧
      (Event.replay after.history).find? (.ofNat 1) = none ∧ after.Lacks (.ofNat 1) ∧
      after.history.Pairwise fun a b => a.timestamp ≤ b.timestamp := by
  intro template request late run after
  have fresh : run.Fresh := by decide
  have forward : run.Forward := by decide
  obtain ⟨lives, known, ascend, -⟩ := feed_tells_the_truth fresh [template] 16
  have unknown : (Event.replay after.history).find? (.ofNat 1) = none := by decide
  refine ⟨fresh, forward, by decide, (lives _).2, unknown, fun i live same => ?_, ascend forward⟩
  have found := (known (.ofNat 1) i.standing).mpr ⟨i, live, same, rfl⟩
  cases unknown.symm.trans found

/-- An instance with a player inside is released on request, with the reason of a
sweep and before its deadline. Nobody is evicted. -/
theorem release_for_the_reason_of_a_sweep_evicts_nobody :
    let template := Template.exclusive "a" 100 "entry" (.ofSeconds 3600)
    let entry : Run := [(.epoch, .create (.ofNat 1) "a" (.party 7) (.ofSeconds 3600) 900),
      (.epoch, .addOccupants "a" (.party 7) [1])]
    let run : Run := entry ++ [(.epoch, .release "a" (.party 7) .expired)]
    run.Fresh ∧ run.Forward ∧ ∃ i, (entry.result [template] 16).Live i ∧
      i.occupants.players = [1] ∧ Instant.epoch < i.expiresAt ∧
      (run.result [template] 16).history.filter (·.instanceId = i.id) =
        [.of i .epoch (.created 100 i.expiresAt), .of i .epoch (.admitted [1]),
          .of i .epoch (.released .expired)] := by
  intro template entry run
  obtain ⟨i, found⟩ : ∃ i, (entry.result [template] 16).instance? "a" (.party 7) = some i :=
    Option.isSome_iff_exists.mp (by decide)
  have shown : ((entry.result [template] 16).instance? "a" (.party 7)).all fun i =>
      i.occupants.players = [1] ∧ Instant.epoch < i.expiresAt ∧
      (run.result [template] 16).history.filter (·.instanceId = i.id) =
        [.of i .epoch (.created 100 i.expiresAt), .of i .epoch (.admitted [1]),
          .of i .epoch (.released .expired)] := by decide
  rw [found] at shown
  exact ⟨by decide, by decide, i, (entry.keyed [template] 16).found_in_place found,
    by simpa using shown⟩

end Run

end InstancedAreas
