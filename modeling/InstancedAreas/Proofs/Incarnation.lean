import InstancedAreas.Proofs.Run.Turns

/-! Incarnations and their admissions. Of the admissions that name one instance
the first creates it and no other does. Where instances belong to parties, those
of one party name one instance for as long as its release is not announced, in
whatever order parties, players and sweeps take their turns. -/
namespace InstancedAreas

/-- An answer names the instance with an id. -/
def Admitted.names (a : Admitted) (id : InstanceId) : Bool := a.handle.any (·.instanceId = id)

theorem Admitted.names_iff {a : Admitted} {id : InstanceId} :
    a.names id = true ↔ ∃ i, a.instance? = some i ∧ i.id = id := by
  cases named : a.instance? <;> simp [names, handle, named]

theorem Admitted.handle_eq_some_iff {a : Admitted} {handle : Handle} :
    a.handle = some handle ↔ ∃ i, a.instance? = some i ∧ ⟨i.template, i.key, i.id⟩ = handle := by
  simp [Admitted.handle]

/-- The answers of a run to requests that were granted, in order. -/
def Run.answers (run : Run) (templates : List Template) (buffer : Nat) : List Admitted :=
  (run.turns templates buffer).filterMap Turn.answer?

/-- If there are answers, the first says that it created the instance, and no
other does. -/
def Admitted.CreatedFirst (answers : List Admitted) : Prop :=
  answers = [] ∨ ∃ first rest, answers = first :: rest ∧ first.created = true ∧
    ∀ a ∈ rest, a.created = false

theorem Admitted.CreatedFirst.concat {answers : List Admitted} {a : Admitted}
    (before : CreatedFirst answers) (joins : a.created = false) (some : answers ≠ []) :
    CreatedFirst (answers ++ [a]) := by
  rcases before with none | ⟨first, rest, rfl, created, others⟩
  · exact absurd none some
  · refine .inr ⟨first, rest ++ [a], rfl, created, fun b member => ?_⟩
    rcases List.mem_append.mp member with old | new
    · exact others b old
    · rw [List.mem_singleton.mp new, joins]

namespace Turn

variable {turn : Turn} {a : Admitted} {i : Instance}

/-- A request is granted in a turn, and the answer has this handle. -/
def Grants (turn : Turn) (request : Request) (handle : Handle) : Prop :=
  turn.op.request? = some request ∧ ∃ a, turn.answer? = some a ∧ a.handle = some handle

/-- What an answer names was live before, or was created with the id that the
request was given. -/
theorem answered_cases (keyed : turn.before.Keyed) (answered : turn.answer? = some a)
    (named : a.instance? = some i) :
    ∃ request, turn.Admits request i a.created ∧ turn.after.Live i ∧
      (a.created = false ∧ turn.before.Holds i ∨
        a.created = true ∧ turn.op.fresh? = some i.id ∧
          turn.before.instance? i.template i.key = none) := by
  have mine {request : Request} {j : Instance} {created : Bool}
      (admits : turn.Admits request j created) : j = i ∧ created = a.created := by
    obtain ⟨b, same, jNamed, rfl⟩ := admits.answered
    cases answered.symm.trans same
    cases named.symm.trans jNamed
    exact ⟨rfl, rfl⟩
  have unanswered {P : Prop} (unasked : turn.op.request? = none) : P := by
    cases answered.symm.trans (answer?_of_no_request unasked)
  cases turn.outcome keyed with
  | quiet still tells alone => cases named.symm.trans (alone a answered)
  | joined j players found puts tells way =>
    rcases way with direct | ⟨request, rfl, admits⟩
    · exact unanswered (Operation.request?_of_isDirect direct)
    · obtain ⟨rfl, created⟩ := mine admits
      exact ⟨request, created ▸ admits, puts.live_iff.mpr (.inl rfl),
        .inl ⟨created.symm, j.occupants, found⟩⟩
  | opened t born players home free given empty puts tells way =>
    rcases way with ⟨creates, rfl⟩ | ⟨request, rfl, admits⟩
    · exact unanswered (Operation.request?_of_isDirect (Operation.isDirect_of_isCreate creates))
    · obtain ⟨rfl, created⟩ := mine admits
      exact ⟨request, created ▸ admits, puts.live_iff.mpr (.inl rfl),
        .inr ⟨created.symm, given, free⟩⟩
  | left t j player home found out | emptied t j player home found out =>
    exact unanswered out.request?
  | released j reason found asked => exact unanswered (by rw [asked]; rfl)
  | swept ended sweeps => exact unanswered (Operation.request?_of_isSweep sweeps)

/-- A handle stands for an instance that was live before or had a free place, and
that is live now. Where instances belong to parties its key is that of the
request. -/
theorem Grants.found {request : Request} {handle : Handle} (grants : turn.Grants request handle)
    (keyed : turn.before.Keyed) :
    ∃ i, ⟨i.template, i.key, i.id⟩ = handle ∧ turn.after.Live i ∧
      (turn.before.Holds i ∨ turn.before.instance? i.template i.key = none) ∧
      ∀ t, turn.before.template? i.template = some t → t.isExclusive = true →
        i.key = request.ownKey := by
  obtain ⟨asked, a, answered, named⟩ := grants
  obtain ⟨i, same, own⟩ := Admitted.handle_eq_some_iff.mp named
  obtain ⟨other, admits, live, how⟩ := answered_cases keyed answered same
  cases asked.symm.trans admits.asked
  exact ⟨i, own, live, how.imp And.right fun opened => opened.2.2,
    fun t known exclusive => (admits.own t known exclusive).2⟩

/-- What is live was live before, or is what a request was answered with. -/
theorem live_before_or_answered (keyed : turn.before.Keyed) (admits : turn.op.isCreate = false)
    (live : turn.after.Live i) :
    turn.before.Holds i ∨ ∃ a, turn.answer? = some a ∧ a.names i.id = true := by
  cases turn.origin keyed live with
  | stayed before => exact .inl before.holds
  | joined j players found same =>
    subst same
    exact .inl ⟨j.occupants, found⟩
  | opened players only way =>
    rcases way with ⟨creates, -⟩ | ⟨request, -, admitted⟩
    · cases creates.symm.trans admits
    · obtain ⟨a, answered, named, -⟩ := admitted.answered
      exact .inr ⟨a, answered, Admitted.names_iff.mpr ⟨_, named, rfl⟩⟩
  | left t j player home found same =>
    subst same
    exact .inl ⟨j.occupants, found⟩

/-- A turn adds nothing or one answer to those that name an instance. -/
theorem answer_naming (turn : Turn) (id : InstanceId) :
    turn.answer?.toList.filter (·.names id) = [] ∨
      ∃ a i, turn.answer? = some a ∧ a.instance? = some i ∧ i.id = id ∧
        turn.answer?.toList.filter (·.names id) = [a] := by
  cases answered : turn.answer? with
  | none => exact .inl rfl
  | some a =>
    by_cases named : a.names id = true
    · obtain ⟨i, same, here⟩ := Admitted.names_iff.mp named
      exact .inr ⟨a, i, rfl, same, here, by simp [named]⟩
    · exact .inl (by simp [named])

end Turn

/-- Every live instance has been named, what has been named has an id that was
given, and of all answers that name an instance the first created it. -/
structure Accounted (r : Registry) (ids : List InstanceId) (answers : List Admitted) : Prop where
  live : ∀ i, r.Live i → answers.filter (·.names i.id) ≠ []
  given : ∀ id, answers.filter (·.names id) ≠ [] → id ∈ ids
  first : ∀ id, Admitted.CreatedFirst (answers.filter (·.names id))

theorem Accounted.held {r : Registry} {ids : List InstanceId} {answers : List Admitted}
    (accounted : Accounted r ids answers) {i : Instance} (holds : r.Holds i) :
    answers.filter (·.names i.id) ≠ [] := by
  obtain ⟨occupants, live⟩ := holds
  exact accounted.live { i with occupants } live

/-- A turn that opens an instance for a request only, with an id that was not given
before, is accounted for. -/
theorem Accounted.turn {turn : Turn} {ids : List InstanceId} {answers : List Admitted}
    (accounted : Accounted turn.before ids answers) (keyed : turn.before.Keyed)
    (admits : turn.op.isCreate = false) (unused : ∀ id, turn.op.fresh? = some id → id ∉ ids) :
    Accounted turn.after (ids ++ turn.op.fresh?.toList) (answers ++ turn.answer?.toList) := by
  refine ⟨fun i live => ?_, fun id named => ?_, fun id => ?_⟩
  · rw [List.filter_append]
    rcases turn.live_before_or_answered keyed admits live with holds | ⟨a, answered, named⟩
    · exact List.append_ne_nil_of_left_ne_nil (accounted.held holds) _
    · exact List.append_ne_nil_of_right_ne_nil _ (by simp [answered, named])
  · rw [List.filter_append] at named
    rw [List.mem_append]
    rcases turn.answer_naming id with none | ⟨a, i, answered, same, rfl, -⟩
    · rw [none, List.append_nil] at named
      exact .inl (accounted.given id named)
    · obtain ⟨-, -, -, ⟨-, holds⟩ | ⟨-, given, -⟩⟩ := Turn.answered_cases keyed answered same
      · exact .inl (accounted.given _ (accounted.held holds))
      · exact .inr (by simp [given])
  · rw [List.filter_append]
    rcases turn.answer_naming id with none | ⟨a, i, answered, same, rfl, one⟩
    · rw [none, List.append_nil]
      exact accounted.first id
    · rw [one]
      obtain ⟨-, -, -, ⟨joins, holds⟩ | ⟨creates, given, -⟩⟩ :=
        Turn.answered_cases keyed answered same
      · exact (accounted.first i.id).concat joins (accounted.held holds)
      -- The id is new, so that no answer before names it.
      · have none : answers.filter (·.names i.id) = [] := by
          by_contra named
          exact unused _ given (accounted.given _ named)
        exact .inr ⟨a, [], by rw [none]; rfl, creates, List.forall_mem_nil _⟩

/-- As long as the release of an instance is not announced, it stays. -/
theorem Registry.Holds.until_released {r : Registry} {i : Instance} (holds : r.Holds i)
    (keyed : r.Keyed) {more : Run}
    (kept : ∀ turn ∈ r.turns more, ∀ event ∈ turn.events, event.instanceId = i.id →
      ∀ reason, event.kind ≠ .released reason) : (r.after more).Holds i := by
  induction more generalizing r with
  | nil => exact holds
  | cons step rest ih =>
    obtain ⟨now, op⟩ := step
    obtain ⟨occupants, live⟩ := holds
    refine ih ?_ (perform_keyed keyed now op) fun turn member => kept turn (.tail _ member)
    -- It cannot have gone in this turn, because that would have been announced.
    by_contra gone
    obtain ⟨-, reason, told⟩ := (⟨r, now, op⟩ : Turn).ends_of_gone keyed live gone
    exact kept _ (.head _) _ told rfl reason rfl

namespace Run

variable {templates : List Template} {buffer : Nat}

theorem answers_concat (run : Run) (now : Instant) (op : Operation) :
    Run.answers (run ++ [(now, op)]) templates buffer = run.answers templates buffer ++
      (⟨run.result templates buffer, now, op⟩ : Turn).answer?.toList := by
  rw [answers, turns_concat, List.filterMap_append, answers]
  cases answered : (⟨run.result templates buffer, now, op⟩ : Turn).answer? <;> simp [answered]

/-- Where ids are fresh and instances are opened for requests only, all is accounted
for. -/
theorem accounted {run : Run} (fresh : run.Fresh) (admitsOnly : run.AdmitsOnly)
    (templates : List Template) (buffer : Nat) :
    Accounted (run.result templates buffer) run.ids (run.answers templates buffer) := by
  induction run using Run.induction with
  | nil =>
    refine ⟨fun i live => ?_, fun id named => absurd rfl named, fun id => .inl rfl⟩
    exact absurd live (Registry.not_live_ofTemplates templates buffer i)
  | concat run now op ih =>
    rw [Fresh, ids_concat] at fresh
    obtain ⟨freshBefore, -, apart⟩ := List.nodup_append.mp fresh
    rw [result_concat, answers_concat, ids_concat]
    refine Accounted.turn (ih freshBefore fun step member => admitsOnly step ?_)
      (run.keyed templates buffer) (admitsOnly (now, op) (by simp)) fun id given member => ?_
    · exact List.mem_append_left _ member
    · exact apart id member id (by simp [show op.fresh? = _ from given]) rfl

/-- In every run with fresh ids that admits only, of the admissions that name one
instance the first creates it and no other does. Two admissions of one party, or
of one player without a party, to a template of parties are answered with one
handle unless the release of the first instance is announced between them. -/
theorem admissions_agree {run : Run} (fresh : run.Fresh) (admitsOnly : run.AdmitsOnly)
    (templates : List Template) (buffer : Nat) :
    (∀ id, Admitted.CreatedFirst ((run.answers templates buffer).filter (·.names id))) ∧
    ∀ early one middle other late request request' handle handle' t,
      run.turns templates buffer = early ++ one :: (middle ++ other :: late) →
      one.Grants request handle → other.Grants request' handle' →
      (run.result templates buffer).template? handle.template = some t → t.isExclusive = true →
      handle'.template = handle.template → request'.ownKey = request.ownKey →
      (∀ turn ∈ middle, ∀ event ∈ turn.events, event.instanceId = handle.instanceId →
        ∀ reason, event.kind ≠ .released reason) →
      handle' = handle := by
  refine ⟨(accounted fresh admitsOnly templates buffer).first, ?_⟩
  intro early one middle other late request request' handle handle' t split grants grants' home
    exclusive sameTemplate sameKey kept
  have member : one ∈ run.turns templates buffer := by simp [split]
  have member' : other ∈ run.turns templates buffer := by simp [split]
  have keyed : one.before.Keyed := keyed_of_mem_turns member
  obtain ⟨i, rfl, live, -, key⟩ := grants.found keyed
  obtain ⟨j, rfl, -, found, key'⟩ := grants'.found (keyed_of_mem_turns member')
  have sameTemplate : j.template = i.template := sameTemplate
  -- The first instance is still there when the second answer is given.
  obtain ⟨first, rest, -, -, -, onward⟩ := Registry.turns_split split
  obtain ⟨part, -, -, between, before, -⟩ := Registry.turns_split onward
  have holds : other.before.Holds i := by
    rw [before]
    exact live.holds.until_released (Registry.perform_keyed keyed one.now one.op)
      (between ▸ kept)
  have samePlace : j.key = i.key := by
    rw [key t ((template?_of_mem_turns member _).trans home) exclusive, ← sameKey]
    refine key' t ((template?_of_mem_turns member' _).trans ?_) exclusive
    rw [sameTemplate]
    exact home
  obtain ⟨occupants, stays⟩ := holds
  rcases found with ⟨others, also⟩ | free
  · have same := also.eq stays sameTemplate samePlace
    rw [sameTemplate, samePlace, (Instance.mk.inj same).1]
  · rw [sameTemplate, samePlace] at free
    cases free.symm.trans stays

/-- A leader enters twice, and once more after the instance was released. The first
two answers have one handle, and the first and the last one say that they created
an instance. -/
theorem leader_returns_until_the_release :
    let template := Template.exclusive "a" 100 "entry" (.ofSeconds 3600)
    let request := (Request.new 1 900 "a").withParty 7 true
    let run : Run := [(.epoch, .enter (.ofNat 1) request), (.epoch, .enter (.ofNat 2) request),
      (.epoch, .release "a" (.party 7) .manual), (.epoch, .enter (.ofNat 3) request)]
    let answers := run.answers [template] 16
    run.Fresh ∧ run.AdmitsOnly ∧ answers.map (·.created) = [true, false, true] ∧
      Admitted.CreatedFirst (answers.filter (·.names (.ofNat 1))) ∧
      ∃ one other rest handle, run.turns [template] 16 = one :: other :: rest ∧
        one.Grants request handle ∧ other.Grants request handle := by
  intro template request run answers
  have fresh : run.Fresh := by decide
  have admitsOnly : run.AdmitsOnly := by decide
  obtain ⟨created, agree⟩ := admissions_agree fresh admitsOnly [template] 16
  let one : Turn := ⟨.ofTemplates [template] 16, .epoch, .enter (.ofNat 1) request⟩
  let other : Turn := ⟨one.after, .epoch, .enter (.ofNat 2) request⟩
  obtain ⟨handle, first⟩ : ∃ handle, one.answer?.bind Admitted.handle = some handle :=
    Option.isSome_iff_exists.mp (by decide)
  obtain ⟨handle', second⟩ : ∃ handle, other.answer?.bind Admitted.handle = some handle :=
    Option.isSome_iff_exists.mp (by decide)
  have granted : one.Grants request handle := ⟨rfl, Option.bind_eq_some_iff.mp first⟩
  have granted' : other.Grants request handle' := ⟨rfl, Option.bind_eq_some_iff.mp second⟩
  have places : (one.answer?.bind Admitted.handle).map Handle.template = some "a" ∧
      (other.answer?.bind Admitted.handle).map Handle.template = some "a" := by decide
  rw [first, second] at places
  obtain ⟨place, place'⟩ : handle.template = "a" ∧ handle'.template = "a" := by simpa using places
  have home : (run.result [template] 16).template? handle.template = some template := by
    rw [place]
    decide
  have same := agree [] one [] other _ request request handle handle' template rfl granted granted'
    home rfl (place'.trans place.symm) rfl fun turn member => nomatch member
  exact ⟨fresh, admitsOnly, by decide, created _, one, other, _, handle, rfl, granted,
    same ▸ granted'⟩

end Run

end InstancedAreas
