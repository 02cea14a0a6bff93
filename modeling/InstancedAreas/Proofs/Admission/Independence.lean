import InstancedAreas.Proofs.Registry.Locality
import InstancedAreas.Proofs.Run.Turns

/-! Visits that have nothing to do with each other. A request to a template of
parties looks at the place under its own key alone, one to a template with slots at
the places of that template, and leaving looks at the place that the handle names.
None of them changes anything elsewhere, so visits that look at different places can
change places: each is answered as before, and the same is live and pending in the
end. -/
namespace InstancedAreas

variable {known : TemplateId → Option Template} {now : Instant} {fresh : InstanceId}
  {request : Request}

theorem Registry.Knows.perform {r : Registry} (knows : r.Knows known) (now : Instant)
    (op : Operation) : (r.perform now op).Knows known where
  keyed := perform_keyed knows.keyed now op
  templates id := (template?_perform knows.keyed now op id).trans (knows.templates id)

/-! ## Leaving -/

/-- What leaving by a handle does is decided at the place that it names. -/
theorem Registry.Knows.leave_of_here {s : Registry} (knows : s.Knows known) {handle : Handle}
    {i : Instance} (here : s.instance? handle.template handle.key = some i)
    (own : i.id = handle.instanceId) {t : Template} (home : known handle.template = some t)
    (now : Instant) (player : PlayerId) :
    s.Does (·.leave now handle player) handle.template handle.key (i.without t player) []
      (.ok (i.without t player).isNone) := by
  obtain ⟨template, key⟩ := knows.keyed.own_place here
  have live := knows.keyed.found_in_place here
  have same : handle = ⟨i.template, i.key, i.id⟩ := by rw [template, key, own]
  rw [same] at home ⊢
  obtain ⟨answers, places⟩ :=
    knows.keyed.leave_of_live live ((knows.templates _).trans home) now player
  refine ⟨answers, places, ?_⟩
  rcases leave_change knows.keyed now ⟨i.template, i.key, i.id⟩ player with still | change
  · exact congrArg queue still
  · exact change.queue_eq

/-- Who leaves by a handle keeps to the place that it names. -/
theorem Registry.leave_keepsTo (known : TemplateId → Option Template) (now : Instant)
    (handle : Handle) (player : PlayerId) :
    KeepsTo known (fun template key => template = handle.template ∧ key = handle.key)
      (·.leave now handle player) where
  knows r knows := knows.perform now (.leave handle player)
  decided r knows := by
    cases home : known handle.template with
    | none =>
      refine .refused ⟨rfl, rfl⟩ (.unknownTemplate handle.template) fun s knows agrees => ?_
      have absent := Option.map_eq_none_iff.mp ((knows.templates handle.template).trans home)
      simp only [leave, find, seen, absent]
    | some t =>
      by_cases own : ∃ i, r.instance? handle.template handle.key = some i ∧
          i.id = handle.instanceId
      · obtain ⟨i, here, id⟩ := own
        exact ⟨_, _, _, _, _, ⟨rfl, rfl⟩, fun s knows agrees =>
          knows.leave_of_here ((agrees _ _ ⟨rfl, rfl⟩).trans here) id home now player⟩
      · refine .refused ⟨rfl, rfl⟩ (.notFound handle.template handle.key) fun s knows agrees => ?_
        obtain ⟨pool, found, -⟩ :=
          Option.map_eq_some_iff.mp ((knows.templates handle.template).trans home)
        refine leave_of_gone found ?_ now player
        rw [agrees _ _ ⟨rfl, rfl⟩]
        cases here : r.instance? handle.template handle.key with
        | none => rfl
        | some i => simpa using fun id => own ⟨i, here, id⟩

/-! ## Entering -/

/-- A request may take a place under a key: only the key of its party, or of its
player without one, where instances belong to parties. -/
def Request.MayTake (request : Request) (t : Template) (key : InstanceKey) : Prop :=
  t.isExclusive = true → key = request.ownKey

/-- The places that a request may take. -/
def Request.reach (request : Request) (known : TemplateId → Option Template) : Region :=
  fun template key =>
    template = request.template ∧ ∀ t, known template = some t → request.MayTake t key

theorem Request.MayTake.inReach {t : Template} {key : InstanceKey} (may : request.MayTake t key)
    (home : known request.template = some t) : request.reach known request.template key := by
  refine ⟨rfl, fun other found => ?_⟩
  cases home.symm.trans found
  exact may

/-- The instance that is opened for a request, with its group inside. -/
def Request.founded (request : Request) (t : Template) (now : Instant) (fresh : InstanceId)
    (key : InstanceKey) (deadline : Instant) : Instance :=
  ⟨fresh, t.id, key, now, deadline, request.returnTo t, .insertAll .empty request.group⟩

/-- Where the same is live at the places that a request may take, it has the same
place. -/
theorem Pool.place_congr {p q : Pool} (same : q.template = p.template)
    (agree : ∀ key, request.MayTake p.template key →
      q.instances.find? key = p.instances.find? key) (now : Instant) :
    q.place now request = p.place now request := by
  cases kind : p.template.kind with
  | exclusive most =>
    simp only [place, kind, same, placeExclusive_eq, agree request.ownKey fun _ => rfl]
  | pooled capacity perSlot =>
    have shared (key : InstanceKey) : request.MayTake p.template key := by
      simp [Request.MayTake, Template.isExclusive, kind]
    have instances : q.instances = p.instances := Table.ext_find? fun key => agree key (shared key)
    cases p
    cases q
    simp_all

section Enter

variable {s : Registry} {pool : Pool} {t : Template} {key : InstanceKey} {deadline : Instant}
  (knows : s.Knows known) (home : s.pool? request.template = some pool)
  (same : pool.template = t) (admissible : request.Admissible now t)

include knows home same admissible

/-- A request whose place is free opens an instance there. -/
theorem Registry.Knows.enter_opens (placed : pool.place now request = .ok ⟨key, false⟩)
    (free : pool.instances.find? key = none)
    (ends : now.after? (request.lifetime t) = some deadline) (fits : request.Fits t.occupantLimit)
    (fresh : InstanceId) :
    let born := request.founded t now fresh key deadline
    s.Does (·.enter now fresh request) request.template key (some born) [.of born]
      (.ok ⟨t.destination, t.spawnPoint, request.group, some born, true⟩) := by
  subst same
  intro born
  have target := (knows.keyed _ pool home).1
  have homeOwn := knows.keyed.home home
  have entered := (enter_of_admissible home admissible placed fresh).trans
    (occupy_of_free fresh homeOwn free ends fits)
  refine ⟨congrArg Prod.snd entered, fun template place => ?_, ?_⟩
  · rw [entered, instance?_opened_joined homeOwn, target]
    rfl
  · rw [entered, queue_joined]
    rfl

/-- A request whose place is live, with room for its group, joins the instance. -/
theorem Registry.Knows.enter_joins {i : Instance}
    (placed : pool.place now request = .ok ⟨key, true⟩)
    (held : pool.instances.find? key = some i) (room : i.HasRoom request.members t.occupantLimit)
    (fresh : InstanceId) :
    let joined := { i with occupants := i.occupants.insertAll request.group }
    s.Does (·.enter now fresh request) request.template key (some joined) []
      (.ok ⟨t.destination, t.spawnPoint, request.group, some joined, false⟩) := by
  subst same
  intro joined
  obtain ⟨target, inside⟩ := knows.keyed _ pool home
  obtain rfl : i.key = key := (inside key i held).2
  have homeOwn := knows.keyed.home home
  have entered := (enter_of_admissible home admissible placed fresh).trans
    (occupy_of_room homeOwn held room)
  refine ⟨congrArg Prod.snd entered, fun template place => ?_, ?_⟩
  · rw [entered, instance?_joined homeOwn, target]
  · rw [entered, queue_joined]
    rfl

end Enter

/-- Where the same is live at the places that a request may take, there is a pool of
the same template, in which it has the same place and finds the same there. -/
theorem Registry.Knows.pool_of_agrees {r s : Registry} {pool : Pool} (knows : s.Knows known)
    (agrees : AgreesIn (request.reach known) r s)
    (home : known request.template = some pool.template)
    (found : r.pool? request.template = some pool) (now : Instant) :
    ∃ other, s.pool? request.template = some other ∧ other.template = pool.template ∧
      other.place now request = pool.place now request ∧
      ∀ key, request.MayTake pool.template key →
        other.instances.find? key = pool.instances.find? key := by
  obtain ⟨other, there, same⟩ :=
    Option.map_eq_some_iff.mp ((knows.templates request.template).trans home)
  have agree (key : InstanceKey) (may : request.MayTake pool.template key) :
      other.instances.find? key = pool.instances.find? key := by
    simpa only [instance?, there, found, Option.bind_some] using agrees _ key (may.inReach home)
  exact ⟨other, there, same, Pool.place_congr same agree now, agree⟩

/-- Where nothing stands against a request, what it does is decided at the places that
it may take. -/
theorem Registry.Knows.enter_decided {r : Registry} {pool : Pool} (knows : r.Knows known)
    (home : known request.template = some pool.template)
    (found : r.pool? request.template = some pool)
    (admissible : request.Admissible now pool.template) (fresh : InstanceId) :
    r.DecidedIn known (request.reach known) (·.enter now fresh request) := by
  have placing := pool.placed now request
  generalize placed : pool.place now request = outcome at placing
  cases placing with
  | nowhere =>
    have own : request.MayTake pool.template request.ownKey := fun _ => rfl
    refine .refused (own.inReach home) (.instancesFull pool.template.id) fun s knows agrees => ?_
    obtain ⟨other, there, same, place, -⟩ := knows.pool_of_agrees agrees home found now
    rw [← same] at admissible placed ⊢
    exact knows.keyed.enter_of_refused (.full other there admissible (place.trans placed)) fresh
  | free key may free =>
    have inside := Request.MayTake.inReach may home
    by_cases fits : request.Fits pool.template.occupantLimit
    · obtain ⟨deadline, ends⟩ := Option.ne_none_iff_exists'.mp admissible.ends
      let born := request.founded pool.template now fresh key deadline
      refine ⟨request.template, key, some born, [.of born],
        .ok ⟨pool.template.destination, pool.template.spawnPoint, request.group, some born, true⟩,
        inside, fun s knows agrees => ?_⟩
      obtain ⟨other, there, same, place, agree⟩ := knows.pool_of_agrees agrees home found now
      exact knows.enter_opens there same admissible (place.trans placed)
        ((agree key may).trans free) ends fits fresh
    · refine .refused inside (.capacityExceeded pool.template.id key) fun s knows agrees => ?_
      obtain ⟨other, there, same, place, -⟩ := knows.pool_of_agrees agrees home found now
      rw [← same] at admissible fits ⊢
      exact knows.keyed.enter_of_refused
        (.excess other key there admissible (place.trans placed) fits) fresh
  | live key i may held ahead =>
    obtain rfl : i.key = key := ((knows.keyed _ pool found).2 key i held).2
    have inside := Request.MayTake.inReach may home
    by_cases room : i.HasRoom request.members pool.template.occupantLimit
    · let joined := { i with occupants := i.occupants.insertAll request.group }
      refine ⟨request.template, i.key, some joined, [],
        .ok ⟨pool.template.destination, pool.template.spawnPoint, request.group, some joined,
          false⟩, inside, fun s knows agrees => ?_⟩
      obtain ⟨other, there, same, place, agree⟩ := knows.pool_of_agrees agrees home found now
      exact knows.enter_joins there same admissible (place.trans placed)
        ((agree i.key may).trans held) room fresh
    · refine .refused inside (.capacityExceeded pool.template.id i.key) fun s knows agrees => ?_
      obtain ⟨other, there, same, place, agree⟩ := knows.pool_of_agrees agrees home found now
      have stays := (agree i.key may).trans held
      rw [← same] at admissible room ⊢
      exact knows.keyed.enter_of_refused
        (.crowded other i there admissible (place.trans placed) stays room) fresh

/-- A request keeps to the places that it may take. -/
theorem Registry.enter_keepsTo (known : TemplateId → Option Template) (now : Instant)
    (fresh : InstanceId) (request : Request) :
    KeepsTo known (request.reach known) (·.enter now fresh request) where
  knows r knows := knows.perform now (.enter fresh request)
  decided r knows := by
    have barred {error : AdmissionError}
        (barred : Barred (known request.template) now request error) :
        r.DecidedIn known (request.reach known) (·.enter now fresh request) := by
      have own : request.reach known request.template request.ownKey := ⟨rfl, fun _ _ _ => rfl⟩
      refine .refused own error fun s knows _ => enter_of_barred ?_ fresh
      rw [knows.templates]
      exact barred
    cases home : known request.template with
    | none => exact barred (.unknown home)
    | some t =>
      obtain ⟨pool, found, rfl⟩ :=
        Option.map_eq_some_iff.mp ((knows.templates request.template).trans home)
      rcases request.admissible_or_barred now home with admissible | ⟨error, against⟩
      · exact knows.enter_decided home found admissible fresh
      · exact barred against

/-! ## Visits -/

/-- What players ask for: to be let in, with an id for an instance that this may
open, or to leave. -/
inductive Visit where
  | enter (fresh : InstanceId) (request : Request)
  | leave (handle : Handle) (player : PlayerId)

namespace Visit

/-- The template that a visit is about. -/
def template : Visit → TemplateId
  | enter _ request => request.template
  | leave handle _ => handle.template

/-- What is answered to a visit. -/
def Answer : Visit → Type
  | enter .. => Except AdmissionError Admitted
  | leave .. => Except RegistryError Bool

/-- The places that a visit may look at. -/
def reach (known : TemplateId → Option Template) : Visit → Region
  | enter _ request => request.reach known
  | leave handle _ => fun template key => template = handle.template ∧ key = handle.key

/-- Two visits are about different templates, or both ask to be let into one
template of parties, under different keys. -/
inductive Apart (known : TemplateId → Option Template) : Visit → Visit → Prop where
  | templates {a b : Visit} (differ : a.template ≠ b.template) : Apart known a b
  | keys {first second : InstanceId} {left right : Request} {t : Template}
      (same : right.template = left.template) (home : known left.template = some t)
      (exclusive : t.isExclusive = true) (differ : left.ownKey ≠ right.ownKey) :
      Apart known (.enter first left) (.enter second right)

theorem template_of_reach {visit : Visit} {template : TemplateId} {key : InstanceKey}
    (inside : visit.reach known template key) : template = visit.template := by
  cases visit with
  | enter | leave => exact inside.1

/-- Visits that are apart look at no place that both of them may look at. -/
theorem Apart.disjoint {a b : Visit} (apart : a.Apart known b) (template : TemplateId)
    (key : InstanceKey) (inside : a.reach known template key) : ¬ b.reach known template key := by
  intro shared
  cases apart with
  | templates differ =>
    exact differ ((template_of_reach inside).symm.trans (template_of_reach shared))
  | keys same home exclusive differ =>
    have left := inside.2 _ (inside.1 ▸ home) exclusive
    have right := shared.2 _ (inside.1 ▸ home) exclusive
    exact differ (left.symm.trans right)

end Visit

/-- The registry after a visit, and the answer. -/
def Registry.visit (r : Registry) (now : Instant) : (visit : Visit) → Registry × visit.Answer
  | .enter fresh request => r.enter now fresh request
  | .leave handle player => r.leave now handle player

theorem Registry.visit_keepsTo (known : TemplateId → Option Template) (now : Instant)
    (visit : Visit) : KeepsTo known (visit.reach known) (·.visit now visit) := by
  cases visit with
  | enter fresh request => exact enter_keepsTo known now fresh request
  | leave handle player => exact leave_keepsTo known now handle player

/-- After every run, two visits that are apart can change places: each is given the
answer that it would be given without the other, and the same is live in every
template and pending in the queue in the end. -/
theorem Run.visits_apart_commute (run : Run) (templates : List Template) (buffer : Nat)
    (now : Instant) {a b : Visit} (apart : a.Apart (run.result templates buffer).template? b) :
    let before := run.result templates buffer
    let afterA := before.visit now a
    let afterB := before.visit now b
    (afterB.1.visit now a).2 = afterA.2 ∧ (afterA.1.visit now b).2 = afterB.2 ∧
      (afterA.1.visit now b).1.pools = (afterB.1.visit now a).1.pools ∧
      (afterA.1.visit now b).1.queue = (afterB.1.visit now a).1.queue := by
  intro before afterA afterB
  have knows : before.Knows before.template? := ⟨run.keyed templates buffer, fun _ => rfl⟩
  exact (Registry.visit_keepsTo before.template? now a).commute
    (Registry.visit_keepsTo before.template? now b) apart.disjoint knows

/-- Two parties ask to be let into one template at one time, and the instance of a
third party is live there already. Whoever comes first, an instance is opened for
each. -/
theorem Run.two_parties_do_not_notice_each_other :
    let template := Template.exclusive "a" 100 "entry" (.ofSeconds 3600)
    let request (player : PlayerId) (party : PartyId) :=
      (Request.new player 900 "a").withParty party true
    let run : Run := [(.epoch, .enter (.ofNat 1) (request 1 7))]
    let before := run.result [template] 16
    let a : Visit := .enter (.ofNat 2) (request 2 8)
    let b : Visit := .enter (.ofNat 3) (request 3 9)
    a.Apart before.template? b ∧ before.template? "a" = some template ∧
      (before.enter .epoch (.ofNat 2) (request 2 8)).2.toOption.any (·.created) = true ∧
      ((before.visit .epoch b).1.visit .epoch a).2 = (before.visit .epoch a).2 ∧
      ((before.visit .epoch a).1.visit .epoch b).1.queue =
        ((before.visit .epoch b).1.visit .epoch a).1.queue := by
  intro template request run before a b
  have home : before.template? "a" = some template := by decide
  have apart : a.Apart before.template? b := .keys rfl home rfl (by decide)
  obtain ⟨first, -, -, queue⟩ := visits_apart_commute run [template] 16 .epoch apart
  exact ⟨apart, home, by decide, first, queue⟩

end InstancedAreas
