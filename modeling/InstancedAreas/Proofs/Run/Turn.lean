import InstancedAreas.Proofs.Admission.Grant
import InstancedAreas.Proofs.Sweep.Announcements

/-! Runs turn by turn. In a turn one operation is performed, and few things can
come of it: players come into a live instance or into a new one, one of them
leaves, or instances end. Each of these is stated once, with what is announced
and answered where it happens. What is true of whole runs is proved of turns. -/
namespace InstancedAreas

namespace Operation

/-- The request that an operation makes. -/
def request? : Operation → Option Request
  | enter _ request | pass _ _ _ _ request => some request
  | _ => none

/-- Whether an operation is one on the registry itself. The others are what the
service does for players and in the course of time. -/
def isDirect : Operation → Bool
  | enter .. | pass .. | leave .. | sweep | cutSweep _ => false
  | _ => true

/-- Whether an operation sweeps, perhaps not to the end. -/
def isSweep : Operation → Bool
  | sweep | cutSweep _ => true
  | _ => false

/-- An operation asks for a player to be taken out of an instance. -/
def TakesOut (op : Operation) (i : Instance) (player : PlayerId) : Prop :=
  op = leave ⟨i.template, i.key, i.id⟩ player ∨ op = removeOccupant i.template i.key player

variable {op : Operation}

theorem isDirect_of_isCreate (creates : op.isCreate = true) : op.isDirect = true := by
  cases op <;> first | rfl | cases creates

theorem request?_of_isDirect (direct : op.isDirect = true) : op.request? = none := by
  cases op <;> first | rfl | cases direct

theorem request?_of_isSweep (sweeps : op.isSweep = true) : op.request? = none := by
  cases op <;> first | rfl | cases sweeps

theorem TakesOut.request? {i : Instance} {player : PlayerId} (out : op.TakesOut i player) :
    op.request? = none := by
  rcases out with rfl | rfl <;> rfl

end Operation

/-- An instance is live, at its own place. -/
def Registry.Live (r : Registry) (i : Instance) : Prop := r.instance? i.template i.key = some i

/-- An instance is live, perhaps with other occupants. -/
def Registry.Holds (r : Registry) (i : Instance) : Prop :=
  ∃ occupants, r.Live { i with occupants }

/-- An operation, with the time at which and the registry on which it is
performed. -/
structure Turn where
  before : Registry
  now : Instant
  op : Operation

namespace Turn

/-- The registry that a turn leads to. -/
def after (turn : Turn) : Registry := turn.before.perform turn.now turn.op

/-- What is announced in a turn. -/
def events (turn : Turn) : List Event := turn.after.history.drop turn.before.history.length

/-- The answer to a request that is granted. -/
def answer? (turn : Turn) : Option Admitted :=
  match turn.op with
  | .enter fresh request => (turn.before.enter turn.now fresh request).2.toOption
  | .pass policies source fresh gate request =>
    (Gate.pass policies source turn.before turn.now fresh gate request).2.toOption
  | _ => none

/-- In a turn these events are announced, behind all others. -/
def Tells (turn : Turn) (events : List Event) : Prop :=
  turn.after.history = turn.before.history ++ events

/-- After a turn an instance is at its place, and nothing else has changed. -/
def Puts (turn : Turn) (i : Instance) : Prop :=
  ∀ template key, turn.after.instance? template key =
    if template = i.template ∧ key = i.key then some i else turn.before.instance? template key

/-- After a turn the place of an instance is free, and nothing else has changed. -/
def Frees (turn : Turn) (i : Instance) : Prop :=
  ∀ template key, turn.after.instance? template key =
    if template = i.template ∧ key = i.key then none else turn.before.instance? template key

/-- A request is granted in a turn, and the answer names an instance. Where
instances belong to parties, the player leads the party, and the instance is the
party's own. -/
structure Admits (turn : Turn) (request : Request) (i : Instance) (created : Bool) : Prop where
  asked : turn.op.request? = some request
  answered : ∃ a, turn.answer? = some a ∧ a.instance? = some i ∧ a.created = created
  own : ∀ t, turn.before.template? i.template = some t → t.isExclusive = true →
    request.Leads ∧ i.key = request.ownKey

/-- What comes of a turn. -/
inductive Outcome (turn : Turn) : Prop where
  /-- No instance changes. A request may be granted that needs none. -/
  | quiet
      (still : ∀ template key,
        turn.after.instance? template key = turn.before.instance? template key)
      (tells : turn.Tells []) (alone : ∀ a, turn.answer? = some a → a.instance? = none)
  /-- Players come into a live instance. -/
  | joined (i : Instance) (players : List PlayerId)
      (found : turn.before.Live i)
      (puts : turn.Puts { i with occupants := i.occupants.insertAll players })
      (tells : turn.Tells (i.welcome turn.now (i.occupants.enterAll players).2))
      (way : turn.op.isDirect = true ∨ ∃ request, players = request.group ∧
        turn.Admits request { i with occupants := i.occupants.insertAll players } false)
  /-- An instance is opened, and if that was for a request, its group comes in. -/
  | opened (t : Template) (born : Instance) (players : List PlayerId)
      (home : turn.before.template? born.template = some t)
      (free : turn.before.instance? born.template born.key = none)
      (given : turn.op.fresh? = some born.id) (empty : born.occupants = .empty)
      (puts : turn.Puts { born with occupants := born.occupants.insertAll players })
      (tells : turn.Tells (.of born turn.now (.created t.destination born.expiresAt) ::
        born.welcome turn.now (born.occupants.enterAll players).2))
      (way : turn.op.isCreate = true ∧ players = [] ∨ ∃ request, players = request.group ∧
        turn.Admits request { born with occupants := born.occupants.insertAll players } true)
  /-- A player leaves, and the instance stays. -/
  | left (t : Template) (i : Instance) (player : PlayerId)
      (home : turn.before.template? i.template = some t)
      (found : turn.before.Live i)
      (out : turn.op.TakesOut i player)
      (stays : (i.occupants.erase player).isEmpty = true → t.release = .onExpiry)
      (puts : turn.Puts { i with occupants := i.occupants.erase player }) (tells : turn.Tells [])
  /-- The last player leaves, and the instance goes. -/
  | emptied (t : Template) (i : Instance) (player : PlayerId)
      (home : turn.before.template? i.template = some t)
      (found : turn.before.Live i)
      (out : turn.op.TakesOut i player) (inside : i.occupants.contains player = true)
      (last : (i.occupants.erase player).isEmpty = true) (policy : t.release = .whenEmpty)
      (frees : turn.Frees i) (tells : turn.Tells [.of i turn.now (.released .emptied)])
  /-- An instance is released on request. -/
  | released (i : Instance) (reason : ReleaseReason)
      (found : turn.before.Live i)
      (asked : turn.op = .release i.template i.key reason)
      (frees : turn.Frees i) (tells : turn.Tells [.of i turn.now (.released reason)])
  /-- Instances whose deadline has passed end. -/
  | swept (ended : List Instance) (sweeps : turn.op.isSweep = true) (once : ended.Nodup)
      (due : ∀ i ∈ ended, turn.before.Live i ∧ i.expiresAt ≤ turn.now)
      (live : ∀ i, turn.after.Live i ↔ turn.before.Live i ∧ i ∉ ended)
      (tells : turn.Tells (ended.flatMap (·.farewell turn.now)))

variable {turn : Turn}

/-- Only requests are answered with an instance. -/
theorem answer?_of_no_request (unasked : turn.op.request? = none) : turn.answer? = none := by
  obtain ⟨before, now, op⟩ := turn
  cases op <;> first | rfl | cases unasked

/-- Nothing comes of a turn that leaves the registry as it was and answers with
no instance. -/
theorem Outcome.of_same (same : turn.after = turn.before)
    (alone : ∀ a, turn.answer? = some a → a.instance? = none) : turn.Outcome :=
  .quiet (fun _ _ => by rw [same]) (by rw [Tells, same, List.append_nil]) alone

/-- What is granted is an outcome, also for a request that a gate has turned to
its own template. -/
theorem Outcome.of_granted (keyed : turn.before.Keyed) {fresh : InstanceId} {request : Request}
    (template : TemplateId) {a : Admitted}
    (granted : Granted turn.before turn.now fresh (request.retarget template) turn.after a)
    (answer : turn.answer? = some a) (asked : turn.op.request? = some request)
    (given : turn.op.fresh? = some fresh) : turn.Outcome := by
  have own {pool : Pool} {i : Instance} {t : Template} {live : Bool}
      (home : turn.before.pool? pool.template.id = some pool)
      (owner : i.template = pool.template.id)
      (leads : pool.template.isExclusive = true → request.Leads)
      (placed : pool.place turn.now (request.retarget template) = .ok ⟨i.key, live⟩)
      (known : turn.before.template? i.template = some t) (exclusive : t.isExclusive = true) :
      request.Leads ∧ i.key = request.ownKey := by
    rw [owner, Registry.template?, home] at known
    cases known
    exact ⟨leads exclusive, Pool.place_own exclusive placed⟩
  -- Named apart, so that the cases say which registry a turn leads to.
  generalize same : turn.after = after at granted
  cases granted with
  | joins pool i home target leads placed held ahead room =>
    obtain ⟨owner, -⟩ := (keyed _ pool home).2 i.key i held
    refine .joined i request.group ?_ ?_ ?_ (.inr ⟨request, rfl, asked, ⟨_, answer, rfl, rfl⟩, ?_⟩)
    · rw [Registry.Live, owner]
      exact Registry.instance?_eq_some_iff.mpr ⟨pool, home, held⟩
    · intro template key
      rw [same, Registry.instance?_joined home, owner]
      rfl
    · rw [Tells, same]
      exact Registry.history_joined ..
    · intro t known exclusive
      exact own home owner leads placed known exclusive
  | opens pool key deadline born home target leads placed free ends fits new =>
    have owner : born.template = pool.template.id := by rw [new, Registry.newborn]
    have place : born.key = key := by rw [new, Registry.newborn]
    have homeAfter := turn.before.pool?_opened turn.now pool born
    refine .opened pool.template born request.group ?_ ?_ ?_ ?_ ?_ ?_
      (.inr ⟨request, rfl, asked, ⟨_, answer, rfl, rfl⟩, ?_⟩)
    · rw [owner, Registry.template?, home]
      rfl
    · rw [owner, place, Registry.instance?, home]
      exact free
    · rw [given, new, Registry.newborn]
    · rw [new, Registry.newborn]
    · intro template key
      rw [same, Registry.instance?_joined homeAfter, Registry.instance?_opened home,
        Pool.template_put, ← owner]
      by_cases here : template = born.template ∧ key = born.key
      · exact (if_pos here).trans (if_pos here).symm
      · exact (if_neg here).trans ((if_neg here).trans (if_neg here).symm)
    · rw [Tells, same, Registry.history_joined, Registry.history_opened, List.append_assoc]
      rfl
    · intro t known exclusive
      exact own home owner leads (place ▸ placed) known exclusive

/-- Nothing comes of an operation that makes no request and changes nothing. -/
theorem Outcome.of_failure (same : turn.after = turn.before)
    (unasked : turn.op.request? = none) : turn.Outcome := by
  refine .of_same same fun a answer => ?_
  rw [answer?_of_no_request unasked] at answer
  cases answer

/-- What becomes of a request that is made in a turn. -/
inductive Decision (turn : Turn) (request : Request) : Prop where
  /-- Nothing changes, and no instance is named. -/
  | unchanged (same : turn.after = turn.before)
      (alone : ∀ a, turn.answer? = some a → a.instance? = none)
  /-- It is granted, perhaps for the template of a gate. -/
  | granted (fresh : InstanceId) (template : TemplateId) (a : Admitted)
      (granted : Granted turn.before turn.now fresh (request.retarget template) turn.after a)
      (answer : turn.answer? = some a) (given : turn.op.fresh? = some fresh)

theorem Decision.of_entry (keyed : turn.before.Keyed) {fresh : InstanceId} {request : Request}
    (template : TemplateId)
    (same : turn.after = (turn.before.enter turn.now fresh (request.retarget template)).1)
    (answer : turn.answer? =
      (turn.before.enter turn.now fresh (request.retarget template)).2.toOption)
    (given : turn.op.fresh? = some fresh) : turn.Decision request := by
  rcases keyed.enter_cases turn.now fresh (request.retarget template) with
    ⟨error, refused, -⟩ | ⟨s, a, taken, granted⟩
  · rw [refused] at same answer
    refine .unchanged same fun a answered => ?_
    cases answered.symm.trans answer
  · rw [taken] at same answer
    exact .granted fresh template a (same ▸ granted) answer given

theorem Decision.of_pass (keyed : turn.before.Keyed) {policies : Gate.Policies}
    {source : Gate.Source} {fresh : InstanceId} {gate : String} {request : Request}
    (asked : turn.op = .pass policies source fresh gate request) : turn.Decision request := by
  have same : turn.after =
      (Gate.pass policies source turn.before turn.now fresh gate request).1 := by
    rw [after, asked, Registry.perform]
  have answer : turn.answer? =
      (Gate.pass policies source turn.before turn.now fresh gate request).2.toOption := by
    rw [answer?, asked]
  rcases Gate.pass_cases policies source turn.before turn.now fresh gate request with
    ⟨error, refused⟩ | ⟨area, spawnPoint, passed⟩ | ⟨template, turned⟩
  · rw [refused] at same answer
    refine .unchanged same fun a answered => ?_
    cases answered.symm.trans answer
  -- The gate leads to an area that is not instanced.
  · rw [passed] at same answer
    refine .unchanged same fun a answered => ?_
    cases answered.symm.trans answer
    rfl
  · rw [turned] at same answer
    exact .of_entry keyed template same answer (by rw [asked]; rfl)

/-- Something becomes of every request. -/
theorem decision (keyed : turn.before.Keyed) {request : Request}
    (asked : turn.op.request? = some request) : turn.Decision request := by
  cases op : turn.op with
  | enter fresh own =>
    rw [op] at asked
    cases asked
    exact .of_entry keyed request.template (by rw [after, op]; rfl) (by rw [answer?, op]; rfl)
      (by rw [op]; rfl)
  | pass policies source fresh gate own =>
    rw [op] at asked
    cases asked
    exact .of_pass keyed op
  | leave | create | addOccupants | removeOccupant | release | sweep | cutSweep | schedule =>
    rw [op] at asked
    cases asked

theorem Outcome.of_request (keyed : turn.before.Keyed) {request : Request}
    (asked : turn.op.request? = some request) : turn.Outcome := by
  cases decision keyed asked with
  | unchanged same alone => exact .of_same same alone
  | granted fresh template a granted answer given =>
    exact .of_granted keyed template granted answer asked given

/-- An operation on an instance finds it in its pool, or fails. -/
theorem Outcome.of_lookup (keyed : turn.before.Keyed) {α : Type} {template : TemplateId}
    {key : InstanceKey} {act : Pool → Instance → Registry × Except RegistryError α}
    (same : turn.after = (turn.before.withInstance template key act).1)
    (unasked : turn.op.request? = none)
    (found : ∀ pool i, turn.before.pool? pool.template.id = some pool →
      pool.instances.find? i.key = some i → i.template = pool.template.id →
      template = i.template → key = i.key → turn.after = (act pool i).1 → turn.Outcome) :
    turn.Outcome := by
  cases live : turn.before.instance? template key with
  | none =>
    obtain ⟨error, failed⟩ := Registry.withInstance_of_absent live act
    exact .of_failure (same.trans (by rw [failed])) unasked
  | some i =>
    obtain ⟨pool, home, held⟩ := Registry.instance?_eq_some_iff.mp live
    obtain ⟨rfl, inside⟩ := keyed template pool home
    obtain ⟨owner, rfl⟩ := inside key i held
    refine found pool i home held owner owner.symm rfl (same.trans ?_)
    rw [Registry.withInstance_of_held home held]

/-- What is held in its own place of its own pool is live. -/
theorem live_of_held {pool : Pool} {i : Instance}
    (home : turn.before.pool? pool.template.id = some pool)
    (held : pool.instances.find? i.key = some i) (owner : i.template = pool.template.id) :
    turn.before.Live i ∧ turn.before.template? i.template = some pool.template := by
  rw [Registry.Live, owner, Registry.template?, home]
  exact ⟨Registry.instance?_eq_some_iff.mpr ⟨pool, home, held⟩, rfl⟩

/-- A player is taken out, and the instance goes with the last one where the
template asks for that. -/
theorem Outcome.of_removal (keyed : turn.before.Keyed) {template : TemplateId}
    {key : InstanceKey} {player : PlayerId}
    (same : turn.after = (turn.before.removeOccupant turn.now template key player).1)
    (unasked : turn.op.request? = none)
    (out : ∀ i, turn.before.Live i → template = i.template → key = i.key →
      turn.op.TakesOut i player) :
    turn.Outcome := by
  refine .of_lookup keyed same unasked fun pool i home held owner place own same => ?_
  obtain ⟨found, known⟩ := live_of_held home held owner
  have mine := out i found place own
  dsimp only at same
  split at same
  · rename_i within
    split at same
    · rename_i last
      refine .emptied pool.template i player known found mine within last.1 last.2 ?_ ?_
      · intro template key
        rw [same, owner]
        exact Registry.instance?_putPool_drop home i.key template key
      · rw [Tells, same]
        exact Registry.history_conclude ..
    · rename_i others
      refine .left pool.template i player known found mine (fun empty => ?_) ?_ ?_
      · cases policy : pool.template.release with
        | onExpiry => rfl
        | whenEmpty => exact absurd ⟨empty, policy⟩ others
      · intro template key
        rw [same, owner]
        exact Registry.instance?_putPool_put home _ template key
      · rw [Tells, same, Registry.history_putPool, List.append_nil]
  · exact .of_failure same unasked

/-- An instance is opened for nobody, or the key is taken. -/
theorem Outcome.of_creation (keyed : turn.before.Keyed) {fresh : InstanceId}
    {template : TemplateId} {key : InstanceKey} {lifetime : Duration} {originArea : AreaId}
    (asked : turn.op = .create fresh template key lifetime originArea) : turn.Outcome := by
  have same : turn.after =
      (turn.before.create turn.now fresh template key lifetime originArea).1 := by
    rw [after, asked, Registry.perform]
  rcases Registry.create_cases (fun _ i => i.id = fresh) keyed turn.now fresh template key lifetime
    originArea (fun _ _ _ id _ => id) with ⟨error, failed⟩ | ⟨s, i, created, opening⟩
  · exact .of_failure (same.trans (by rw [failed])) (by rw [asked]; rfl)
  · rw [created] at same
    obtain ⟨pool, born, home, free, owner, empty, id⟩ := opening
    refine .opened pool.template born [] ?_ ?_ ?_ empty ?_ ?_ (.inl ⟨by rw [asked]; rfl, rfl⟩)
    · rw [owner, Registry.template?, home]
      rfl
    · rw [owner, Registry.instance?, home]
      exact free
    · rw [asked, id]
      rfl
    · intro place placeKey
      rw [same, Registry.instance?_opened home, ← owner]
      rfl
    · rw [Tells, same]
      exact Registry.history_opened ..

/-- Players come in all together, or are too many. -/
theorem Outcome.of_addition (keyed : turn.before.Keyed) {template : TemplateId}
    {key : InstanceKey} {players : List PlayerId}
    (asked : turn.op = .addOccupants template key players) : turn.Outcome := by
  have same : turn.after = (turn.before.addOccupants turn.now template key players).1 := by
    rw [after, asked, Registry.perform]
  have unasked : turn.op.request? = none := by rw [asked]; rfl
  refine .of_lookup keyed same unasked fun pool i home held owner place own _ => ?_
  rw [place, own, owner] at same
  by_cases room : i.HasRoom players.toFinset pool.template.occupantLimit
  · rw [Registry.addOccupants_of_room turn.now home held room] at same
    refine .joined i players (live_of_held home held owner).1 ?_ ?_ (.inl (by rw [asked]; rfl))
    · intro template key
      rw [same, Registry.instance?_joined home, owner]
    · rw [Tells, same]
      exact Registry.history_joined ..
  · obtain ⟨most, -, refused⟩ := Registry.addOccupants_of_crowd turn.now home held room
    exact .of_failure (same.trans (by rw [refused])) unasked

theorem Outcome.of_release (keyed : turn.before.Keyed) {template : TemplateId}
    {key : InstanceKey} {reason : ReleaseReason}
    (asked : turn.op = .release template key reason) : turn.Outcome := by
  have same : turn.after = (turn.before.release turn.now template key reason).1 := by
    rw [after, asked, Registry.perform]
  refine .of_lookup keyed same (by rw [asked]; rfl) fun pool i home held owner place own same => ?_
  refine .released i reason (live_of_held home held owner).1 (by rw [asked, place, own]) ?_ ?_
  · intro template key
    rw [same, owner]
    exact Registry.instance?_putPool_drop home i.key template key
  · rw [Tells, same]
    exact Registry.history_conclude ..

theorem Outcome.of_sweep (keyed : turn.before.Keyed) (point : SweepPoint)
    (sweeps : turn.op.isSweep = true)
    (same : turn.after = (turn.before.reclaimUntil turn.now point).registry) : turn.Outcome := by
  obtain ⟨ended, once, due, live, tells⟩ := keyed.reclaimUntil_announces turn.now point
  rw [← same] at live tells
  exact .swept ended sweeps once due (fun i => live i.template i.key i) tells

/-- Something comes of every turn. -/
theorem outcome (keyed : turn.before.Keyed) : turn.Outcome := by
  cases op : turn.op with
  | enter fresh request | pass policies source fresh gate request =>
    exact .of_request keyed (by rw [op]; rfl)
  | leave handle player =>
    have same : turn.after = (turn.before.leave turn.now handle player).1 := by
      rw [after, op, Registry.perform]
    have unasked : turn.op.request? = none := by rw [op]; rfl
    -- A handle of an instance that is gone finds another one at its place, or none.
    by_cases own : (turn.before.instance? handle.template handle.key).any
        (·.id = handle.instanceId) = true
    · rw [Registry.leave_of_own handle own] at same
      refine .of_removal keyed same unasked fun i live template key => .inl ?_
      rw [template, key, live] at own
      have id : i.id = handle.instanceId := by simpa using own
      rw [op, ← template, ← key, id]
    · obtain ⟨error, refused⟩ :=
        Registry.leave_of_other (Bool.not_eq_true _ ▸ own) turn.now player
      exact .of_failure (same.trans (by rw [refused])) unasked
  | create => exact .of_creation keyed op
  | addOccupants => exact .of_addition keyed op
  | removeOccupant template key player =>
    refine .of_removal keyed (by rw [after, op, Registry.perform]) (by rw [op]; rfl)
      fun i live own place => .inr ?_
    rw [op, own, place]
  | release => exact .of_release keyed op
  | sweep =>
    exact .of_sweep keyed (.notifying 0) (by rw [op]; rfl) (by rw [after, op]; rfl)
  | cutSweep point => exact .of_sweep keyed point (by rw [op]; rfl) (by rw [after, op]; rfl)
  | schedule teardown =>
    refine .quiet (fun template key => by rw [after, op]; rfl) ?_ fun a answer => ?_
    · rw [Tells, after, op, List.append_nil]
      rfl
    · rw [answer?_of_no_request (by rw [op]; rfl)] at answer
      cases answer

end Turn

end InstancedAreas
