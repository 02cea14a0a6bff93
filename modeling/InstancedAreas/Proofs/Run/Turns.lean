import InstancedAreas.Proofs.Run.Turn
import Mathlib.Data.List.Induction

/-! The turns of a run. Each is an operation of the run on the registry that the
operations before it lead to. What is live after a turn was live before or was
opened in it, and what was live before stays with its terms or has ended, for
one of three reasons, each of which is announced. -/
namespace InstancedAreas

/-- Instances that are the same with some occupants have the same terms. -/
theorem Instance.terms_eq {i j : Instance} {occupants others : Occupants}
    (same : ({ i with occupants } : Instance) = { j with occupants := others }) :
    occupants = others ∧ j = { i with occupants := j.occupants } := by
  cases i
  cases j
  cases same
  exact ⟨rfl, rfl⟩

namespace Registry

theorem Live.holds {r : Registry} {i : Instance} (live : r.Live i) : r.Holds i :=
  ⟨i.occupants, live⟩

/-- No two instances are live at one place. -/
theorem Live.eq {r : Registry} {i j : Instance} (live : r.Live i) (other : r.Live j)
    (template : i.template = j.template) (key : i.key = j.key) : i = j := by
  rw [Live, template, key] at live
  exact Option.some.inj (live.symm.trans other)

/-- By the handle of a live instance a player leaves it. What remains of it is at its
place, every other place stays as it was, and the answer is true where nothing
remains. -/
theorem Keyed.leave_of_live {r : Registry} {i : Instance} {t : Template} (keyed : r.Keyed)
    (live : r.Live i) (home : r.template? i.template = some t) (now : Instant)
    (player : PlayerId) :
    let left := r.leave now ⟨i.template, i.key, i.id⟩ player
    left.2 = .ok (i.without t player).isNone ∧
      ∀ template key, left.1.instance? template key =
        if template = i.template ∧ key = i.key then i.without t player
        else r.instance? template key := by
  obtain ⟨pool, found, held⟩ := instance?_eq_some_iff.mp live
  obtain ⟨same, -⟩ := keyed _ pool found
  have known : pool.template = t := by
    rw [template?, found] at home
    exact Option.some.inj home
  have own : (r.instance? i.template i.key).any (·.id = i.id) = true := by
    rw [live]
    simp
  have removed := removeOccupant_of_held now (keyed.home found) held player
  rw [same, known] at removed
  rw [leave_of_own ⟨i.template, i.key, i.id⟩ own]
  exact removed

/-- Nothing is live at the beginning. -/
theorem not_live_ofTemplates (templates : List Template) (buffer : Nat) (i : Instance) :
    ¬ (ofTemplates templates buffer).Live i := by
  intro live
  cases live.symm.trans (instance?_ofTemplates templates buffer i.template i.key)

/-- The turns of a run that begins with a registry. -/
def turns (r : Registry) : Run → List Turn
  | [] => []
  | (now, op) :: rest => ⟨r, now, op⟩ :: (r.perform now op).turns rest

theorem turns_append (r : Registry) (run more : Run) :
    r.turns (run ++ more) = r.turns run ++ (r.after run).turns more := by
  induction run generalizing r with
  | nil => rfl
  | cons step rest ih => exact congrArg (_ :: ·) (ih (r.perform step.1 step.2))

theorem after_append (r : Registry) (run more : Run) :
    r.after (run ++ more) = (r.after run).after more :=
  List.foldl_append

/-- A turn stands where its operation stands in the run. -/
theorem turns_split {r : Registry} {run : Run} {early late : List Turn} {turn : Turn}
    (split : r.turns run = early ++ turn :: late) :
    ∃ first rest, run = first ++ (turn.now, turn.op) :: rest ∧ r.turns first = early ∧
      turn.before = r.after first ∧ turn.after.turns rest = late := by
  induction run generalizing r early with
  | nil => cases early <;> cases split
  | cons step rest ih =>
    obtain ⟨now, op⟩ := step
    cases early with
    | nil =>
      obtain ⟨rfl, rfl⟩ := List.cons.inj split
      exact ⟨[], rest, rfl, rfl, rfl, rfl⟩
    | cons first early =>
      obtain ⟨rfl, tail⟩ := List.cons.inj split
      obtain ⟨part, left, rfl, same, before, after⟩ := ih tail
      exact ⟨(now, op) :: part, left, rfl, congrArg (_ :: ·) same, before, after⟩

end Registry

/-! ## Templates -/

theorem Opening.template? {opens : Template → Instance → Prop} {now : Instant} {r s : Registry}
    (opening : Opening opens now r s) (id : TemplateId) : s.template? id = r.template? id := by
  obtain ⟨pool, i, home⟩ := opening
  exact Registry.template?_putPool home (pool.template_put i) id

theorem Change.template? {now : Instant} {r s : Registry} (change : Change now r s)
    (id : TemplateId) : s.template? id = r.template? id := by
  cases change with
  | joined pool i _ home | rejoined pool i _ home | left pool i _ home =>
    exact Registry.template?_putPool home (pool.template_put _) id
  | emptied pool i _ home | released pool i _ home =>
    exact Registry.template?_putPool home (pool.template_drop _) id
  | expired pool i home => exact Registry.template?_expired home id

theorem Registry.template?_perform {r : Registry} (keyed : r.Keyed) (now : Instant)
    (op : Operation) (id : TemplateId) : (r.perform now op).template? id = r.template? id :=
  perform_preserves (I := fun s => s.template? id = r.template? id) (fun _ same => same)
    (fun opening same => (opening.template? id).trans same)
    (fun _ change same => (change.template? id).trans same) keyed rfl

namespace Run

variable {run : Run} {templates : List Template} {buffer : Nat}

/-- The turns of a run when nothing is live at the beginning. -/
def turns (run : Run) (templates : List Template) (buffer : Nat) : List Turn :=
  (Registry.ofTemplates templates buffer).turns run

/-- Nothing is done to the registry but what the service does. -/
def Served (run : Run) : Prop := ∀ step ∈ run, step.2.isDirect = false

instance (run : Run) : Decidable run.Served := inferInstanceAs (Decidable (∀ _ ∈ run, _))

theorem Served.admitsOnly {run : Run} (served : run.Served) : run.AdmitsOnly := by
  intro step member
  refine Bool.eq_false_iff.mpr fun creates => ?_
  cases (Operation.isDirect_of_isCreate creates).symm.trans (served step member)

theorem result_append (run more : Run) (templates : List Template) (buffer : Nat) :
    (run ++ more).result templates buffer = (run.result templates buffer).after more :=
  Registry.after_append ..

theorem turns_append (run more : Run) (templates : List Template) (buffer : Nat) :
    (run ++ more).turns templates buffer =
      run.turns templates buffer ++ (run.result templates buffer).turns more :=
  Registry.turns_append ..

/-- Runs grow by one operation at the end. -/
theorem induction {motive : Run → Prop} (nil : motive [])
    (concat : ∀ (run : Run) now op, motive run → motive (run ++ [(now, op)])) (run : Run) :
    motive run :=
  List.reverseRecOn run nil fun run step holds => concat run step.1 step.2 holds

theorem ids_concat (run : Run) (now : Instant) (op : Operation) :
    Run.ids (run ++ [(now, op)]) = run.ids ++ op.fresh?.toList := by
  rw [ids, List.filterMap_append, ids]
  cases given : op.fresh? <;> simp [given]

theorem Fresh.of_append {run more : Run} (fresh : (run ++ more).Fresh) : run.Fresh := by
  rw [Fresh, ids, List.filterMap_append] at fresh
  exact (List.nodup_append.mp fresh).1

theorem result_concat (run : Run) (now : Instant) (op : Operation) (templates : List Template)
    (buffer : Nat) :
    Run.result (run ++ [(now, op)]) templates buffer =
      (⟨run.result templates buffer, now, op⟩ : Turn).after :=
  run.result_append [(now, op)] templates buffer

theorem turns_concat (run : Run) (now : Instant) (op : Operation) (templates : List Template)
    (buffer : Nat) :
    Run.turns (run ++ [(now, op)]) templates buffer =
      run.turns templates buffer ++ [⟨run.result templates buffer, now, op⟩] :=
  run.turns_append [(now, op)] templates buffer

/-- Each turn is an operation of the run, on what the operations before it lead
to. -/
theorem mem_turns {turn : Turn} (member : turn ∈ run.turns templates buffer) :
    (turn.now, turn.op) ∈ run ∧ ∃ first, turn.before = Run.result first templates buffer := by
  obtain ⟨early, late, split⟩ := List.append_of_mem member
  obtain ⟨first, rest, same, -, before, -⟩ := Registry.turns_split split
  exact ⟨by simp [same], first, before⟩

theorem keyed_of_mem_turns {turn : Turn} (member : turn ∈ run.turns templates buffer) :
    turn.before.Keyed := by
  obtain ⟨-, first, before⟩ := mem_turns member
  rw [before]
  exact first.keyed templates buffer

/-- Templates never change. -/
theorem template?_result (run : Run) (templates : List Template) (buffer : Nat) (id : TemplateId) :
    (run.result templates buffer).template? id =
      (Registry.ofTemplates templates buffer).template? id :=
  Registry.after_preserves
    (I := fun r => r.template? id = (Registry.ofTemplates templates buffer).template? id)
    (fun _ keyed same => (Registry.template?_perform keyed _ _ id).trans same)
    (Registry.keyed_ofTemplates templates buffer) rfl

/-- Templates stay as they are when a run goes on. -/
theorem template?_after (run more : Run) (id : TemplateId) :
    ((run.result templates buffer).after more).template? id =
      (run.result templates buffer).template? id := by
  rw [← result_append, template?_result, template?_result]

theorem keyed_after (run more : Run) : ((run.result templates buffer).after more).Keyed := by
  rw [← result_append]
  exact Run.keyed (run ++ more) templates buffer

theorem template?_of_mem_turns {turn : Turn} (member : turn ∈ run.turns templates buffer)
    (id : TemplateId) :
    turn.before.template? id = (run.result templates buffer).template? id := by
  obtain ⟨-, first, before⟩ := mem_turns member
  rw [before, template?_result, template?_result]

end Run

/-! ## What is live before and after -/

namespace Turn

variable {turn : Turn} {i j : Instance}

theorem Tells.events_eq {events : List Event} (tells : turn.Tells events) :
    turn.events = events := by
  rw [Turn.events, tells, List.drop_left]

theorem Puts.live_iff (puts : turn.Puts i) :
    turn.after.Live j ↔ j = i ∨ turn.before.Live j ∧ ¬ (j.template = i.template ∧ j.key = i.key) := by
  rw [Registry.Live, puts]
  split
  · rename_i here
    simp [here, eq_comm]
  · rename_i elsewhere
    constructor
    · intro live
      exact .inr ⟨live, elsewhere⟩
    · rintro (rfl | ⟨live, -⟩)
      · exact absurd ⟨rfl, rfl⟩ elsewhere
      · exact live

theorem Frees.live_iff (frees : turn.Frees i) :
    turn.after.Live j ↔ turn.before.Live j ∧ ¬ (j.template = i.template ∧ j.key = i.key) := by
  rw [Registry.Live, frees]
  split
  · rename_i here
    simp [here]
  · rename_i elsewhere
    exact ⟨fun live => ⟨live, elsewhere⟩, And.left⟩

/-- Where only the occupants of one instance change, every instance stays. -/
theorem Puts.holds {occupants : Occupants} (puts : turn.Puts { i with occupants })
    (found : turn.before.Live i) (live : turn.before.Live j) : turn.after.Holds j := by
  by_cases here : j.template = i.template ∧ j.key = i.key
  · obtain rfl := live.eq found here.1 here.2
    exact ⟨occupants, puts.live_iff.mpr (.inl rfl)⟩
  · exact (puts.live_iff.mpr (.inr ⟨live, here⟩)).holds

/-- Where one instance ends, every other stays. -/
theorem Frees.eq_of_gone (frees : turn.Frees i) (found : turn.before.Live i)
    (live : turn.before.Live j) (gone : ¬ turn.after.Holds j) : j = i := by
  by_contra other
  have elsewhere : ¬ (j.template = i.template ∧ j.key = i.key) := by
    rintro ⟨template, key⟩
    exact other (live.eq found template key)
  exact gone (frees.live_iff.mpr ⟨live, elsewhere⟩).holds

/-- Where an instance that is live after a turn comes from. -/
inductive Origin (turn : Turn) (j : Instance) : Prop where
  | stayed (before : turn.before.Live j)
  /-- Players came in. -/
  | joined (i : Instance) (players : List PlayerId) (found : turn.before.Live i)
      (same : j = { i with occupants := i.occupants.insertAll players })
      (way : turn.op.isDirect = true ∨ ∃ request, players = request.group ∧
        turn.Admits request j false)
  /-- It was opened, and if that was for a request, its group came in. -/
  | opened (players : List PlayerId) (inside : j.occupants = Occupants.empty.insertAll players)
      (way : turn.op.isCreate = true ∧ players = [] ∨ ∃ request, players = request.group ∧
        turn.Admits request j true)
  /-- A player left. -/
  | left (t : Template) (i : Instance) (player : PlayerId)
      (home : turn.before.template? i.template = some t) (found : turn.before.Live i)
      (same : j = { i with occupants := i.occupants.erase player })
      (stays : j.occupants.isEmpty = true → t.release = .onExpiry)

/-- Whatever is live after a turn was there before, was opened or has changed its
occupants. -/
theorem origin (keyed : turn.before.Keyed) (live : turn.after.Live j) : turn.Origin j := by
  cases turn.outcome keyed with
  | quiet still => exact .stayed ((still j.template j.key).symm.trans live)
  | joined i players found puts tells way =>
    rcases puts.live_iff.mp live with rfl | ⟨before, -⟩
    · exact .joined i players found rfl way
    · exact .stayed before
  | opened t born players home free given empty puts tells way =>
    rcases puts.live_iff.mp live with rfl | ⟨before, -⟩
    · exact .opened players (by rw [empty]) way
    · exact .stayed before
  | left t i player home found out stays puts =>
    rcases puts.live_iff.mp live with rfl | ⟨before, -⟩
    · exact .left t i player home found rfl stays
    · exact .stayed before
  | emptied t i player home found out inside last policy frees =>
    exact .stayed (frees.live_iff.mp live).1
  | released i reason found asked frees => exact .stayed (frees.live_iff.mp live).1
  | swept ended sweeps once due stays => exact .stayed ((stays j).mp live).1

/-- What is live after a turn was live before, perhaps with other occupants, or has the
id that the turn was given. -/
theorem holds_or_given (keyed : turn.before.Keyed) (live : turn.after.Live j) :
    turn.before.Holds j ∨ turn.op.fresh? = some j.id := by
  have old (before : turn.before.Live j) : turn.before.Holds j ∨ turn.op.fresh? = some j.id :=
    .inl before.holds
  cases turn.outcome keyed with
  | quiet still => exact old ((still j.template j.key).symm.trans live)
  | joined i players found puts | left t i player home found out stays puts =>
    rcases puts.live_iff.mp live with rfl | ⟨before, -⟩
    · exact .inl ⟨i.occupants, found⟩
    · exact old before
  | opened t born players home free given empty puts =>
    rcases puts.live_iff.mp live with rfl | ⟨before, -⟩
    · exact .inr given
    · exact old before
  | emptied t i player home found out inside last policy frees =>
    exact old (frees.live_iff.mp live).1
  | released i reason found asked frees => exact old (frees.live_iff.mp live).1
  | swept ended sweeps once due stays => exact old ((stays j).mp live).1

/-- Why an instance ends in a turn. -/
inductive Ends (turn : Turn) (i : Instance) : Prop where
  /-- A sweep finds its deadline passed. -/
  | swept (sweeps : turn.op.isSweep = true) (due : i.expiresAt ≤ turn.now)
  /-- Its only occupant leaves, and the template asks for its release. -/
  | emptied (t : Template) (player : PlayerId)
      (home : turn.before.template? i.template = some t) (out : turn.op.TakesOut i player)
      (alone : i.occupants.players = [player]) (policy : t.release = .whenEmpty)
  /-- It is released on request. -/
  | released (reason : ReleaseReason) (asked : turn.op = .release i.template i.key reason)

/-- An instance that is not live any more has ended for a reason, and its release
has been announced. -/
theorem ends_of_gone (keyed : turn.before.Keyed) (live : turn.before.Live j)
    (gone : ¬ turn.after.Holds j) :
    turn.Ends j ∧ ∃ reason, .of j turn.now (.released reason) ∈ turn.events := by
  cases turn.outcome keyed with
  | quiet still =>
    have stays : turn.after.Live j := (still j.template j.key).trans live
    exact absurd stays.holds gone
  | joined i players found puts => exact absurd (puts.holds found live) gone
  | opened t born players home free given empty puts =>
    have elsewhere : ¬ (j.template = born.template ∧ j.key = born.key) := by
      rintro ⟨template, key⟩
      rw [← template, ← key] at free
      cases live.symm.trans free
    exact absurd (puts.live_iff.mpr (.inr ⟨live, elsewhere⟩)).holds gone
  | left t i player home found out stays puts => exact absurd (puts.holds found live) gone
  | emptied t i player home found out inside last policy frees tells =>
    obtain rfl := frees.eq_of_gone found live gone
    refine ⟨.emptied t player home out (Occupants.eq_singleton inside last) policy, .emptied, ?_⟩
    rw [tells.events_eq]
    exact List.mem_singleton_self _
  | released i reason found asked frees tells =>
    obtain rfl := frees.eq_of_gone found live gone
    refine ⟨.released reason asked, reason, ?_⟩
    rw [tells.events_eq]
    exact List.mem_singleton_self _
  | swept ended sweeps once due stays tells =>
    have member : j ∈ ended := by
      by_contra other
      exact gone ((stays j).mpr ⟨live, other⟩).holds
    refine ⟨.swept sweeps (due j member).2, .expired, ?_⟩
    rw [tells.events_eq]
    exact List.mem_flatMap.mpr ⟨j, member, List.mem_append_right _ (List.mem_singleton_self _)⟩

end Turn

end InstancedAreas
