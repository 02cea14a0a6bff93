import InstancedAreas.Proofs.Admission.Placement
import InstancedAreas.Proofs.Sweep.Cut

/-! Runs: operations on a registry one after the other, each at a time of its
own, from a registry in which nothing is live. Times may go back and forth.
What the elementary changes preserve, and what does not depend on the queue,
holds after every run. -/
namespace InstancedAreas

/-- An operation on the live instances. Those that may create one are given an
id for it. -/
inductive Operation where
  | enter (fresh : InstanceId) (request : Request)
  | pass (policies : Gate.Policies) (source : Gate.Source) (fresh : InstanceId) (gate : String)
      (request : Request)
  | leave (handle : Handle) (player : PlayerId)
  | create (fresh : InstanceId) (template : TemplateId) (key : InstanceKey) (lifetime : Duration)
      (originArea : AreaId)
  | addOccupants (template : TemplateId) (key : InstanceKey) (players : List PlayerId)
  | removeOccupant (template : TemplateId) (key : InstanceKey) (player : PlayerId)
  | release (template : TemplateId) (key : InstanceKey) (reason : ReleaseReason)
  | sweep
  | cutSweep (point : SweepPoint)
  | schedule (teardown : Teardown)

namespace Operation

/-- The id that an operation is given for an instance it may create. -/
def fresh? : Operation → Option InstanceId
  | enter fresh _ | pass _ _ fresh _ _ | create fresh .. => some fresh
  | _ => none

/-- Whether an operation creates an instance directly, not by admission. -/
def isCreate : Operation → Bool
  | create .. => true
  | _ => false

/-- Whether an operation schedules a teardown by itself. -/
def isSchedule : Operation → Bool
  | schedule _ => true
  | _ => false

/-- Which instances an operation may open for a template. -/
def opens : Operation → Template → Instance → Prop
  | enter fresh _ | pass _ _ fresh _ _ => Opens.admission fresh
  | create fresh .. => fun _ i => i.id = fresh
  | _ => fun _ _ => False

/-- An instance that an operation may open has the id that the operation is
given. -/
theorem id_of_opens {op : Operation} {t : Template} {i : Instance} (allowed : op.opens t i) :
    op.fresh? = some i.id := by
  cases op with
  | enter | pass => exact congrArg some allowed.1.symm
  | create => exact congrArg some (Eq.symm allowed)
  | leave | addOccupants | removeOccupant | release | sweep | cutSweep | schedule =>
    exact allowed.elim

end Operation

/-- Operations, each at a time. -/
abbrev Run := List (Instant × Operation)

namespace Registry

/-- The registry after an operation at a time. -/
def perform (r : Registry) (now : Instant) : Operation → Registry
  | .enter fresh request => (r.enter now fresh request).1
  | .pass policies source fresh gate request =>
    (Gate.pass policies source r now fresh gate request).1
  | .leave handle player => (r.leave now handle player).1
  | .create fresh template key lifetime originArea =>
    (r.create now fresh template key lifetime originArea).1
  | .addOccupants template key players => (r.addOccupants now template key players).1
  | .removeOccupant template key player => (r.removeOccupant now template key player).1
  | .release template key reason => (r.release now template key reason).1
  | .sweep => (r.reclaimDue now).registry
  | .cutSweep point => (r.reclaimUntil now point).registry
  | .schedule teardown => r.schedule teardown

/-- The registry after a run. -/
def after (r : Registry) (run : Run) : Registry :=
  run.foldl (fun r step => r.perform step.1 step.2) r

end Registry

namespace Run

/-- The registry that a run leads to when nothing is live at the beginning. -/
def result (run : Run) (templates : List Template) (buffer : Nat) : Registry :=
  (Registry.ofTemplates templates buffer).after run

/-- The ids that the operations are given, in order. -/
def ids (run : Run) : List InstanceId := run.filterMap fun step => step.2.fresh?

theorem ids_cons (now : Instant) (op : Operation) (rest : Run) :
    ids ((now, op) :: rest) = op.fresh?.toList ++ ids rest := by
  cases given : op.fresh? <;> simp [ids, given]

/-- No id is given twice. -/
def Fresh (run : Run) : Prop := run.ids.Nodup

/-- No instance is created but by admission. -/
def AdmitsOnly (run : Run) : Prop := ∀ step ∈ run, step.2.isCreate = false

/-- No teardown is scheduled but for an instance. -/
def Unscheduled (run : Run) : Prop := ∀ step ∈ run, step.2.isSchedule = false

instance (run : Run) : Decidable run.Fresh := inferInstanceAs (Decidable (List.Nodup _))

instance (run : Run) : Decidable run.AdmitsOnly := inferInstanceAs (Decidable (∀ _ ∈ run, _))

instance (run : Run) : Decidable run.Unscheduled := inferInstanceAs (Decidable (∀ _ ∈ run, _))

end Run

namespace Registry

variable {r : Registry} {now : Instant} {op : Operation}

/-- An operation sweeps, perhaps not to the end, schedules a teardown, or opens
and changes no more than one instance. -/
theorem perform_cases (keyed : r.Keyed) (now : Instant) (op : Operation) :
    (∃ point, r.perform now op = (r.reclaimUntil now point).registry) ∨
      (∃ t, op = .schedule t) ∨ Effect op.opens now r (r.perform now op) := by
  cases op with
  | enter fresh request => exact .inr (.inr (enter_effect keyed fresh request))
  | pass policies source fresh gate request =>
    exact .inr (.inr (Gate.pass_effect keyed policies source fresh gate request))
  | leave handle player => exact .inr (.inr (.of_change (leave_change keyed now handle player)))
  | create fresh template key lifetime originArea =>
    refine .inr (.inr ?_)
    rcases create_cases (fun _ i => i.id = fresh) keyed now fresh template key lifetime
      originArea (fun _ _ _ id _ => id) with ⟨error, failed⟩ | ⟨after, i, opened, opening⟩
    · rw [perform, failed]
      exact .refl r
    · rw [perform, opened]
      exact ⟨after, .inr opening, .inl rfl⟩
  | addOccupants template key players =>
    exact .inr (.inr (.of_change (addOccupants_change keyed now template key players)))
  | removeOccupant template key player =>
    exact .inr (.inr (.of_change (removeOccupant_change keyed now template key player)))
  | release template key reason =>
    exact .inr (.inr (.of_change (release_change keyed now template key reason)))
  | sweep => exact .inl ⟨.notifying 0, rfl⟩
  | cutSweep point => exact .inl ⟨point, rfl⟩
  | schedule teardown => exact .inr (.inl ⟨teardown, rfl⟩)

/-- What does not depend on the queue, and is preserved by opening and changing
instances, holds after every operation. -/
theorem perform_preserves {I : Registry → Prop}
    (queueFree : ∀ {r : Registry} (queue : TeardownQueue), I r → I { r with queue })
    (opening : ∀ {s}, Opening op.opens now r s → I r → I s)
    (change : ∀ {r s}, r.Keyed → Change now r s → I r → I s) (keyed : r.Keyed) (holds : I r) :
    I (r.perform now op) := by
  rcases perform_cases keyed now op with ⟨point, swept⟩ | ⟨t, rfl⟩ | effect
  · rw [swept, reclaimUntil_eq]
    exact queueFree _ (Harvest.foldl_step_preserves queueFree change _ keyed (queueFree _ holds))
  · exact queueFree _ holds
  · exact effect.preserve opening change keyed holds

/-- What every pool has after a change of it, every pool has after an
operation. -/
theorem perform_all {P : Pool → Prop} (stable : Pool.Stable op.opens P) (keyed : r.Keyed)
    (all : r.All P) : (r.perform now op).All P :=
  perform_preserves (I := All P) (fun _ holds => holds) (fun opening => opening.all stable)
    (fun _ change => change.all stable) keyed all

theorem perform_keyed (keyed : r.Keyed) (now : Instant) (op : Operation) :
    (r.perform now op).Keyed :=
  perform_all Pool.keyed_stable keyed keyed

/-- What every operation hands on to the rest of a run holds at its end. -/
theorem after_preserves_rest {I : Run → Registry → Prop} {run : Run}
    (step : ∀ {r now op rest}, r.Keyed → I ((now, op) :: rest) r → I rest (r.perform now op))
    (keyed : r.Keyed) (holds : I run r) : I [] (r.after run) := by
  induction run generalizing r with
  | nil => exact holds
  | cons first rest ih => exact ih (perform_keyed keyed first.1 first.2) (step keyed holds)

/-- What every operation of a run preserves in keyed registries, the run
preserves. -/
theorem after_preserves {I : Registry → Prop} {run : Run}
    (step : ∀ {r now op}, (now, op) ∈ run → r.Keyed → I r → I (r.perform now op))
    (keyed : r.Keyed) (holds : I r) : I (r.after run) := by
  refine (after_preserves_rest (I := fun rest s => rest ⊆ run ∧ I s) ?_ keyed
    ⟨fun _ => id, holds⟩).2
  intro s now op rest keyed ⟨part, holds⟩
  exact ⟨fun _ member => part (List.mem_cons_of_mem _ member),
    step (part (List.mem_cons_self ..)) keyed holds⟩

end Registry

namespace Run

/-- What empty pools have, and pools keep in every operation, all pools have
after a run. -/
theorem all {P : Pool → Prop} {run : Run} {templates : List Template}
    (stable : ∀ step ∈ run, Pool.Stable step.2.opens P) (buffer : Nat)
    (empty : ∀ t ∈ templates, P ⟨t, .empty⟩) : (run.result templates buffer).All P :=
  Registry.after_preserves (fun member => Registry.perform_all (stable _ member))
    (Registry.keyed_ofTemplates templates buffer) (Registry.all_ofTemplates templates buffer empty)

/-- Every run leads to a keyed registry. -/
theorem keyed (run : Run) (templates : List Template) (buffer : Nat) :
    (run.result templates buffer).Keyed :=
  all (fun _ _ => Pool.keyed_stable) buffer fun _ _ _ _ found => nomatch found

end Run

end InstancedAreas
