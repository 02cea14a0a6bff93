import InstancedAreas.Proofs.Run.Turns
import InstancedAreas.Vigil

/-! Services in the course of time. While somebody waits, patrols sweep again and again and
hand over notices at a pace of their own, also in the middle of a sweep that is held up.
Whatever they do, the live instances are those that a run leads to: the operations that the
service was asked for, in their order, and sweeps at the times that its clock showed. So what
holds after all runs holds of a service that is watched over. -/
namespace InstancedAreas

/-- Nothing but sweeps at one time, complete or cut short. -/
def Run.SweepsAt (run : Run) (now : Instant) : Prop :=
  ∀ step ∈ run, step.1 = now ∧ step.2.isSweep = true

/-- The operations of a run that are no sweeps. -/
def Run.unswept (run : Run) : Run := run.filter fun step => !step.2.isSweep

namespace Run

variable {run : Run} {now : Instant}

theorem SweepsAt.unswept (sweeps : run.SweepsAt now) : run.unswept = [] :=
  List.filter_eq_nil_iff.mpr fun step member => by simp [(sweeps step member).2]

/-- A sweep is given no id. -/
theorem ids_unswept (run : Run) : run.unswept.ids = run.ids := by
  induction run with
  | nil => rfl
  | cons first rest ih =>
    obtain ⟨now, op⟩ := first
    cases sweeps : op.isSweep with
    | true =>
      have skipped : unswept ((now, op) :: rest) = unswept rest := by simp [unswept, sweeps]
      have idless : op.fresh? = none := by cases op <;> first | rfl | cases sweeps
      rw [skipped, ih, ids_cons, idless]
      rfl
    | false =>
      have kept : unswept ((now, op) :: rest) = (now, op) :: unswept rest := by
        simp [unswept, sweeps]
      rw [kept, ids_cons, ids_cons, ih]

end Run

namespace Registry

variable {r : Registry} {now : Instant}

/-- Where nothing is due, a sweep does nothing. -/
theorem perform_of_ahead (ahead : ∀ t ∈ r.queue.pending, now < t.deadline) {op : Operation}
    (sweeps : op.isSweep = true) : r.perform now op = r := by
  have due := takeDue_of_ahead ahead
  cases op with
  | sweep =>
    rw [perform, reclaimDue, due]
    rfl
  | cutSweep point =>
    rw [perform, reclaimUntil_eq, due]
    cases point with
    | reclaiming count =>
      simp only [SweepPoint.done, SweepPoint.left, List.take_nil, List.drop_nil]
      rfl
    | notifying count => rfl
  | enter | pass | leave | create | addOccupants | removeOccupant | release | schedule =>
    cases sweeps

theorem after_of_ahead (ahead : ∀ t ∈ r.queue.pending, now < t.deadline) {run : Run}
    (sweeps : run.SweepsAt now) : r.after run = r := by
  induction run with
  | nil => rfl
  | cons first rest ih =>
    obtain ⟨⟨same, sweep⟩, others⟩ := List.forall_mem_cons.mp sweeps
    have stays : r.perform first.1 first.2 = r := perform_of_ahead (same ▸ ahead) sweep
    exact (congrArg (after · rest) stays).trans (ih others)

end Registry

/-- What patrols do to a service: they sweep, and hand over notices. -/
structure Service.Watched (before after : Service) : Prop where
  kept : after = { before with registry := after.registry, relocator := after.relocator }
  swept : ∃ run : Run, run.SweepsAt before.now ∧ after.registry = before.registry.after run

namespace Service.Watched

variable {s s' s'' : Service}

theorem refl (s : Service) : s.Watched s := ⟨rfl, [], List.forall_mem_nil _, rfl⟩

theorem now_eq (watched : s.Watched s') : s'.now = s.now := by
  rw [watched.kept]
  rfl

theorem trans (first : s.Watched s') (second : s'.Watched s'') : s.Watched s'' := by
  obtain ⟨run, sweeps, swept⟩ := first.swept
  obtain ⟨more, sweeps', swept'⟩ := second.swept
  rw [first.now_eq] at sweeps'
  refine ⟨?_, run ++ more, List.forall_mem_append.mpr ⟨sweeps, sweeps'⟩, ?_⟩
  · rw [second.kept, first.kept]
  · rw [Registry.after_append, ← swept, swept']

/-- What takes notices makes no difference to the live instances. -/
theorem relocated (watched : s.Watched s') (relocator : Relocator) :
    s.Watched { s' with relocator } :=
  watched.trans ⟨rfl, [], List.forall_mem_nil _, rfl⟩

theorem reclaimed (watched : s.Watched s') :
    s.Watched { s' with registry := (s'.registry.reclaimDue s'.now).registry } :=
  watched.trans ⟨rfl, [(s'.now, .sweep)], List.forall_mem_singleton.mpr ⟨rfl, rfl⟩, rfl⟩

end Service.Watched

namespace Vigil

variable {s : Service} {v : Vigil}

/-! ### Patrols -/

section Patrols

variable (watched : s.Watched v.service)

include watched

theorem watched_patrolHands (patrol : Patrol) (due : Nat) (notices : List Eviction)
    (failures : Nat) : s.Watched (v.patrolHands patrol due notices failures).service :=
  watched.relocated _

/-- A patrol does to the live instances at once what a sweep does. -/
theorem watched_patrolSweeps (patrol : Patrol) (due : Nat) :
    s.Watched (v.patrolSweeps patrol due).service := by
  unfold patrolSweeps
  apply watched_patrolHands
  exact watched.reclaimed

theorem watched_patrolSteps (patrol : Patrol) : s.Watched (v.patrolSteps patrol).service := by
  unfold patrolSteps
  split
  · split
    · exact watched
    · exact watched_patrolSweeps watched ..
  · exact watched_patrolSweeps watched ..
  · exact watched_patrolHands watched ..
  · exact watched

theorem watched_patrolUntil (target steps : Nat) :
    s.Watched (patrolUntil target steps v).service := by
  induction steps generalizing v with
  | zero => exact watched
  | succ steps ih =>
    unfold patrolUntil
    split
    · exact watched
    · split
      · apply ih
        apply watched_patrolSteps
        exact watched
      · exact watched

theorem watched_waitUntil (target : Nat) : s.Watched (v.waitUntil target).service :=
  watched_patrolUntil watched ..

theorem watched_setOut : s.Watched v.setOut.service := by
  have steps (leaving : List Patrol) {v : Vigil} (watched : s.Watched v.service) :
      s.Watched (leaving.foldl patrolSteps v).service := by
    induction leaving generalizing v with
    | nil => exact watched
    | cons patrol rest ih => exact ih (watched_patrolSteps watched patrol)
  unfold setOut
  apply steps
  exact watched

end Patrols

/-! ### Sweeps that wait -/

/-- While notices are handed over, patrols may sweep. -/
theorem watched_deliver (watched : s.Watched v.service) (limit : Option Nat)
    (notices : List Eviction) (failures : Nat) :
    s.Watched (deliver limit notices failures v).1.service := by
  induction notices generalizing v failures with
  | nil => exact watched
  | cons notice rest ih =>
    have taken := watched.relocated (v.service.relocator.take notice).1
    simp only [deliver]
    split
    · apply ih
      exact taken
    · split
      · apply ih
        apply watched_waitUntil
        exact taken
      · split
        · apply watched_waitUntil
          exact taken
        · apply ih
          apply watched_waitUntil
          exact taken

theorem watched_sweep (watched : s.Watched v.service) : s.Watched v.sweep.1.service := by
  apply watched_deliver
  exact watched.reclaimed

/-- A sweep that is held up is cut short or goes on to its end. What patrols do while it waits in
vain finds nothing due, so that what it puts back is as it was. -/
theorem watched_sweepHeld (keyed : v.service.registry.Keyed) (template : TemplateId)
    (millis : Nat) : v.service.Watched (v.sweepHeld template millis).1.service := by
  cases held : v.service.registry.dueBefore? v.service.now template with
  | none =>
    simp only [sweepHeld, held]
    apply watched_deliver
    exact (Service.Watched.refl v.service).reclaimed
  | some count =>
    let now := v.service.now
    let harvest := (v.service.registry.reclaimSome now count).1
    let left := (v.service.registry.reclaimSome now count).2
    let stopped : Vigil := { v with service := { v.service with registry := harvest.registry } }
    have waited : stopped.service.Watched (stopped.waitUntil (v.time + millis)).service :=
      watched_waitUntil (.refl _) _
    obtain ⟨run, sweeps, swept⟩ := waited.swept
    have keyedRest : (v.service.registry.takeDue now).2.Keyed := keyed
    obtain ⟨ended, deferred, tracks⟩ :=
      keyedRest.tracks now ((v.service.registry.takeDue now).1.take count)
    have ahead : ∀ t ∈ harvest.registry.queue.pending, now < t.deadline :=
      tracks.ahead fun t member => (Registry.mem_takeDue_rest.mp member).2
    have stays : (stopped.waitUntil (v.time + millis)).service.registry = harvest.registry :=
      swept.trans (Registry.after_of_ahead ahead sweeps)
    simp only [sweepHeld, held]
    refine ⟨?_, [(now, .cutSweep (.reclaiming count))],
      List.forall_mem_singleton.mpr ⟨rfl, rfl⟩, congrArg (·.putBack left) stays⟩
    exact congrArg (fun s : Service => { s with registry := s.registry.putBack left }) waited.kept

/-! ### Whatever is asked for -/

/-- What can be asked for in the course of time. -/
inductive Act where
  /-- An operation on the live instances, at the time that the clock shows. -/
  | serve (op : Operation)
  | advance (span : Duration)
  | setClock (t : Instant)
  | sleep (millis : Nat)
  | sweep
  | sweepHeld (template : TemplateId) (millis : Nat)
  | startPatrol (period : Duration)
  | stopPatrol

/-- A vigil after something was asked for. -/
def act (v : Vigil) : Act → Vigil
  | .serve op => (v.onService (·.onRegistry (·.perform v.service.now op, ()))).1
  | .advance span => { v with service := v.service.advance span }
  | .setClock t => { v with service := v.service.setClock t }
  | .sleep millis => v.sleep millis
  | .sweep => v.sweep.1
  | .sweepHeld template millis => (v.sweepHeld template millis).1
  | .startPatrol period => v.startPatrol period
  | .stopPatrol => v.stopPatrol.1

/-- A vigil after much was asked for. -/
def after (v : Vigil) (acts : List Act) : Vigil := acts.foldl act v

/-- The operation that an act asks for at a time, if it asks for one. -/
def Act.operations (now : Instant) : Act → Run
  | serve op => [(now, op)]
  | _ => []

/-- The id that is given with an act for an instance that it may create. -/
def Act.fresh? : Act → Option InstanceId
  | serve op => op.fresh?
  | _ => none

/-- A run follows what is asked for: for each act it has the operation asked for, if there is
one, and sweeps, all at the time that the clock shows. -/
inductive Follows : Vigil → List Act → Run → Prop where
  | nil {v : Vigil} : Follows v [] []
  | cons {v : Vigil} {first : Act} {rest : List Act} {done later : Run}
      (timely : ∀ step ∈ done, step.1 = v.service.now)
      (asked : done.unswept = (first.operations v.service.now).unswept)
      (onward : Follows (v.act first) rest later) : Follows v (first :: rest) (done ++ later)

/-- The ids that a run is given are those that came with the acts that it follows. -/
theorem Follows.ids {acts : List Act} {run : Run} (follows : v.Follows acts run) :
    run.ids = acts.filterMap Act.fresh? := by
  induction follows with
  | nil => rfl
  | @cons v first rest done later timely asked onward ih =>
    have own : done.ids = first.fresh?.toList := by
      rw [← done.ids_unswept, asked, Run.ids_unswept]
      cases first with
      | serve op => exact (Run.ids_cons v.service.now op []).trans (List.append_nil _)
      | advance | setClock | sleep | sweep | sweepHeld | startPatrol | stopPatrol => rfl
    have both : Run.ids (done ++ later) = done.ids ++ later.ids := List.filterMap_append
    rw [both, own, ih]
    cases given : first.fresh? <;> simp [given]

/-- What is asked for is done by a run of the operation, if it is one, and of sweeps. -/
theorem act_is_a_run (keyed : v.service.registry.Keyed) (first : Act) :
    ∃ done : Run, (v.act first).service.registry = v.service.registry.after done ∧
      (∀ step ∈ done, step.1 = v.service.now) ∧
      done.unswept = (first.operations v.service.now).unswept := by
  have swept {v' : Vigil} (watched : v.service.Watched v'.service) :
      ∃ done : Run, v'.service.registry = v.service.registry.after done ∧
        (∀ step ∈ done, step.1 = v.service.now) ∧ done.unswept = [] := by
    obtain ⟨run, sweeps, swept⟩ := watched.swept
    exact ⟨run, swept, fun step member => (sweeps step member).1, sweeps.unswept⟩
  cases first with
  | serve op => exact ⟨[(v.service.now, op)], rfl, List.forall_mem_singleton.mpr rfl, rfl⟩
  | advance | setClock | startPatrol => exact ⟨[], rfl, List.forall_mem_nil _, rfl⟩
  | sleep millis => exact swept (watched_waitUntil (.refl _) _)
  | sweep => exact swept (watched_sweep (.refl _))
  | sweepHeld template millis => exact swept (watched_sweepHeld keyed template millis)
  | stopPatrol =>
    simp only [act, stopPatrol]
    split
    · apply swept
      apply watched_setOut
      exact .refl _
    · exact ⟨[], rfl, List.forall_mem_nil _, rfl⟩

/-- A service whose live instances are those that a run leads to has, whatever is asked for in the
course of time and whatever patrols are out, those that a longer run leads to. What the run is
longer by follows what was asked for, and is given just the ids that came with it. -/
theorem registry_is_of_a_run {run : Run} {templates : List Template} {buffer : Nat}
    (begun : v.service.registry = run.result templates buffer) (acts : List Act) :
    ∃ more : Run, v.Follows acts more ∧ more.ids = acts.filterMap Act.fresh? ∧
      (v.after acts).service.registry = Run.result (run ++ more) templates buffer := by
  suffices found : ∃ more : Run, v.Follows acts more ∧
      (v.after acts).service.registry = Run.result (run ++ more) templates buffer by
    obtain ⟨more, follows, leads⟩ := found
    exact ⟨more, follows, follows.ids, leads⟩
  induction acts generalizing v run with
  | nil => exact ⟨[], .nil, by rwa [List.append_nil]⟩
  | cons first rest ih =>
    obtain ⟨done, does, timely, asked⟩ := act_is_a_run (begun ▸ run.keyed templates buffer) first
    rw [begun, ← Run.result_append] at does
    obtain ⟨later, onward, leads⟩ := ih does
    exact ⟨done ++ later, .cons timely asked onward, by rwa [← List.append_assoc]⟩

end Vigil

end InstancedAreas
