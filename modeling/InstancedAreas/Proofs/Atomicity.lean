import InstancedAreas.Proofs.Admission.Occupation
import InstancedAreas.Proofs.Run

/-! An operation that fails leaves everything as it was. Admission creates an
instance before its group enters, so for admission this rests on the instance
taking the group in: once it is created nothing can fail any more. -/
namespace InstancedAreas

namespace Registry

variable {r : Registry} {now : Instant} {fresh : InstanceId} {request : Request} {pool : Pool}

/-- What is refused where a group takes its place leaves the registry as it was. -/
theorem occupy_allOrNothing (home : r.pool? pool.template.id = some pool) (lifetime : Duration)
    (placement : Placement) :
    r.AllOrNothing (r.occupy now fresh pool.template request lifetime placement) := by
  obtain ⟨key, live⟩ := placement
  cases live with
  | true =>
    have joins := r.addOccupants_allOrNothing now pool.template.id key request.group
    simp only [occupy, if_true]
    split
    · rename_i after error failed
      rw [failed] at joins
      exact fun _ _ => joins error rfl
    · exact r.allOrNothing_ok _ _
  | false =>
    by_cases fits : request.Fits pool.template.occupantLimit
    · by_cases possible : pool.instances.find? key = none ∧ ∃ deadline,
          now.after? lifetime = some deadline
      · obtain ⟨free, deadline, ends⟩ := possible
        rw [occupy_of_free fresh home free ends fits]
        exact r.allOrNothing_ok _ _
      · have impossible (free : pool.instances.find? key = none) : now.after? lifetime = none :=
          Option.eq_none_iff_forall_not_mem.mpr fun deadline ends => possible ⟨free, deadline, ends⟩
        obtain ⟨error, failed⟩ :=
          create_fails home impossible fresh (request.returnTo pool.template)
        simp only [occupy, Request.fits_iff.mp fits, request.returnTo_eq, failed,
          Bool.false_eq_true, if_false]
        exact r.allOrNothing_error _
    · rw [occupy_of_excess key fits]
      exact r.allOrNothing_error _

theorem enter_allOrNothing (keyed : r.Keyed) (now : Instant) (fresh : InstanceId)
    (request : Request) : r.AllOrNothing (r.enter now fresh request) := by
  simp only [enter]
  split
  · exact r.allOrNothing_error _
  · rename_i pool home
    split
    · exact r.allOrNothing_error _
    · split
      · exact r.allOrNothing_error _
      · split
        · exact r.allOrNothing_error _
        · exact occupy_allOrNothing (keyed.home home) _ _

theorem pass_allOrNothing (keyed : r.Keyed) (policies : Gate.Policies) (source : Gate.Source)
    (now : Instant) (fresh : InstanceId) (gate : String) (request : Request) :
    r.AllOrNothing (Gate.pass policies source r now fresh gate request) := by
  simp only [Gate.pass]
  split
  · exact r.allOrNothing_error _
  · split
    · exact r.allOrNothing_error _
    · exact r.allOrNothing_error _
    · exact r.allOrNothing_ok _ _
    · exact enter_allOrNothing keyed now fresh _

end Registry

/-- After every run, an operation that fails leaves all instances, the pending
teardowns and the feed as they were. -/
theorem Run.failed_operations_change_nothing (run : Run) (templates : List Template) (buffer : Nat)
    (now : Instant) :
    let before := run.result templates buffer
    (∀ fresh request, before.AllOrNothing (before.enter now fresh request)) ∧
    (∀ policies source fresh gate request,
      before.AllOrNothing (Gate.pass policies source before now fresh gate request)) ∧
    (∀ handle player, before.AllOrNothing (before.leave now handle player)) ∧
    (∀ fresh template key lifetime originArea,
      before.AllOrNothing (before.create now fresh template key lifetime originArea)) ∧
    (∀ template key players, before.AllOrNothing (before.addOccupants now template key players)) ∧
    (∀ template key player, before.AllOrNothing (before.removeOccupant now template key player)) ∧
    ∀ template key reason, before.AllOrNothing (before.release now template key reason) := by
  intro before
  have keyed : before.Keyed := run.keyed templates buffer
  exact ⟨Registry.enter_allOrNothing keyed now,
    fun policies source => Registry.pass_allOrNothing keyed policies source now,
    before.leave_allOrNothing now, before.create_allOrNothing now,
    before.addOccupants_allOrNothing now, before.removeOccupant_allOrNothing now,
    before.release_allOrNothing now⟩

/-- A group of three asks for a template with two places in a slot. The slot that
is free would be theirs, but nothing is created in it. -/
theorem Run.oversized_group_changes_nothing :
    let template : Template := { Template.pooled "a" 100 "entry" 2 (.ofSeconds 3600) with
      kind := .pooled 2 2 }
    let run : Run := [(.epoch, .enter (.ofNat 1) (.new 1 900 "a"))]
    let before := run.result [template] 16
    let request := (Request.new 2 900 "a").withCompanions [3, 4]
    (before.enter .epoch (.ofNat 2) request).2 = .error (.capacityExceeded "a" (.slot 1)) ∧
      (before.enter .epoch (.ofNat 2) request).1 = before := by
  intro template run before request
  have failed : (before.enter .epoch (.ofNat 2) request).2 =
      .error (.capacityExceeded "a" (.slot 1)) := by decide
  exact ⟨failed,
    (failed_operations_change_nothing run [template] 16 .epoch).1 (.ofNat 2) request _ failed⟩

end InstancedAreas
