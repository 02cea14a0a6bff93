import InstancedAreas.Teardown.Lemmas
import Mathlib.Algebra.Order.Group.Multiset
import Mathlib.Order.Bounds.Defs

/-! The queue of teardowns over whole histories, in which teardowns are scheduled and what
is due is taken out, at times that may go back and forth. What was scheduled has been taken
out or is waiting, each teardown as often, and what is waiting decides all that comes. So it
does not matter in which order teardowns were scheduled, or by how many steps the time went
on. -/
namespace InstancedAreas

/-- A teardown does not come behind another one: the deadline decides, then the template,
then the kind of the key, parties before players and those before slots, then the number of
the key, then the id. -/
def Teardown.UpTo (a b : Teardown) : Prop :=
  a.deadline < b.deadline ∨ a.deadline = b.deadline ∧
    (a.template < b.template ∨ a.template = b.template ∧
      (a.key.rank < b.key.rank ∨ a.key.rank = b.key.rank ∧
        (a.key.number < b.key.number ∨ a.key.number = b.key.number ∧
          a.instanceId.number ≤ b.instanceId.number)))

theorem Teardown.then_ne_gt_iff {first second : Ordering} :
    first.then second ≠ .gt ↔ first = .lt ∨ first = .eq ∧ second ≠ .gt := by
  cases first <;> simp [Ordering.then]

/-- The queue is kept in this order. -/
theorem Teardown.upTo_iff {a b : Teardown} : a.UpTo b ↔ compare a b ≠ .gt := by
  have levels : compare a b = (compare a.deadline b.deadline).then
      ((compare a.template b.template).then (((compare a.key.rank b.key.rank).then
        (compare a.key.number b.key.number)).then
          (compare a.instanceId.number b.instanceId.number))) := rfl
  have deadline : compare a.deadline b.deadline = .lt ↔ a.deadline < b.deadline :=
    Int.compare_eq_lt
  have template : compare a.template b.template = .lt ↔ a.template < b.template :=
    compareOfLessAndEq_eq_lt
  rw [levels, Ordering.then_assoc, then_ne_gt_iff, then_ne_gt_iff, then_ne_gt_iff, then_ne_gt_iff,
    deadline, template, Nat.compare_eq_lt, Nat.compare_eq_lt, Nat.compare_ne_gt]
  simp only [Std.LawfulEqCmp.compare_eq_iff_eq]
  exact Iff.rfl

namespace TeardownQueue

/-- What is asked of a queue. -/
inductive Call where
  | schedule (teardown : Teardown)
  | popDue (now : Instant)

/-- What is taken out by calls, one list for each time that this is asked, and the queue
that they leave. -/
def outcome (queue : TeardownQueue) : List Call → List (List Teardown) × TeardownQueue
  | [] => ([], queue)
  | .schedule teardown :: rest => (queue.schedule teardown).outcome rest
  | .popDue now :: rest =>
    let later := (queue.popDue now).2.outcome rest
    ((queue.popDue now).1 :: later.1, later.2)

/-- The teardowns that calls schedule. -/
def scheduled : List Call → List Teardown
  | [] => []
  | .schedule teardown :: rest => teardown :: scheduled rest
  | .popDue _ :: rest => scheduled rest

/-- The teardowns that calls schedule in a new queue and do not take out again. -/
def waiting (calls : List Call) : Multiset Teardown :=
  (scheduled calls : Multiset Teardown) - ((empty.outcome calls).1.flatten : Multiset Teardown)

variable {queue : TeardownQueue}

theorem outcome_append (queue : TeardownQueue) (first second : List Call) :
    queue.outcome (first ++ second) =
      ((queue.outcome first).1 ++ ((queue.outcome first).2.outcome second).1,
        ((queue.outcome first).2.outcome second).2) := by
  induction first generalizing queue with
  | nil => rfl
  | cons call rest ih =>
    cases call with
    | schedule teardown => exact ih (queue.schedule teardown)
    | popDue now => simp only [List.cons_append, outcome, ih]

/-- Scheduling takes nothing out. -/
theorem outcome_schedule (queue : TeardownQueue) (teardowns : List Teardown) :
    queue.outcome (teardowns.map .schedule) = ([], queue.scheduleAll teardowns) := by
  induction teardowns generalizing queue with
  | nil => rfl
  | cons teardown rest ih => exact ih (queue.schedule teardown)

/-- The order of scheduling does not matter. -/
theorem scheduleAll_congr {first second : List Teardown} (same : first.Perm second) :
    queue.scheduleAll first = queue.scheduleAll second :=
  eq_of_perm ((queue.pending_scheduleAll first).trans
    ((same.append_right queue.pending).trans (queue.pending_scheduleAll second).symm))

/-- What is taken out and what stays is what was pending. -/
theorem popDue_append (queue : TeardownQueue) (now : Instant) :
    (queue.popDue now).1 ++ (queue.popDue now).2.pending = queue.pending :=
  List.takeWhile_append_dropWhile

/-- Nothing is lost, and nothing comes in but by scheduling. -/
theorem conserves (queue : TeardownQueue) (calls : List Call) :
    ((queue.outcome calls).1.flatten + (queue.outcome calls).2.pending : Multiset Teardown) =
      scheduled calls + queue.pending := by
  induction calls generalizing queue with
  | nil => rfl
  | cons call rest ih =>
    cases call with
    | schedule teardown =>
      have placed : ((queue.schedule teardown).pending : Multiset Teardown) =
          teardown ::ₘ queue.pending := Multiset.coe_eq_coe.mpr (queue.pending_schedule teardown)
      exact (ih _).trans (by rw [placed, scheduled, ← Multiset.cons_coe, Multiset.add_cons,
        Multiset.cons_add])
    | popDue now =>
      let due : Multiset Teardown := (queue.popDue now).1
      let left := (queue.popDue now).2
      calc ((((queue.popDue now).1 ++ (left.outcome rest).1.flatten : List Teardown) :
            Multiset Teardown) + (left.outcome rest).2.pending)
        _ = due + ((left.outcome rest).1.flatten + (left.outcome rest).2.pending) := by
          rw [← Multiset.coe_add, add_assoc]
        _ = due + (scheduled rest + left.pending) := by rw [ih left]
        _ = scheduled rest + (due + left.pending) := add_left_comm ..
        _ = scheduled rest + queue.pending := by
          rw [Multiset.coe_add, queue.popDue_append now]

/-- What is waiting is what is pending. -/
theorem pending_outcome (calls : List Call) :
    ((empty.outcome calls).2.pending : Multiset Teardown) = waiting calls := by
  have all := empty.conserves calls
  rw [show empty.pending = [] from rfl, Multiset.coe_nil, add_zero] at all
  rw [waiting, ← all, add_tsub_cancel_left]

/-- To take out what is due at one time, and then at a later one, is to take it out at
once. -/
theorem popDue_later (queue : TeardownQueue) {earlier later : Instant} (forward : earlier ≤ later) :
    let part := queue.popDue earlier
    let rest := part.2.popDue later
    queue.popDue later = (part.1 ++ rest.1, rest.2) := by
  intro part rest
  have due : ∀ t ∈ part.1, decide (t.deadline ≤ later) = true := by
    intro t taken
    have early := List.all_eq_true.mp List.all_takeWhile t taken
    exact decide_eq_true (Int.le_trans (of_decide_eq_true early) forward)
  have whole : queue.pending = part.1 ++ part.2.pending := (queue.popDue_append earlier).symm
  refine Prod.ext ?_ (eq_of_perm (.of_eq ?_))
  · change queue.pending.takeWhile _ = _
    rw [whole, List.takeWhile_append_of_pos due]
    rfl
  · change queue.pending.dropWhile _ = _
    rw [whole, List.dropWhile_append_of_pos due]
    rfl

/-- The next deadline is the least one that is pending. -/
theorem nextDeadline_eq_some_iff {d : Instant} :
    queue.nextDeadline = some d ↔ IsLeast {d | ∃ t ∈ queue.pending, t.deadline = d} d := by
  rw [nextDeadline]
  cases pending : queue.pending with
  | nil => simp [IsLeast]
  | cons first rest =>
    have ascending := queue.ascending
    rw [pending] at ascending
    have least : ∀ t ∈ first :: rest, first.deadline ≤ t.deadline := by
      intro t member
      rcases List.mem_cons.mp member with rfl | behind
      · exact Int.le_refl _
      · exact deadline_le_of_compare ((List.pairwise_cons.mp ascending).1 t behind)
    rw [List.head?_cons, Option.map_some, Option.some.injEq]
    constructor
    · rintro rfl
      refine ⟨⟨first, List.mem_cons_self, rfl⟩, ?_⟩
      rintro _ ⟨t, member, rfl⟩
      exact least t member
    · rintro ⟨⟨t, member, rfl⟩, lower⟩
      exact Instant.eq_of_place (Int.le_antisymm (least t member)
        (lower ⟨first, List.mem_cons_self, rfl⟩))

/-- Whatever was scheduled and taken out before, in whatever order and at whatever times:
what has been taken out was scheduled, and the rest is waiting, each teardown as often. What
is due at a time and waiting is taken out in the order of deadline, template, key and id, and
just the others stay. The next deadline is the least of those that are waiting, and the size
is their number. In which order teardowns were scheduled makes no difference to anything that
is taken out later, and it makes none whether what is due is taken out at once or in two
steps. -/
theorem what_is_waiting_is_taken_out_in_order (calls : List Call) :
    let queue := (empty.outcome calls).2
    ((empty.outcome calls).1.flatten : Multiset Teardown) ≤ scheduled calls ∧
    (∀ now,
      ((queue.popDue now).1 : Multiset Teardown) =
        (waiting calls).filter (·.deadline ≤ now) ∧
      (queue.popDue now).1.Pairwise Teardown.UpTo ∧
      ((queue.popDue now).2.pending : Multiset Teardown) =
        (waiting calls).filter (¬ ·.deadline ≤ now)) ∧
    (∀ d, queue.nextDeadline = some d ↔
      IsLeast {d | ∃ t ∈ waiting calls, t.deadline = d} d) ∧
    queue.size = (waiting calls).card ∧
    (∀ (first second : List Teardown) (later : List Call), first.Perm second →
      empty.outcome (calls ++ first.map .schedule ++ later) =
        empty.outcome (calls ++ second.map .schedule ++ later)) ∧
    ∀ earlier later, earlier ≤ later →
      let part := queue.popDue earlier
      let rest := part.2.popDue later
      queue.popDue later = (part.1 ++ rest.1, rest.2) := by
  intro queue
  have pending : (queue.pending : Multiset Teardown) = waiting calls := pending_outcome calls
  refine ⟨?_, fun now => ⟨?_, ?_, ?_⟩, fun d => ?_, ?_, fun first second later same => ?_,
    fun earlier later forward => queue.popDue_later forward⟩
  · have all := empty.conserves calls
    rw [show empty.pending = [] from rfl, Multiset.coe_nil, add_zero] at all
    rw [← all]
    exact Multiset.le_add_right ..
  · rw [popDue_fst, ← pending, Multiset.filter_coe]
  · exact (queue.ascending.sublist (List.takeWhile_sublist _)).imp Teardown.upTo_iff.mpr
  · rw [popDue_snd, ← pending, Multiset.filter_coe]
    simp
  · rw [nextDeadline_eq_some_iff, ← pending]
    rfl
  · rw [← pending]
    rfl
  · simp only [outcome_append, outcome_schedule, scheduleAll_congr same]

end TeardownQueue

end InstancedAreas
