import InstancedAreas.Teardown

/-! The queue of teardowns as a multiset. Scheduling adds one, what is due is
what has a deadline that has passed, and equal multisets are equal queues. -/
namespace InstancedAreas.TeardownQueue

/-- Scheduling adds the teardown to those that are pending. -/
theorem pending_schedule (queue : TeardownQueue) (teardown : Teardown) :
    (queue.schedule teardown).pending.Perm (teardown :: queue.pending) := by
  have placed (pending : List Teardown) : (place teardown pending).Perm (teardown :: pending) := by
    induction pending with
    | nil => exact .refl _
    | cons next rest ih =>
      simp only [place]
      split
      · exact (ih.cons next).trans (.swap teardown next rest)
      · exact .refl _
  exact placed queue.pending

theorem pending_scheduleAll (queue : TeardownQueue) (teardowns : List Teardown) :
    (queue.scheduleAll teardowns).pending.Perm (teardowns ++ queue.pending) := by
  induction teardowns generalizing queue with
  | nil => exact .refl _
  | cons next rest ih =>
    exact (ih (queue.schedule next)).trans
      (((queue.pending_schedule next).append_left rest).trans List.perm_middle)

/-- Queues that hold the same teardowns, each as often, are equal. -/
theorem eq_of_perm {a b : TeardownQueue} (same : a.pending.Perm b.pending) : a = b := by
  have pending : a.pending = b.pending := by
    refine List.Perm.eq_of_pairwise (fun x y _ _ below above => ?_) a.ascending b.ascending same
    have above : compare x y ≠ .lt := fun less => above (Std.OrientedCmp.gt_of_lt less)
    cases order : compare x y with
    | lt => exact absurd order above
    | eq => exact Std.LawfulEqCmp.eq_of_compare order
    | gt => exact absurd order below
  cases a
  cases b
  simp_all

/-- Scheduling some teardowns and then others comes to the same the other way round. -/
theorem scheduleAll_comm (queue : TeardownQueue) (first second : List Teardown) :
    (queue.scheduleAll first).scheduleAll second =
      (queue.scheduleAll second).scheduleAll first := by
  have both (first second : List Teardown) :
      ((queue.scheduleAll first).scheduleAll second).pending.Perm
        ((second ++ first) ++ queue.pending) := by
    rw [List.append_assoc]
    exact (pending_scheduleAll _ second).trans
      ((queue.pending_scheduleAll first).append_left second)
  have turned : ((second ++ first) ++ queue.pending).Perm ((first ++ second) ++ queue.pending) :=
    List.perm_append_comm.append_right queue.pending
  exact eq_of_perm ((both first second).trans (turned.trans (both second first).symm))

theorem deadline_le_of_compare {a b : Teardown} (order : compare a b ≠ .gt) :
    a.deadline ≤ b.deadline := by
  have all : (compare a.deadline b.deadline).then ((compare a.template b.template).then
      ((compare a.key b.key).then (compare a.instanceId b.instanceId))) ≠ .gt := order
  cases first : compare a.deadline b.deadline with
  | lt => exact Int.le_of_lt (Int.compare_eq_lt.mp first)
  | eq => exact Int.le_of_eq (Int.compare_eq_eq.mp first)
  | gt => simp [first] at all

theorem takeWhile_due {pending : List Teardown} (now : Instant)
    (ascending : pending.Pairwise (fun a b => compare a b ≠ .gt)) :
    pending.takeWhile (·.deadline ≤ now) = pending.filter (·.deadline ≤ now) ∧
      pending.dropWhile (·.deadline ≤ now) = pending.filter (fun t => !(t.deadline ≤ now)) := by
  induction pending with
  | nil => simp
  | cons next rest ih =>
    obtain ⟨before, tail⟩ := List.pairwise_cons.mp ascending
    by_cases due : next.deadline ≤ now
    · simp [due, ih tail]
    · have later {other : Teardown} (member : other ∈ rest) : ¬ other.deadline ≤ now := by
        intro early
        exact due (Int.le_trans (deadline_le_of_compare (before other member)) early)
      have none : rest.filter (·.deadline ≤ now) = [] :=
        List.filter_eq_nil_iff.mpr fun other member => by simp [later member]
      have all : rest.filter (fun t => !(t.deadline ≤ now)) = rest :=
        List.filter_eq_self.mpr fun other member => by simp [later member]
      simp [due, none, all]

/-- What is due is exactly what is pending with a deadline that has passed, in
order. -/
theorem popDue_fst (queue : TeardownQueue) (now : Instant) :
    (queue.popDue now).1 = queue.pending.filter (·.deadline ≤ now) :=
  (takeWhile_due now queue.ascending).1

/-- What stays pending has its deadline ahead. -/
theorem popDue_snd (queue : TeardownQueue) (now : Instant) :
    (queue.popDue now).2.pending = queue.pending.filter (fun t => !(t.deadline ≤ now)) :=
  (takeWhile_due now queue.ascending).2

/-- Teardowns that are due, put in order before a queue in which nothing is due,
are what is due, and the others stay. -/
theorem popDue_scheduleAll {queue : TeardownQueue} {due : List Teardown} {now : Instant}
    (passed : ∀ t ∈ due, t.deadline ≤ now) (ahead : ∀ t ∈ queue.pending, now < t.deadline)
    (ascending : due.Pairwise (fun a b => compare a b ≠ .gt)) :
    (queue.scheduleAll due).popDue now = (due, queue) := by
  have whole : (queue.scheduleAll due).pending.Perm (due ++ queue.pending) :=
    queue.pending_scheduleAll due
  have later {t : Teardown} (member : t ∈ queue.pending) : ¬ t.deadline ≤ now :=
    Int.not_le.mpr (ahead t member)
  have dueFirst : (due ++ queue.pending).filter (·.deadline ≤ now) = due := by
    rw [List.filter_append, List.filter_eq_self.mpr fun t member => by simp [passed t member],
      List.filter_eq_nil_iff.mpr fun t member => by simp [later member], List.append_nil]
  have restSecond : (due ++ queue.pending).filter (fun t => !(t.deadline ≤ now)) =
      queue.pending := by
    rw [List.filter_append, List.filter_eq_nil_iff.mpr fun t member => by simp [passed t member],
      List.filter_eq_self.mpr fun t member => by simp [later member], List.nil_append]
  have order := (queue.scheduleAll due).ascending.filter (·.deadline ≤ now)
  have first : (queue.scheduleAll due).pending.filter (·.deadline ≤ now) = due := by
    have same : (TeardownQueue.mk _ order) = ⟨due, ascending⟩ :=
      eq_of_perm ((whole.filter _).trans (.of_eq dueFirst))
    exact congrArg TeardownQueue.pending same
  have second : ((queue.scheduleAll due).popDue now).2 = queue := by
    apply eq_of_perm
    rw [popDue_snd]
    exact (whole.filter _).trans (.of_eq restSecond)
  exact Prod.ext ((popDue_fst _ now).trans first) second

end InstancedAreas.TeardownQueue
