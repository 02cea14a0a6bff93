import InstancedAreas.Instance

/-! Pending teardowns: which incarnation is to end when. The queue is kept in
order of deadline, template, key and id, so what is due stands in front. -/
namespace InstancedAreas

/-- The pending teardown of one incarnation of an instance. -/
structure Teardown where
  deadline : Instant
  template : TemplateId
  key : InstanceKey
  instanceId : InstanceId
deriving DecidableEq

namespace Teardown

instance : Ord Teardown :=
  ⟨compareLex (compareOn deadline) <| compareLex (compareOn template) <|
    compareLex (compareOn key) (compareOn instanceId)⟩

instance : Std.TransOrd Teardown :=
  inferInstanceAs <| Std.TransCmp <|
    compareLex (compareOn deadline) <| compareLex (compareOn template) <|
      compareLex (compareOn key) (compareOn instanceId)

instance : Std.LawfulEqOrd Teardown where
  eq_of_compare {a b} same := by
    have all : (compare a.deadline b.deadline).then ((compare a.template b.template).then
        ((compare a.key b.key).then (compare a.instanceId b.instanceId))) = .eq := same
    obtain ⟨deadline, all⟩ := Ordering.then_eq_eq.mp all
    obtain ⟨template, all⟩ := Ordering.then_eq_eq.mp all
    obtain ⟨key, id⟩ := Ordering.then_eq_eq.mp all
    have deadline := Std.LawfulEqCmp.eq_of_compare deadline
    have template := Std.LawfulEqCmp.eq_of_compare template
    have key := Std.LawfulEqCmp.eq_of_compare key
    have id := Std.LawfulEqCmp.eq_of_compare id
    cases a
    cases b
    simp_all

/-- The teardown of an instance at its deadline. -/
def of (i : Instance) : Teardown := ⟨i.expiresAt, i.template, i.key, i.id⟩

end Teardown

/-- Pending teardowns in ascending order. One that was scheduled twice is
pending twice. -/
structure TeardownQueue where
  pending : List Teardown
  ascending : pending.Pairwise (fun a b => compare a b ≠ .gt)
deriving DecidableEq

namespace TeardownQueue

/-- The queue in which nothing is pending. -/
def empty : TeardownQueue := ⟨[], .nil⟩

instance : Inhabited TeardownQueue := ⟨empty⟩

/-- Puts a teardown at its place in an ascending list. -/
def place (teardown : Teardown) : List Teardown → List Teardown
  | [] => [teardown]
  | next :: rest =>
    if compare teardown next = .gt then next :: place teardown rest
    else teardown :: next :: rest

theorem mem_place {teardown other : Teardown} {pending : List Teardown} :
    other ∈ place teardown pending ↔ other = teardown ∨ other ∈ pending := by
  induction pending with
  | nil => simp [place]
  | cons next rest ih =>
    simp only [place]
    split
    · simp only [List.mem_cons, ih]
      constructor
      · rintro (here | here | here) <;> simp [here]
      · rintro (here | here | here) <;> simp [here]
    · simp

theorem place_ascending (teardown : Teardown) {pending : List Teardown}
    (ascending : pending.Pairwise (fun a b => compare a b ≠ .gt)) :
    (place teardown pending).Pairwise (fun a b => compare a b ≠ .gt) := by
  induction pending with
  | nil => simp [place]
  | cons next rest ih =>
    obtain ⟨before, tail⟩ := List.pairwise_cons.mp ascending
    simp only [place]
    split
    · rename_i above
      refine List.pairwise_cons.mpr ⟨fun other member => ?_, ih tail⟩
      rcases mem_place.mp member with rfl | inside
      · rw [Std.OrientedCmp.lt_of_gt above]
        decide
      · exact before other inside
    · rename_i notAbove
      refine List.pairwise_cons.mpr ⟨fun other member => ?_, ascending⟩
      rcases List.mem_cons.mp member with rfl | inside
      · exact notAbove
      · intro above
        have first : (compare teardown next).isLE := Ordering.ne_gt_iff_isLE.mp notAbove
        have second : (compare next other).isLE := Ordering.ne_gt_iff_isLE.mp (before other inside)
        exact Ordering.ne_gt_iff_isLE.mpr (Std.TransCmp.isLE_trans first second) above

/-- Schedules a teardown. -/
def schedule (queue : TeardownQueue) (teardown : Teardown) : TeardownQueue :=
  ⟨place teardown queue.pending, place_ascending teardown queue.ascending⟩

/-- Schedules the teardowns of a list. -/
def scheduleAll (queue : TeardownQueue) (teardowns : List Teardown) : TeardownQueue :=
  teardowns.foldl schedule queue

/-- Takes out every teardown that is due, earliest first. -/
def popDue (queue : TeardownQueue) (now : Instant) : List Teardown × TeardownQueue :=
  (queue.pending.takeWhile (·.deadline ≤ now),
    ⟨queue.pending.dropWhile (·.deadline ≤ now),
      queue.ascending.sublist (List.dropWhile_sublist _)⟩)

/-- The earliest deadline. -/
def nextDeadline (queue : TeardownQueue) : Option Instant :=
  queue.pending.head?.map Teardown.deadline

/-- The number of pending teardowns. -/
def size (queue : TeardownQueue) : Nat := queue.pending.length

/-- Whether nothing is pending. -/
def isEmpty (queue : TeardownQueue) : Bool := queue.size == 0

end TeardownQueue

end InstancedAreas
