import InstancedAreas.Proofs.Registry.Answer

/-! Operations that keep to a part of a registry. Such an operation is decided by
what is live there, whatever is live elsewhere, and leaves everything elsewhere as
it was. Two operations that keep to parts with no place in common can change
places: neither notices the other, and the same is live and pending in the end. -/
namespace InstancedAreas

/-- A part of the places where instances may be live. -/
abbrev Region := TemplateId → InstanceKey → Prop

namespace Registry

/-- A keyed registry of these templates. -/
structure Knows (r : Registry) (known : TemplateId → Option Template) : Prop where
  keyed : r.Keyed
  templates : ∀ id, r.template? id = known id

/-- The same is live in a region of two registries. -/
def AgreesIn (region : Region) (r s : Registry) : Prop :=
  ∀ template key, region template key → s.instance? template key = r.instance? template key

/-- What an operation leaves behind: something or nothing at one place, every other
place as it was, and some teardowns scheduled. -/
structure Leaves (before : Registry) (template : TemplateId) (key : InstanceKey)
    (here : Option Instance) (scheduled : List Teardown) (after : Registry) : Prop where
  places : ∀ other place, after.instance? other place =
    if other = template ∧ place = key then here else before.instance? other place
  queue : after.queue = before.queue.scheduleAll scheduled

/-- What an operation answers, and what it leaves behind. -/
structure Does {α : Type} (act : Registry → Registry × α) (template : TemplateId)
    (key : InstanceKey) (here : Option Instance) (scheduled : List Teardown) (answer : α)
    (before : Registry) : Prop where
  answers : (act before).2 = answer
  leaves : before.Leaves template key here scheduled (act before).1

/-- What an operation does to a registry it does wherever the same is live in a
region, and it leaves something behind at a place there alone. -/
def DecidedIn {α : Type} (known : TemplateId → Option Template) (region : Region)
    (act : Registry → Registry × α) (r : Registry) : Prop :=
  ∃ template key here scheduled answer, region template key ∧
    ∀ s : Registry, s.Knows known → AgreesIn region r s →
      s.Does act template key here scheduled answer

/-- An operation on registries of some templates keeps to a region. -/
structure KeepsTo {α : Type} (known : TemplateId → Option Template) (region : Region)
    (act : Registry → Registry × α) : Prop where
  knows : ∀ r : Registry, r.Knows known → (act r).1.Knows known
  decided : ∀ r : Registry, r.Knows known → r.DecidedIn known region act

variable {r s : Registry} {known : TemplateId → Option Template}

theorem AgreesIn.refl (region : Region) (r : Registry) : AgreesIn region r r := fun _ _ _ => rfl

/-- What changes nothing leaves what is at a place there. -/
theorem Leaves.unchanged {template : TemplateId} {key : InstanceKey} {here : Option Instance}
    (same : r.instance? template key = here) : r.Leaves template key here [] r where
  places other place := by
    split
    · rename_i there
      rw [there.1, there.2, same]
    · rfl
  queue := rfl

/-- What is refused for one reason wherever the same is live in a region is decided
there. -/
theorem DecidedIn.refused {ε α : Type} {act : Registry → Registry × Except ε α} {region : Region}
    {template : TemplateId} {key : InstanceKey} (inside : region template key) (error : ε)
    (always : ∀ s : Registry, s.Knows known → AgreesIn region r s → act s = (s, .error error)) :
    r.DecidedIn known region act := by
  refine ⟨template, key, r.instance? template key, [], .error error, inside,
    fun s knows agrees => ?_⟩
  have failed := always s knows agrees
  exact ⟨congrArg Prod.snd failed, by rw [failed]; exact .unchanged (agrees _ _ inside)⟩

/-- What is left at a place outside a region is not seen in the region. -/
theorem Leaves.agreesIn {template : TemplateId} {key : InstanceKey} {here : Option Instance}
    {scheduled : List Teardown} (leaves : r.Leaves template key here scheduled s)
    {region : Region} (outside : ¬ region template key) : AgreesIn region r s := by
  intro other place inside
  rw [leaves.places]
  refine if_neg fun there => outside ?_
  rw [← there.1, ← there.2]
  exact inside

/-- Registries of the same templates in which the same is live have the same pools. -/
theorem Knows.pools_eq (left : r.Knows known) (right : s.Knows known)
    (live : ∀ template key, r.instance? template key = s.instance? template key) :
    r.pools = s.pools := by
  apply Table.ext_find?
  intro id
  change r.pool? id = s.pool? id
  have templates : r.template? id = s.template? id :=
    (left.templates id).trans (right.templates id).symm
  have instances := live id
  simp only [template?, instance?] at templates instances
  cases here : r.pool? id with
  | none =>
    rw [here] at templates
    exact (Option.map_eq_none_iff.mp templates.symm).symm
  | some pool =>
    rw [here] at templates instances
    obtain ⟨other, there, same⟩ := Option.map_eq_some_iff.mp templates.symm
    rw [there] at instances ⊢
    have content : pool.instances = other.instances := Table.ext_find? instances
    cases pool
    cases other
    simp_all

/-- Operations that keep to regions with no place in common can change places. -/
theorem KeepsTo.commute {α β : Type} {left right : Region} {a : Registry → Registry × α}
    {b : Registry → Registry × β} (first : KeepsTo known left a) (second : KeepsTo known right b)
    (apart : ∀ template key, left template key → ¬ right template key) (knows : r.Knows known) :
    (a (b r).1).2 = (a r).2 ∧ (b (a r).1).2 = (b r).2 ∧
      (b (a r).1).1.pools = (a (b r).1).1.pools ∧ (b (a r).1).1.queue = (a (b r).1).1.queue := by
  obtain ⟨templateA, keyA, hereA, scheduledA, answerA, insideA, doesA⟩ := first.decided r knows
  obtain ⟨templateB, keyB, hereB, scheduledB, answerB, insideB, doesB⟩ := second.decided r knows
  have knowsA := first.knows r knows
  have knowsB := second.knows r knows
  obtain ⟨sameA, leavesA⟩ := doesA r knows (.refl left r)
  obtain ⟨sameB, leavesB⟩ := doesB r knows (.refl right r)
  -- Neither operation notices that the other one came before.
  obtain ⟨sameBA, leavesBA⟩ := doesA (b r).1 knowsB
    (leavesB.agreesIn fun inside => apart templateB keyB inside insideB)
  obtain ⟨sameAB, leavesAB⟩ := doesB (a r).1 knowsA
    (leavesA.agreesIn (apart templateA keyA insideA))
  refine ⟨sameBA.trans sameA.symm, sameAB.trans sameB.symm, ?_, ?_⟩
  · refine (second.knows _ knowsA).pools_eq (first.knows _ knowsB) fun template key => ?_
    rw [leavesAB.places, leavesA.places, leavesBA.places, leavesB.places]
    by_cases atA : template = templateA ∧ key = keyA
    · have notB : ¬ (template = templateB ∧ key = keyB) := by
        rintro ⟨rfl, rfl⟩
        rw [← atA.1, ← atA.2] at insideA
        exact apart template key insideA insideB
      simp only [atA, and_self, if_true] at notB ⊢
      exact if_neg notB
    · simp only [if_neg atA]
  · rw [leavesAB.queue, leavesA.queue, leavesBA.queue, leavesB.queue,
      TeardownQueue.scheduleAll_comm]

end Registry

end InstancedAreas
