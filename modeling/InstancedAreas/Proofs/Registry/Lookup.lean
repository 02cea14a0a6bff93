import InstancedAreas.Registry
import InstancedAreas.Table.Lemmas

/-! What is found in a registry after its pools change. In a keyed registry
every pool stands under the id of its template and every instance under its own
key. There, putting an instance into its pool or freeing a key changes what is
found under that key and nothing else. -/
namespace InstancedAreas

namespace Pool

/-- Every instance of the pool stands under its own key and names the pool's
template. -/
def Keyed (pool : Pool) : Prop :=
  ∀ key i, pool.instances.find? key = some i → i.template = pool.template.id ∧ i.key = key

@[simp]
theorem template_put (pool : Pool) (i : Instance) : (pool.put i).template = pool.template := rfl

@[simp]
theorem template_drop (pool : Pool) (key : InstanceKey) :
    (pool.drop key).template = pool.template := rfl

theorem find?_put (pool : Pool) (i : Instance) (key : InstanceKey) :
    (pool.put i).instances.find? key =
      if key = i.key then some i else pool.instances.find? key :=
  Table.find?_insert ..

theorem find?_drop (pool : Pool) (freed key : InstanceKey) :
    (pool.drop freed).instances.find? key =
      if key = freed then none else pool.instances.find? key :=
  Table.find?_erase ..

theorem put_of_held {pool : Pool} {i : Instance} (held : pool.instances.find? i.key = some i) :
    pool.put i = pool := by
  rw [put, Table.insert_of_find? held]

/-- What is found after an instance was put in is that instance or was there
before. -/
theorem found_after_put {pool : Pool} {i other : Instance} {key : InstanceKey}
    (found : (pool.put i).instances.find? key = some other) :
    key = i.key ∧ other = i ∨ pool.instances.find? key = some other := by
  rw [find?_put] at found
  split at found
  · exact .inl ⟨‹_›, (Option.some.inj found).symm⟩
  · exact .inr found

/-- What is found after a key was freed was there before. -/
theorem found_after_drop {pool : Pool} {i : Instance} {freed key : InstanceKey}
    (found : (pool.drop freed).instances.find? key = some i) :
    pool.instances.find? key = some i := by
  rw [find?_drop] at found
  split at found
  · cases found
  · exact found

theorem Keyed.put {pool : Pool} {i : Instance} (keyed : pool.Keyed)
    (owner : i.template = pool.template.id) : (pool.put i).Keyed := by
  intro key other found
  rcases found_after_put found with ⟨rfl, rfl⟩ | before
  · exact ⟨owner, rfl⟩
  · exact keyed key other before

theorem Keyed.drop {pool : Pool} (keyed : pool.Keyed) (key : InstanceKey) :
    (pool.drop key).Keyed :=
  fun other i found => keyed other i (found_after_drop found)

end Pool

namespace Registry

/-- Every pool stands under the id of its template and has a property. -/
def All (P : Pool → Prop) (r : Registry) : Prop :=
  ∀ id pool, r.pool? id = some pool → pool.template.id = id ∧ P pool

/-- Every pool stands under the id of its template, and every instance under
its own key. -/
def Keyed (r : Registry) : Prop := r.All Pool.Keyed

@[simp]
theorem pool?_putPool (r : Registry) (pool : Pool) (id : TemplateId) :
    (r.putPool pool).pool? id = if id = pool.template.id then some pool else r.pool? id :=
  Table.find?_insert ..

theorem putPool_of_home {r : Registry} {pool : Pool}
    (home : r.pool? pool.template.id = some pool) : r.putPool pool = r := by
  rw [putPool, Table.insert_of_find? home]

theorem instance?_eq_some_iff {r : Registry} {template : TemplateId} {key : InstanceKey}
    {i : Instance} :
    r.instance? template key = some i ↔
      ∃ pool, r.pool? template = some pool ∧ pool.instances.find? key = some i :=
  Option.bind_eq_some_iff

/-- An instance of a keyed registry is found under its own template and key. -/
theorem Keyed.own_place {r : Registry} (keyed : r.Keyed) {template : TemplateId}
    {key : InstanceKey} {i : Instance} (found : r.instance? template key = some i) :
    i.template = template ∧ i.key = key := by
  obtain ⟨pool, home, held⟩ := instance?_eq_some_iff.mp found
  obtain ⟨same, inside⟩ := keyed template pool home
  obtain ⟨owner, own⟩ := inside key i held
  exact ⟨owner.trans same, own⟩

theorem Keyed.found_in_place {r : Registry} (keyed : r.Keyed) {template : TemplateId}
    {key : InstanceKey} {i : Instance} (found : r.instance? template key = some i) :
    r.instance? i.template i.key = some i := by
  obtain ⟨rfl, rfl⟩ := keyed.own_place found
  exact found

/-- In a keyed registry the pool of an instance stands under its template's id. -/
theorem Keyed.home {r : Registry} (keyed : r.Keyed) {template : TemplateId} {pool : Pool}
    (found : r.pool? template = some pool) : r.pool? pool.template.id = some pool := by
  rw [(keyed template pool found).1]
  exact found

theorem instance?_putPool_put {r : Registry} {pool : Pool}
    (home : r.pool? pool.template.id = some pool) (i : Instance) (template : TemplateId)
    (key : InstanceKey) :
    (r.putPool (pool.put i)).instance? template key =
      if template = pool.template.id ∧ key = i.key then some i
      else r.instance? template key := by
  by_cases same : template = pool.template.id
  · subst same
    simp [instance?, Pool.find?_put, home]
  · simp [instance?, same]

theorem instance?_putPool_drop {r : Registry} {pool : Pool}
    (home : r.pool? pool.template.id = some pool) (freed : InstanceKey) (template : TemplateId)
    (key : InstanceKey) :
    (r.putPool (pool.drop freed)).instance? template key =
      if template = pool.template.id ∧ key = freed then none
      else r.instance? template key := by
  by_cases same : template = pool.template.id
  · subst same
    simp [instance?, Pool.find?_drop, home]
  · simp [instance?, same]

/-- Changing the instances of a pool leaves its template in place. -/
theorem template?_putPool {r : Registry} {pool after : Pool}
    (home : r.pool? pool.template.id = some pool) (same : after.template = pool.template)
    (id : TemplateId) : (r.putPool after).template? id = r.template? id := by
  simp only [template?, pool?_putPool, same]
  split
  · rename_i here
    rw [here, home]
    simp [same]
  · rfl

/-- Replacing a pool by one that has the property keeps the property of all. -/
theorem All.putPool {P : Pool → Prop} {r : Registry} (all : r.All P) {pool : Pool}
    (holds : P pool) : (r.putPool pool).All P := by
  intro id other found
  rw [pool?_putPool] at found
  split at found
  · cases Option.some.inj found
    exact ⟨‹id = _›.symm, holds⟩
  · exact all id other found

/-- A pool of the registry of some templates is an empty pool of one of them. -/
theorem pool?_ofTemplates {templates : List Template} {buffer : Nat} {id : TemplateId}
    {pool : Pool} (found : (ofTemplates templates buffer).pool? id = some pool) :
    ∃ t ∈ templates, pool = ⟨t, .empty⟩ ∧ t.id = id := by
  obtain ⟨t, member, same⟩ := List.mem_map.mp (Table.mem_of_find?_ofList found)
  obtain ⟨rfl, rfl⟩ := Prod.mk.inj same
  exact ⟨t, member, rfl, rfl⟩

/-- What every empty pool has, every pool has at the beginning. -/
theorem all_ofTemplates {P : Pool → Prop} (templates : List Template) (buffer : Nat)
    (holds : ∀ t ∈ templates, P ⟨t, .empty⟩) : (ofTemplates templates buffer).All P := by
  intro id pool found
  obtain ⟨t, member, rfl, same⟩ := pool?_ofTemplates found
  exact ⟨same, holds t member⟩

theorem keyed_ofTemplates (templates : List Template) (buffer : Nat) :
    (ofTemplates templates buffer).Keyed :=
  all_ofTemplates templates buffer fun _ _ _ _ found => nomatch found

/-- Nothing is live at the beginning. -/
theorem instance?_ofTemplates (templates : List Template) (buffer : Nat) (template : TemplateId)
    (key : InstanceKey) : (ofTemplates templates buffer).instance? template key = none := by
  apply Option.eq_none_iff_forall_not_mem.mpr
  intro i found
  obtain ⟨pool, home, held⟩ := instance?_eq_some_iff.mp found
  obtain ⟨t, -, rfl, -⟩ := pool?_ofTemplates home
  cases held

end Registry

end InstancedAreas
