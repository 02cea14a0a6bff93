import InstancedAreas.Proofs.Instance.Room
import InstancedAreas.Proofs.Run
import Mathlib.Algebra.Order.BigOperators.Group.List
import Mathlib.Algebra.Order.Ring.Nat
import Mathlib.Data.List.Perm.Subperm

/-! Capacity. However a registry is used, no live instance holds more occupants
than its template allows, and each stands under its own key. Where instances
are only created by admission, a pool with a capacity has no instance outside
its slots, so their number and that of the memberships in them are bounded, and
an instance of a party template is one of a party or of a solo player. -/
namespace InstancedAreas

namespace Pool

/-- Every instance of the pool is within the template's limit. -/
def Within (pool : Pool) : Prop :=
  ∀ key i, pool.instances.find? key = some i → i.Within pool.template.occupantLimit

/-- Every instance of the pool stands under a key that the template allots. -/
def Allotted (pool : Pool) : Prop :=
  ∀ key i, pool.instances.find? key = some i → pool.template.Allots key

variable {opens : Template → Instance → Prop}

theorem Within.put {pool : Pool} {i : Instance} (within : pool.Within)
    (fits : i.Within pool.template.occupantLimit) : (pool.put i).Within := by
  intro key other found
  rcases found_after_put found with ⟨-, rfl⟩ | before
  · exact fits
  · exact within key other before

/-- Occupants that exceed the limit never come in by a change. -/
theorem within_stable : Stable opens Within where
  opened _ _ within _ _ empty _ := within.put fun most _ => by
    rw [empty]
    exact Nat.zero_le _
  joined _ i players within _ room :=
    within.put ((i.hasRoomFor_iff_within players _).mp room)
  left _ i player within held := within.put fun most limit =>
    Nat.le_trans (i.occupants.size_erase_le player) (within i.key i held most limit)
  dropped _ _ within other i found := within other i (found_after_drop found)

theorem Allotted.put {pool : Pool} {i : Instance} (allotted : pool.Allotted)
    (allots : pool.template.Allots i.key) : (pool.put i).Allotted := by
  intro key other found
  rcases found_after_put found with ⟨rfl, -⟩ | before
  · exact allots
  · exact allotted key other before

/-- Keys stay allotted where instances are opened under such keys only. -/
theorem allotted_stable (admits : ∀ t i, opens t i → t.Allots i.key) : Stable opens Allotted where
  opened _ i allotted _ _ _ allowed := allotted.put (admits _ i allowed)
  joined _ i _ allotted held _ := allotted.put (allotted i.key i held)
  left _ i _ allotted held := allotted.put (allotted i.key i held)
  dropped _ _ allotted other i found := allotted other i (found_after_drop found)

/-- The instances of a pool with slots are in them, below its capacity where it
has one. -/
theorem Allotted.slot {pool : Pool} (allotted : pool.Allotted) {capacity perSlot : UInt32}
    (pooled : pool.template.kind = .pooled capacity perSlot) {key : InstanceKey} {i : Instance}
    (found : pool.instances.find? key = some i) :
    ∃ index, key = .slot index ∧ (0 < capacity → index < capacity) := by
  have allots := allotted key i found
  simp only [Template.Allots, pooled] at allots
  cases key with
  | party _ | solo _ => exact allots.elim
  | slot index => exact ⟨index, rfl, allots⟩

/-- The instances of a party template are those of parties and solo players. -/
theorem Allotted.party_or_solo {pool : Pool} (allotted : pool.Allotted) {most : Option UInt32}
    (exclusive : pool.template.kind = .exclusive most) {key : InstanceKey} {i : Instance}
    (found : pool.instances.find? key = some i) :
    (∃ party, key = .party party) ∨ ∃ player, key = .solo player := by
  have allots := allotted key i found
  simp only [Template.Allots, exclusive] at allots
  cases key with
  | party party => exact .inl ⟨party, rfl⟩
  | solo player => exact .inr ⟨player, rfl⟩
  | slot _ => exact allots.elim

/-- There are no more instances than slots. -/
theorem Allotted.size_le {pool : Pool} (allotted : pool.Allotted) {capacity perSlot : UInt32}
    (pooled : pool.template.kind = .pooled capacity perSlot) (bounded : 0 < capacity) :
    pool.instances.size ≤ capacity.toNat := by
  have slots : pool.instances.keys ⊆
      (List.range capacity.toNat).map fun n => InstanceKey.slot (.ofNat n) := by
    intro key member
    obtain ⟨i, found⟩ := Table.mem_keys.mp member
    obtain ⟨index, rfl, below⟩ := allotted.slot pooled found
    have below := UInt32.lt_iff_toNat_lt.mp (below bounded)
    exact List.mem_map.mpr ⟨index.toNat, List.mem_range.mpr below, by simp⟩
  have counted := (List.subperm_of_subset pool.instances.keys_nodup slots).length_le
  simpa [Table.keys, Table.size] using counted

/-- Instances within a limit hold no more occupants together than the limit for
each. -/
theorem Within.memberships_le {pool : Pool} (within : pool.Within) {limit : UInt32}
    (limited : pool.template.occupantLimit = some limit) :
    (pool.instances.values.map fun i => i.occupants.size).sum ≤
      pool.instances.size * limit.toNat := by
  have each : ∀ n ∈ pool.instances.values.map (fun i => i.occupants.size), n ≤ limit.toNat := by
    intro n member
    obtain ⟨i, inside, rfl⟩ := List.mem_map.mp member
    obtain ⟨key, found⟩ := Table.mem_values.mp inside
    exact within key i found limit limited
  have bound := List.sum_le_card_nsmul _ limit.toNat each
  simpa [Table.values, Table.size] using bound

end Pool

namespace Run

/-- The templates of a registry never change. -/
theorem template_mem (run : Run) (templates : List Template) (buffer : Nat) :
    (run.result templates buffer).All fun pool => pool.template ∈ templates :=
  all (fun _ _ => ⟨fun _ _ member _ _ _ _ => member, fun _ _ _ member _ _ => member,
    fun _ _ _ member _ => member, fun _ _ member => member⟩) buffer fun _ member => member

theorem within (run : Run) (templates : List Template) (buffer : Nat) :
    (run.result templates buffer).All Pool.Within :=
  all (fun _ _ => Pool.within_stable) buffer fun _ _ _ _ found => nomatch found

/-- Operations other than direct creation open instances under allotted keys
only. -/
theorem allotted {run : Run} (admitsOnly : run.AdmitsOnly) (templates : List Template)
    (buffer : Nat) : (run.result templates buffer).All Pool.Allotted := by
  refine all (fun ⟨_, op⟩ member => Pool.allotted_stable fun t i allowed => ?_) buffer
    fun _ _ _ _ found => nomatch found
  have indirect := admitsOnly _ member
  cases op with
  | enter | pass => exact allowed.2
  | create => cases indirect
  | leave | addOccupants | removeOccupant | release | sweep | cutSweep | schedule =>
    exact allowed.elim

/-- After every run, every live instance stands under its own key and its
template's id and holds no more occupants than the template allows. If the run
admits only, the instances of a pool are in slots, below the capacity where
there is one, which bounds their number and their occupants together, and the
instances of a party template are those of parties and solo players. -/
theorem occupancy_stays_within_capacity (run : Run) (templates : List Template) (buffer : Nat) :
    (∀ id pool key i, (run.result templates buffer).pool? id = some pool →
      pool.instances.find? key = some i →
        pool.template ∈ templates ∧ pool.template.id = id ∧ i.template = id ∧ i.key = key ∧
          ∀ limit, pool.template.occupantLimit = some limit →
            i.occupants.size ≤ limit.toNat) ∧
    (run.AdmitsOnly → ∀ id pool, (run.result templates buffer).pool? id = some pool →
      (∀ capacity perSlot, pool.template.kind = .pooled capacity perSlot →
        (∀ key i, pool.instances.find? key = some i →
          ∃ index, key = .slot index ∧ (0 < capacity → index < capacity)) ∧
        (0 < capacity → pool.instances.size ≤ capacity.toNat ∧
          (pool.instances.values.map fun i => i.occupants.size).sum ≤
            capacity.toNat * perSlot.toNat)) ∧
      (∀ most, pool.template.kind = .exclusive most →
        ∀ key i, pool.instances.find? key = some i →
          (∃ party, key = .party party) ∨ ∃ player, key = .solo player)) := by
  constructor
  · intro id pool key i home found
    obtain ⟨same, keyed⟩ := run.keyed templates buffer id pool home
    obtain ⟨owner, own⟩ := keyed key i found
    exact ⟨(run.template_mem templates buffer id pool home).2, same, owner.trans same, own,
      (run.within templates buffer id pool home).2 key i found⟩
  · intro admitsOnly id pool home
    have within := (run.within templates buffer id pool home).2
    have allotted := (allotted admitsOnly templates buffer id pool home).2
    refine ⟨fun capacity perSlot pooled => ⟨fun key i found => allotted.slot pooled found,
      fun bounded => ?_⟩, fun most exclusive key i found => allotted.party_or_solo exclusive found⟩
    have instances := allotted.size_le pooled bounded
    have memberships := within.memberships_le
      (show pool.template.occupantLimit = some perSlot by simp [Template.occupantLimit, pooled])
    exact ⟨instances, Nat.le_trans memberships (Nat.mul_le_mul_right _ instances)⟩

end Run

end InstancedAreas
