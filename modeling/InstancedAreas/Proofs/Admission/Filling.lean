import InstancedAreas.Proofs.Admission.Grant
import InstancedAreas.Proofs.Run.Turns

/-! Filling an empty pool. Players who come alone, one after the other and each for the
first time, fill the slots in order: the first slot until it is full, then the next one.
When the last slot is full, everybody who still comes is turned away. So the number of a
player in the row tells the slot, and whether it was opened for that player. -/
namespace InstancedAreas

/-- The members of a row that fall to a place, where each place takes so many. -/
def share {α : Type} (each : Nat) (row : List α) (place : Nat) : List α :=
  (row.drop (place * each)).take each

section Share

variable {α : Type} {each place : Nat} {row : List α} {last : α}

theorem length_share : (share each row place).length = min each (row.length - place * each) := by
  rw [share, List.length_take, List.length_drop]

theorem share_sublist : (share each row place).Sublist row :=
  (List.take_sublist ..).trans (List.drop_sublist ..)

/-- Who comes last in a row falls to the place that the length of the row tells. -/
theorem share_concat (positive : 0 < each) : share each (row ++ [last]) place =
    if row.length / each = place then share each row place ++ [last]
    else share each row place := by
  have here : row.length / each = place ↔
      place * each ≤ row.length ∧ row.length < place * each + each := by
    rw [Nat.div_eq_iff positive]
    omega
  simp only [share, here]
  by_cases reached : place * each ≤ row.length
  · rw [List.drop_append_of_le_length reached, List.take_append, List.length_drop]
    split
    · have enough : [last].length ≤ each - (row.length - place * each) := by
        rw [List.length_singleton]
        omega
      rw [List.take_of_length_le enough]
    · rw [show each - (row.length - place * each) = 0 by omega, List.take_zero, List.append_nil]
  · have longer : (row ++ [last]).length = row.length + 1 := List.length_append
    have none : row.drop (place * each) = [] := List.drop_eq_nil_of_le (by omega)
    rw [if_neg (fun within => reached within.1), none, List.drop_eq_nil_of_le (by omega)]

/-- The share of a place is the same in a row of which so much is left that the place gets
all. -/
theorem share_take {slots : Nat} (within : place < slots) :
    share each (row.take (slots * each)) place = share each row place := by
  have enough : place * each + each ≤ slots * each := by
    rw [← Nat.succ_mul]
    exact Nat.mul_le_mul_right each within
  rw [share, share, List.drop_take, List.take_take, Nat.min_eq_left (by omega)]

/-- A place is needed for a row exactly if those before do not take all of it. -/
theorem needed_iff (positive : 0 < each) {count : Nat} :
    place < (count + (each - 1)) / each ↔ place * each < count := by
  rw [Nat.lt_div_iff_mul_lt positive]
  omega

/-- The part of a row that so many places can take needs all of them, or as many as the
row. -/
theorem needed_min (positive : 0 < each) (slots count : Nat) :
    (min (slots * each) count + (each - 1)) / each = min ((count + (each - 1)) / each) slots := by
  refine eq_of_forall_lt_iff fun place => ?_
  rw [needed_iff positive, lt_min_iff, lt_min_iff, needed_iff positive,
    Nat.mul_lt_mul_right positive, and_comm]

end Share

namespace Pool

variable {pool after : Pool} {now : Instant} {each : Nat} {players : List PlayerId}
  {player : PlayerId} {capacity perSlot : UInt32}

/-- The slots of a pool hold the players of a row, so many in each slot, and none has
reached its deadline. -/
structure Filled (pool : Pool) (now : Instant) (each : Nat) (players : List PlayerId) : Prop where
  taken : ∀ key, (∃ i, pool.instances.find? key = some i) ↔
    ∃ slot : UInt32, key = .slot slot ∧ slot.toNat * each < players.length
  shared : ∀ (slot : UInt32) i, pool.instances.find? (.slot slot) = some i →
    now < i.expiresAt ∧
      i.occupants.players.toFinset = (share each players slot.toNat).toFinset

/-- An empty pool holds nobody. -/
theorem Filled.of_empty (empty : pool.instances = .empty) : pool.Filled now each [] where
  taken key := by simp [empty]
  shared slot i held := by simp [empty] at held

/-- As many instances are live as it takes slots for the row. -/
theorem Filled.size (filled : pool.Filled now each players) (positive : 0 < each)
    (within : players.length ≤ UInt32.size * each) :
    pool.instances.size = (players.length + (each - 1)) / each := by
  let count := (players.length + (each - 1)) / each
  have below (n : Nat) : n < count ↔ n * each < players.length := needed_iff positive
  have few : count ≤ UInt32.size := by
    refine Nat.le_of_not_lt fun more => ?_
    exact Nat.not_le.mpr ((below UInt32.size).mp more) within
  have number {n : Nat} (inside : n < count) : (UInt32.ofNat n).toNat = n :=
    UInt32.toNat_ofNat_of_lt' (Nat.lt_of_lt_of_le inside few)
  let slots : List InstanceKey := (List.range count).map fun n => .slot (.ofNat n)
  have once : slots.Nodup := by
    refine List.Nodup.map_on (fun a first b second same => ?_) List.nodup_range
    rw [← number (List.mem_range.mp first), ← number (List.mem_range.mp second),
      InstanceKey.slot.inj same]
  have same : pool.instances.keys.Perm slots := by
    refine (List.perm_ext_iff_of_nodup pool.instances.keys_nodup once).mpr fun key => ?_
    rw [Table.mem_keys, filled.taken, List.mem_map]
    constructor
    · rintro ⟨slot, rfl, inside⟩
      exact ⟨slot.toNat, List.mem_range.mpr ((below _).mpr inside), by rw [UInt32.ofNat_toNat]⟩
    · rintro ⟨n, inside, rfl⟩
      have inside := List.mem_range.mp inside
      exact ⟨.ofNat n, rfl, by rw [number inside]; exact (below n).mp inside⟩
  calc pool.instances.size
      = pool.instances.keys.length := by rw [Table.keys, List.length_map]; rfl
    _ = slots.length := same.length_eq
    _ = count := by rw [List.length_map, List.length_range]

/-- The slot that the length of the row tells and those behind it are open to a player who
is not in the row. -/
theorem Filled.openTo_iff (filled : pool.Filled now perSlot.toNat players)
    (positive : 0 < perSlot.toNat) (once : players.Nodup) (new : player ∉ players)
    {slot : UInt32} : pool.OpenTo now {player} capacity perSlot slot ↔
      (0 < capacity → slot < capacity) ∧ players.length / perSlot.toNat ≤ slot.toNat := by
  have reach : players.length / perSlot.toNat ≤ slot.toNat ↔
      players.length < slot.toNat * perSlot.toNat + perSlot.toNat := by
    rw [← Nat.lt_succ_iff, Nat.div_lt_iff_lt_mul positive, Nat.succ_mul]
  have together {i : Instance} (held : pool.instances.find? (.slot slot) = some i) :
      (i.occupants.players.toFinset ∪ {player}).card =
        min perSlot.toNat (players.length - slot.toNat * perSlot.toNat) + 1 := by
    have outside : player ∉ (share perSlot.toNat players slot.toNat).toFinset := fun inside =>
      new (share_sublist.mem (List.mem_toFinset.mp inside))
    have part : (share perSlot.toNat players slot.toNat).Nodup := once.sublist share_sublist
    rw [(filled.shared slot i held).2, Finset.union_comm, ← Finset.insert_eq,
      Finset.card_insert_of_notMem outside, List.toFinset_card_of_nodup part, length_share]
  refine and_congr_right fun _ => ⟨fun room => reach.mpr ?_, fun later i held => ?_⟩
  · by_cases begun : slot.toNat * perSlot.toNat < players.length
    · obtain ⟨i, held⟩ := (filled.taken (.slot slot)).mpr ⟨slot, rfl, begun⟩
      have fits := (room i held).2
      rw [together held] at fits
      omega
    · omega
  · obtain ⟨other, same, begun⟩ := (filled.taken (.slot slot)).mp ⟨i, held⟩
    obtain rfl := InstanceKey.slot.inj same
    have later := reach.mp later
    refine ⟨(filled.shared slot i held).1, ?_⟩
    rw [together held]
    omega

/-- The slot that the length of the row tells is the least one that is open, if it is in
range. -/
theorem Filled.isLeast (filled : pool.Filled now perSlot.toNat players)
    (pooled : pool.template.kind = .pooled capacity perSlot) (positive : 0 < perSlot.toNat)
    (once : players.Nodup) (new : player ∉ players) {slot : UInt32}
    (number : players.length / perSlot.toNat = slot.toNat) (room : slot.toNat < pool.slotRange) :
    IsLeast {index | pool.OpenTo now {player} capacity perSlot index} slot := by
  have isOpen (index : UInt32) : pool.OpenTo now {player} capacity perSlot index ↔ _ :=
    filled.openTo_iff positive once new
  refine ⟨(isOpen slot).mpr ⟨(lt_slotRange_iff pooled slot).mp room, Nat.le_of_eq number⟩,
    fun index above => ?_⟩
  rw [UInt32.le_iff_toNat_le, ← number]
  exact ((isOpen index).mp above).2

/-- When the row has filled all slots, there is no place for another player. -/
theorem Filled.nowhere (filled : pool.Filled now perSlot.toNat players)
    (pooled : pool.template.kind = .pooled capacity perSlot) (positive : 0 < perSlot.toNat)
    (once : players.Nodup) {request : Request} (members : request.members = {player})
    (new : player ∉ players) (full : pool.slotRange ≤ players.length / perSlot.toNat) :
    pool.place now request = .error (.instancesFull pool.template.id) := by
  simp only [place, pooled]
  rcases pool.placePooled_cases pooled now request with ⟨-, nowhere⟩ | ⟨slot, live, least, -⟩
  · exact nowhere
  · have isOpen := least.1
    rw [members] at isOpen
    obtain ⟨within, later⟩ := (filled.openTo_iff positive once new).mp isOpen
    have below := (lt_slotRange_iff pooled slot).mpr within
    omega

/-- With a player in the slot that the length of the row tells, the row is longer by that
player. -/
theorem Filled.next (filled : pool.Filled now each players) (positive : 0 < each) {slot : UInt32}
    {i : Instance} (number : players.length / each = slot.toNat)
    (places : ∀ key, after.instances.find? key =
      if key = .slot slot then some i else pool.instances.find? key)
    (ahead : now < i.expiresAt)
    (inside : i.occupants.players.toFinset =
      (share each players slot.toNat ++ [player]).toFinset) :
    after.Filled now each (players ++ [player]) where
  taken key := by
    have begun : slot.toNat * each ≤ players.length :=
      number ▸ Nat.div_mul_le_self players.length each
    rw [places, List.length_append, List.length_singleton]
    split
    · rename_i here
      exact iff_of_true ⟨i, rfl⟩ ⟨slot, here, Nat.lt_succ_of_le begun⟩
    · rename_i elsewhere
      rw [filled.taken]
      refine exists_congr fun other => and_congr_right fun same => ?_
      have differs : other.toNat ≠ slot.toNat := fun equal =>
        elsewhere (same.trans (congrArg _ (UInt32.toNat_inj.mp equal)))
      have apart : other.toNat * each ≠ players.length := fun equal => differs (by
        rw [← number, ← equal, Nat.mul_div_cancel _ positive])
      omega
  shared other j held := by
    rw [places] at held
    rw [share_concat positive, number]
    split at held
    · rename_i here
      obtain rfl := InstanceKey.slot.inj here
      cases held
      rw [if_pos rfl]
      exact ⟨ahead, inside⟩
    · rename_i elsewhere
      rw [if_neg fun equal => elsewhere (congrArg _ (UInt32.toNat_inj.mp equal.symm))]
      exact filled.shared other j held

end Pool

namespace Registry

variable {r : Registry} {pool : Pool} {now : Instant} {players : List PlayerId}
  {request : Request} {capacity perSlot slot : UInt32}

/-- A player who is not in the row and comes alone gets the next place of the row, in a slot
that is opened exactly if those before are full. -/
theorem Keyed.enter_next (keyed : r.Keyed) (home : r.pool? request.template = some pool)
    (pooled : pool.template.kind = .pooled capacity perSlot) (positive : 0 < perSlot.toNat)
    (filled : pool.Filled now perSlot.toNat players) (once : players.Nodup)
    (members : request.members = {request.player}) (new : request.player ∉ players)
    (admissible : request.Admissible now pool.template)
    (number : players.length / perSlot.toNat = slot.toNat) (room : slot.toNat < pool.slotRange)
    (fresh : InstanceId) :
    ∃ i created, Entry.Grants (r.enter now fresh request) r pool.template request (.slot slot) i
      created ∧ i.key = .slot slot ∧ (created = true ↔ perSlot.toNat ∣ players.length) ∧
      now < i.expiresAt ∧ i.occupants.players.toFinset =
        (share perSlot.toNat players slot.toNat ++ [request.player]).toFinset := by
  have least : IsLeast {index | pool.OpenTo now request.members capacity perSlot index} slot :=
    members ▸ filled.isLeast pooled positive once new number room
  have placed := (Pool.place_pooled_iff pooled).mpr ⟨slot, least, rfl⟩
  have begun := filled.taken (.slot slot)
  have divides : perSlot.toNat ∣ players.length ↔ slot.toNat * perSlot.toNat = players.length := by
    rw [Nat.dvd_iff_div_mul_eq, number]
  have reached : slot.toNat * perSlot.toNat ≤ players.length :=
    number ▸ Nat.div_mul_le_self players.length perSlot.toNat
  rw [enter_of_admissible home admissible placed fresh, List.toFinset_append]
  cases held : pool.instances.find? (.slot slot) with
  | none =>
    have before : share perSlot.toNat players slot.toNat = [] := by
      have none : ¬ slot.toNat * perSlot.toNat < players.length := fun taken => by
        obtain ⟨i, there⟩ := begun.mpr ⟨slot, rfl, taken⟩
        cases held.symm.trans there
      rw [← List.length_eq_zero_iff, length_share]
      omega
    have fits : request.Fits pool.template.occupantLimit := by
      intro most limit
      have limit : perSlot = most := by simpa [Template.occupantLimit, pooled] using limit
      rw [members, Finset.card_singleton, ← limit]
      exact positive
    obtain ⟨deadline, ends⟩ := Option.ne_none_iff_exists'.mp admissible.ends
    obtain ⟨born, grants, same, inside⟩ := occupy_opens (keyed.home home) held ends fits
    refine ⟨born, true, grants, by rw [same], iff_of_true rfl (divides.mpr ?_), ?_, ?_⟩
    · rw [← List.length_eq_zero_iff, length_share] at before
      omega
    · rw [same]
      exact Instant.lt_of_after? admissible.lasting ends
    · rw [inside, members, before]
      rfl
  | some i =>
    obtain ⟨other, same, taken⟩ := begun.mp ⟨i, held⟩
    obtain rfl := InstanceKey.slot.inj same
    have room : i.HasRoom request.members pool.template.occupantLimit := by
      intro most limit
      have limit : perSlot = most := by simpa [Template.occupantLimit, pooled] using limit
      exact limit ▸ (least.1.2 i held).2
    obtain ⟨ahead, shared⟩ := filled.shared slot i held
    obtain ⟨joined, grants, same, inside⟩ := occupy_joins keyed (keyed.home home) held room
    refine ⟨joined, false, grants, ?_, iff_of_false Bool.false_ne_true ?_, ?_, ?_⟩
    · rw [same]
      exact ((keyed _ pool home).2 _ i held).2
    · rw [divides]
      omega
    · rw [same]
      exact ahead
    · rw [inside, shared, members]
      rfl

end Registry

/-- The number of slots of a capacity, where zero stands for all slot numbers that there
are. -/
def slotsOf (capacity : UInt32) : Nat := if capacity = 0 then UInt32.size else capacity.toNat

theorem Pool.slotRange_eq {pool : Pool} {capacity perSlot : UInt32}
    (pooled : pool.template.kind = .pooled capacity perSlot) :
    pool.slotRange = slotsOf capacity := by
  by_cases unbounded : capacity = 0
  · simp [slotRange, Template.slotCount, slotsOf, pooled, unbounded]
  · have bounded : 0 < capacity := UInt32.pos_iff_ne_zero.mpr unbounded
    simp [slotRange, Template.slotCount, slotsOf, pooled, unbounded, bounded]

/-- A request of a player alone to a template, with a lifetime that is not zero and ends
within the calendar. -/
structure Request.Alone (request : Request) (now : Instant) (t : Template) : Prop where
  target : request.template = t.id
  group : request.group = [request.player]
  lasting : (request.lifetime t).isZero = false
  ends : now.after? (request.lifetime t) ≠ none

/-- What somebody in a row is answered who has so many players in front. While there is a
slot with a place, that is the slot of the answer, and it is new for the first player in it.
From then on all instances are in use, and nothing changes. -/
structure Entry.InRow (entry : Entry) (before : Registry) (template : TemplateId)
    (slots each front : Nat) : Prop where
  admitted : front < slots * each → ∃ a i slot, entry.2 = .ok a ∧ a.instance? = some i ∧
    i.key = .slot slot ∧ slot.toNat = front / each ∧ (a.created = true ↔ each ∣ front)
  refused : slots * each ≤ front → entry = (before, .error (.instancesFull template))

/-- Requests that are sent one after the other at one time, each with a fresh id. -/
def Run.arrivals (now : Instant) (visits : List (InstanceId × Request)) : Run :=
  visits.map fun visit => (now, .enter visit.1 visit.2)

namespace Registry

variable {r : Registry} {pool : Pool} {now : Instant} {earlier : List PlayerId}
  {request : Request} {capacity perSlot : UInt32}

/-- The next player in a row is answered by the number of those in front, and the slots hold
as much of the row as they can. -/
theorem Keyed.enter_row (keyed : r.Keyed) (home : r.pool? request.template = some pool)
    (pooled : pool.template.kind = .pooled capacity perSlot) (positive : 0 < perSlot.toNat)
    (filled : pool.Filled now perSlot.toNat (earlier.take (slotsOf capacity * perSlot.toNat)))
    (once : (earlier ++ [request.player]).Nodup) (alone : request.Alone now pool.template)
    (fresh : InstanceId) :
    Entry.InRow (r.enter now fresh request) r request.template (slotsOf capacity) perSlot.toNat
      earlier.length ∧
    ∃ after, (r.enter now fresh request).1.pool? request.template = some after ∧
      after.template = pool.template ∧ after.Filled now perSlot.toNat
        ((earlier ++ [request.player]).take (slotsOf capacity * perSlot.toNat)) := by
  let most := slotsOf capacity * perSlot.toNat
  have range : pool.slotRange = slotsOf capacity := Pool.slotRange_eq pooled
  have onceEarlier : (earlier.take most).Nodup :=
    (List.nodup_append.mp once).1.sublist (List.take_sublist ..)
  have new : request.player ∉ earlier.take most := fun inside =>
    (List.nodup_append.mp once).2.2 _ (List.mem_of_mem_take inside) _ List.mem_cons_self rfl
  have members : request.members = {request.player} := by
    rw [← Request.toFinset_group, alone.group]
    rfl
  have shared : pool.template.isExclusive = false := by simp [Template.isExclusive, pooled]
  by_cases room : earlier.length < most
  · have whole : earlier.take most = earlier := List.take_of_length_le (Nat.le_of_lt room)
    rw [whole] at filled new onceEarlier
    have within : earlier.length / perSlot.toNat < pool.slotRange := by
      rw [range, Nat.div_lt_iff_lt_mul positive]
      exact room
    let slot : UInt32 := .ofNat (earlier.length / perSlot.toNat)
    have number : earlier.length / perSlot.toNat = slot.toNat :=
      (UInt32.toNat_ofNat_of_lt' (Nat.lt_of_lt_of_le within pool.slotRange_le)).symm
    have admissible : request.Admissible now pool.template :=
      ⟨fun exclusive => absurd (shared.symm.trans exclusive) Bool.false_ne_true, alone.lasting,
        alone.ends⟩
    obtain ⟨i, created, grants, key, divides, ahead, inside⟩ := keyed.enter_next home pooled
      positive filled onceEarlier members new admissible number (number ▸ within) fresh
    refine ⟨⟨fun _ => ⟨_, i, slot, grants.answer, rfl, key, number.symm, divides⟩,
      fun full => absurd room (Nat.not_lt.mpr full)⟩, ?_⟩
    have known := template?_perform keyed now (.enter fresh request) request.template
    rw [template?, template?, home, Option.map_some] at known
    obtain ⟨after, there, same⟩ := Option.map_eq_some_iff.mp known
    refine ⟨after, there, same, ?_⟩
    rw [List.take_of_length_le (by rw [List.length_append, List.length_singleton]; omega)]
    refine filled.next positive number (fun other => ?_) ahead inside
    have place := grants.places request.template other
    rw [instance?, instance?, home] at place
    rw [perform] at there
    rw [there] at place
    simpa [alone.target] using place
  · have full : most ≤ earlier.length := Nat.not_lt.mp room
    have length : (earlier.take most).length = most := List.length_take_of_le full
    have beyond : pool.slotRange ≤ (earlier.take most).length / perSlot.toNat := by
      rw [length, range, Nat.mul_div_cancel _ positive]
    have nowhere := filled.nowhere pooled positive onceEarlier members new beyond
    obtain ⟨deadline, ends⟩ := Option.ne_none_iff_exists'.mp alone.ends
    have refused := enter_of_no_place home (by simp [shared]) alone.lasting ends fresh nowhere
    rw [refused, (keyed _ pool home).1]
    refine ⟨⟨fun room' => absurd room' room, fun _ => rfl⟩, pool, home, rfl, ?_⟩
    rw [List.take_append_of_le_length full]
    exact filled

/-- When a row of players has come, the slots hold as much of it as they can. -/
theorem Keyed.after_arrivals (keyed : r.Keyed) {t : Template}
    (home : r.pool? t.id = some pool) (same : pool.template = t)
    (pooled : t.kind = .pooled capacity perSlot) (positive : 0 < perSlot.toNat)
    (filled : pool.Filled now perSlot.toNat (earlier.take (slotsOf capacity * perSlot.toNat)))
    {visits : List (InstanceId × Request)} (alone : ∀ visit ∈ visits, visit.2.Alone now t)
    (once : (earlier ++ visits.map fun visit => visit.2.player).Nodup) :
    ∃ after, (r.after (Run.arrivals now visits)).pool? t.id = some after ∧ after.template = t ∧
      after.Filled now perSlot.toNat ((earlier ++ visits.map fun visit => visit.2.player).take
        (slotsOf capacity * perSlot.toNat)) := by
  induction visits generalizing r pool earlier with
  | nil => exact ⟨pool, home, same, by rwa [List.map_nil, List.append_nil]⟩
  | cons visit rest ih =>
    obtain ⟨fresh, request⟩ := visit
    obtain ⟨first, others⟩ := List.forall_mem_cons.mp alone
    subst same
    rw [List.map_cons, List.append_cons] at once ⊢
    obtain ⟨-, after, there, known, reached⟩ := keyed.enter_row (first.target ▸ home) pooled
      positive filled (List.nodup_append.mp once).1 first fresh
    rw [first.target] at there
    exact ih (perform_keyed keyed now (.enter fresh request)) there known reached others once

end Registry

/-- After every run that leaves a pool empty, players who come alone at one time, no player
twice, are let in one after the other, so many to a slot, and the first in each slot has it
opened. When there is no slot any more, everybody who still comes is turned away and changes
nothing. At the end as many instances are live as it takes slots for the row, if there are so
many, and each holds the players whose numbers fall to its slot. -/
theorem Run.empty_pool_is_filled_in_order (run : Run) (templates : List Template) (buffer : Nat)
    (now : Instant) {pool : Pool} {capacity perSlot : UInt32}
    (visits : List (InstanceId × Request))
    (home : (run.result templates buffer).pool? pool.template.id = some pool)
    (pooled : pool.template.kind = .pooled capacity perSlot) (roomy : perSlot ≠ 0)
    (empty : pool.instances = .empty)
    (alone : ∀ visit ∈ visits, visit.2.Alone now pool.template)
    (once : (visits.map fun visit => visit.2.player).Nodup) :
    let reached (n : Nat) : Registry :=
      (run.result templates buffer).after (arrivals now (visits.take n))
    (∀ n fresh request, visits[n]? = some (fresh, request) →
      Entry.InRow ((reached n).enter now fresh request) (reached n) pool.template.id
        (slotsOf capacity) perSlot.toNat n) ∧
    ∃ filled, (reached visits.length).pool? pool.template.id = some filled ∧
      filled.instances.size =
        min ((visits.length + (perSlot.toNat - 1)) / perSlot.toNat) (slotsOf capacity) ∧
      ∀ (slot : UInt32) i, filled.instances.find? (.slot slot) = some i →
        i.occupants.players.toFinset =
          (share perSlot.toNat (visits.map fun visit => visit.2.player) slot.toNat).toFinset := by
  intro reached
  let before := run.result templates buffer
  let row := visits.map fun visit => visit.2.player
  let most := slotsOf capacity * perSlot.toNat
  have positive : 0 < perSlot.toNat :=
    Nat.pos_of_ne_zero fun zero => roomy (UInt32.toNat_inj.mp zero)
  have keyed (n : Nat) : (reached n).Keyed := keyed_after run (arrivals now (visits.take n))
  -- After any part of the row, the slots hold as much of it as they can.
  have part (n : Nat) : ∃ filled, (reached n).pool? pool.template.id = some filled ∧
      filled.template = pool.template ∧
      filled.Filled now perSlot.toNat ((row.take n).take most) := by
    have begun : pool.Filled now perSlot.toNat (([] : List PlayerId).take most) := by
      rw [List.take_nil]
      exact .of_empty empty
    have same : row.take n = (visits.take n).map fun visit => visit.2.player := List.map_take.symm
    rw [same]
    exact (run.keyed templates buffer).after_arrivals home rfl pooled positive begun
      (fun visit member => alone visit (List.mem_of_mem_take member))
      (List.nil_append _ ▸ same ▸ once.sublist (List.take_sublist ..))
  refine ⟨fun n fresh request visit => ?_, ?_⟩
  · obtain ⟨filled, there, same, holds⟩ := part n
    have next := alone (fresh, request) (List.mem_of_getElem? visit)
    have player : row[n]? = some request.player := by
      rw [List.getElem?_map, visit]
      rfl
    have begun : (row.take n ++ [request.player]).Nodup := by
      have longer : row.take (n + 1) = row.take n ++ [request.player] := by
        rw [List.take_add_one, player]
        rfl
      rw [← longer]
      exact once.sublist (List.take_sublist ..)
    have front : (row.take n).length = n :=
      List.length_take_of_le (Nat.le_of_lt (List.getElem?_eq_some_iff.mp player).1)
    have answer := ((keyed n).enter_row (next.target ▸ there) (same ▸ pooled) positive holds begun
      (same ▸ next) fresh).1
    rw [front, next.target] at answer
    exact answer
  · obtain ⟨filled, there, -, holds⟩ := part visits.length
    have length : row.length = visits.length := List.length_map _
    rw [← length, List.take_length] at holds
    have few : slotsOf capacity ≤ UInt32.size := Pool.slotRange_eq pooled ▸ pool.slotRange_le
    refine ⟨filled, there, ?_, fun slot i held => ?_⟩
    · have within : (row.take most).length ≤ UInt32.size * perSlot.toNat :=
        Nat.le_trans (List.length_take_le ..) (Nat.mul_le_mul_right _ few)
      rw [holds.size positive within, List.length_take, needed_min positive, length]
    · obtain ⟨other, own, begun⟩ := (holds.taken (.slot slot)).mp ⟨i, held⟩
      obtain rfl := InstanceKey.slot.inj own
      have within : slot.toNat < slotsOf capacity :=
        Nat.lt_of_mul_lt_mul_right (Nat.lt_of_lt_of_le begun (List.length_take_le ..))
      rw [(holds.shared slot i held).2, share_take within]

/-- Four players of a party fill two slots, whoever leads, and the fifth is turned away. -/
theorem Run.fifth_player_finds_both_slots_full :
    let template : Template := { Template.pooled "a" 100 "entry" 2 (.ofSeconds 3600) with
      kind := .pooled 2 2 }
    let visits : List (InstanceId × Request) := [1, 2, 3, 4, 5].map fun n : UInt64 =>
      (.ofNat n.toNat, (Request.new n 900 "a").withParty 7 (n = 1))
    let reached (n : Nat) : Registry :=
      (Run.result [] [template] 16).after (arrivals .epoch (visits.take n))
    (∀ visit ∈ visits, visit.2.Alone .epoch template) ∧
      (∃ a i, ((reached 2).enter .epoch (.ofNat 3)
          ((Request.new 3 900 "a").withParty 7 false)).2 = .ok a ∧
        a.instance? = some i ∧ i.key = .slot 1 ∧ a.created = true) ∧
      (reached 4).enter .epoch (.ofNat 5) ((Request.new 5 900 "a").withParty 7 false) =
        (reached 4, .error (.instancesFull "a")) ∧
      ∃ filled, (reached 5).pool? "a" = some filled ∧ filled.instances.size = 2 := by
  intro template visits reached
  let pool : Pool := ⟨template, .empty⟩
  have lasting : template.lifetime.isZero = false := by decide
  have ends : Instant.epoch.after? template.lifetime ≠ none := by decide
  have alone : ∀ visit ∈ visits, visit.2.Alone .epoch template :=
    List.forall_mem_map.mpr fun n _ => ⟨rfl, rfl, lasting, ends⟩
  have once : (visits.map fun visit => visit.2.player).Nodup := by decide
  have home : (Run.result [] [template] 16).pool? pool.template.id = some pool := by
    obtain ⟨found, there⟩ : ∃ found, (Registry.ofTemplates [template] 16).pool? "a" = some found :=
      Option.isSome_iff_exists.mp (by decide)
    obtain ⟨t, member, rfl, -⟩ := Registry.pool?_ofTemplates there
    obtain rfl := List.mem_singleton.mp member
    exact there
  obtain ⟨answers, filled, there, size, -⟩ := empty_pool_is_filled_in_order [] [template] 16 .epoch
    visits home rfl (by decide) rfl alone once
  refine ⟨alone, ?_, (answers 4 _ _ rfl).refused (by decide), filled, there,
    size.trans (by decide)⟩
  obtain ⟨a, i, slot, answer, same, key, number, opened⟩ :=
    (answers 2 _ _ rfl).admitted (by decide)
  obtain rfl : slot = 1 := UInt32.toNat_inj.mp number
  exact ⟨a, i, answer, same, key, opened.mpr (by decide)⟩

end InstancedAreas
