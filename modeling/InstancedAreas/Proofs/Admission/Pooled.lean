import InstancedAreas.Proofs.Admission.FirstFit
import InstancedAreas.Proofs.Admission.Occupation
import InstancedAreas.Proofs.Run
import Mathlib.Order.Bounds.Defs

/-! Admission to templates with slots. The group of a request goes to the least
slot that is free or has room for all of it, whoever leads. Nothing else decides
where it goes, and there are no other reasons to turn it away than that there is
no such slot, or that the group is too large for the free slot that it would
get. -/
namespace InstancedAreas

variable {now : Instant}

namespace Pool

/-- A slot is open to a group if it is in range and free, or if its instance has
not reached its deadline and has room for the whole group. -/
def OpenTo (pool : Pool) (now : Instant) (group : Finset PlayerId)
    (capacity perSlot index : UInt32) : Prop :=
  (0 < capacity → index < capacity) ∧
    ∀ i, pool.instances.find? (.slot index) = some i →
      now < i.expiresAt ∧ (i.occupants.players.toFinset ∪ group).card ≤ perSlot.toNat

variable {pool : Pool} {capacity perSlot : UInt32}

/-- What is open to a group is open to each part of it. -/
theorem OpenTo.of_subset {group part : Finset PlayerId} {index : UInt32}
    (isOpen : pool.OpenTo now group capacity perSlot index) (fewer : part ⊆ group) :
    pool.OpenTo now part capacity perSlot index := by
  refine ⟨isOpen.1, fun i held => ?_⟩
  obtain ⟨ahead, room⟩ := isOpen.2 i held
  exact ⟨ahead, Nat.le_trans
    (Finset.card_le_card (Finset.union_subset_union_right fewer)) room⟩

theorem lt_slotRange_iff (pooled : pool.template.kind = .pooled capacity perSlot) (index : UInt32) :
    index.toNat < pool.slotRange ↔ (0 < capacity → index < capacity) := by
  by_cases bounded : 0 < capacity
  · simp [slotRange, Template.slotCount, pooled, bounded, UInt32.lt_iff_toNat_lt]
  · simpa [slotRange, Template.slotCount, pooled, bounded] using index.toNat_lt

/-- What is looked for in the instance of an occupied slot. -/
theorem fits_iff (pooled : pool.template.kind = .pooled capacity perSlot) (request : Request)
    (i : Instance) :
    (!i.isExpired now && i.hasRoomFor request.group pool.template.occupantLimit) = true ↔
      now < i.expiresAt ∧
        (i.occupants.players.toFinset ∪ request.members).card ≤ perSlot.toNat := by
  have ahead : i.expiresAt ≤ now ↔ ¬ now < i.expiresAt := Int.not_lt.symm
  rw [Bool.and_eq_true, Instance.hasRoomFor_iff_hasRoom]
  simp [Instance.isExpired, Instance.HasRoom, Template.occupantLimit, pooled, ahead]

/-- The place in a template with slots is the least open slot, if there is one. -/
theorem placePooled_cases (pooled : pool.template.kind = .pooled capacity perSlot) (now : Instant)
    (request : Request) :
    let openSlots := {index | pool.OpenTo now request.members capacity perSlot index}
    (openSlots = ∅ ∧
        pool.placePooled now request.group = .error (.instancesFull pool.template.id)) ∨
      ∃ slot live, IsLeast openSlots slot ∧
        pool.placePooled now request.group = .ok ⟨.slot slot, live⟩ ∧
        (live = false ∧ pool.instances.find? (.slot slot) = none ∨
          live = true ∧ ∃ i, pool.instances.find? (.slot slot) = some i) := by
  intro openSlots
  have shut {index : UInt32} (blocked : Blocked (fun i => !i.isExpired now &&
      i.hasRoomFor request.group pool.template.occupantLimit) pool.slots index) :
      index ∉ openSlots := by
    obtain ⟨i, member, misfit⟩ := blocked
    intro isOpen
    have fit := (fits_iff pooled request i).mpr (isOpen.2 i (mem_slots.mp member))
    cases fit.symm.trans misfit
  simp only [placePooled]
  split
  · rename_i placement placed
    obtain ⟨slot, found⟩ := firstFit_some pool.slotRange_le pool.slots_ahead placed
    refine .inr ⟨slot, placement.live, ⟨⟨(lt_slotRange_iff pooled slot).mp found.below, ?_⟩, ?_⟩,
      ?_, ?_⟩
    · intro i held
      rcases found.suits with ⟨-, free⟩ | ⟨-, j, member, fit⟩
      · exact absurd (mem_slots.mpr held) (free i)
      · rw [mem_slots, held] at member
        cases member
        exact (fits_iff pooled request i).mp fit
    · intro index isOpen
      refine Classical.byContradiction fun before => shut ?_ isOpen
      exact found.least index (Nat.zero_le _) (UInt32.not_le.mp before)
    · rw [← found.key]
    · rcases found.suits with ⟨dead, free⟩ | ⟨live, i, member, -⟩
      · refine .inl ⟨dead, ?_⟩
        exact Option.eq_none_iff_forall_not_mem.mpr fun i held => free i (mem_slots.mpr held)
      · exact .inr ⟨live, i, mem_slots.mp member⟩
  · rename_i nowhere
    refine .inl ⟨Set.eq_empty_of_forall_notMem fun index isOpen => ?_, rfl⟩
    have below := (lt_slotRange_iff pooled index).mpr isOpen.1
    exact shut (firstFit_none pool.slots_ahead nowhere (Nat.zero_le _) below) isOpen

/-- A request to a template with slots is placed in a slot exactly if that is the least
open one, and it is live there if the slot is occupied. -/
theorem place_pooled_iff (pooled : pool.template.kind = .pooled capacity perSlot)
    {request : Request} {placement : Placement} :
    pool.place now request = .ok placement ↔
      ∃ slot, IsLeast {index | pool.OpenTo now request.members capacity perSlot index} slot ∧
        placement = ⟨.slot slot, (pool.instances.find? (.slot slot)).isSome⟩ := by
  have place : pool.place now request = pool.placePooled now request.group := by
    simp only [Pool.place, pooled]
  rcases pool.placePooled_cases pooled now request with
    ⟨none, full⟩ | ⟨slot, live, least, placed, state⟩
  · rw [place, full]
    constructor
    · intro impossible
      cases impossible
    · rintro ⟨slot, least, -⟩
      exact absurd least.1 (Set.eq_empty_iff_forall_notMem.mp none slot)
  · have occupied : live = (pool.instances.find? (.slot slot)).isSome := by
      rcases state with ⟨rfl, free⟩ | ⟨rfl, i, held⟩
      · rw [free]
        rfl
      · rw [held]
        rfl
    rw [place, placed, occupied]
    constructor
    · rintro ⟨⟩
      exact ⟨slot, least, rfl⟩
    · rintro ⟨other, smallest, rfl⟩
      obtain rfl : other = slot := UInt32.le_antisymm (smallest.2 least.1) (least.2 smallest.1)
      rfl

end Pool

/-- In a template with slots it is never asked who leads a party, or whether there
is one. -/
theorem Registry.enter_with_party {r : Registry} {request : Request} {pool : Pool}
    {capacity perSlot : UInt32} (home : r.pool? request.template = some pool)
    (pooled : pool.template.kind = .pooled capacity perSlot) (now : Instant) (fresh : InstanceId)
    (party : Option PartyContext) :
    r.enter now fresh { request with party } = r.enter now fresh request := by
  simp only [enter, home, Template.isExclusive, pooled, Pool.place, Bool.false_and]
  rfl

/-- After every run, a request to a template with slots is decided by the least
slot that is open to its group. Without one, all instances are in use. Where
that slot is free, a group that is too large for a slot is turned away, and
otherwise an instance is created for it; where it is occupied, the group joins.
Whether the player leads a party changes nothing. -/
theorem Run.pooled_admission_takes_the_least_open_slot (run : Run) (templates : List Template)
    (buffer : Nat) (now : Instant) (fresh : InstanceId) (request : Request) {pool : Pool}
    {capacity perSlot : UInt32} {deadline : Instant}
    (home : (run.result templates buffer).pool? request.template = some pool)
    (pooled : pool.template.kind = .pooled capacity perSlot)
    (lasting : (request.lifetime pool.template).isZero = false)
    (ends : now.after? (request.lifetime pool.template) = some deadline) :
    let before := run.result templates buffer
    let entry : Entry := before.enter now fresh request
    let openSlots := {index | pool.OpenTo now request.members capacity perSlot index}
    (openSlots = ∅ ∧ entry = (before, .error (.instancesFull request.template)) ∨
      ∃ slot, IsLeast openSlots slot ∧
        (pool.instances.find? (.slot slot) = none ∧ perSlot.toNat < request.members.card ∧
            entry = (before, .error (.capacityExceeded request.template (.slot slot))) ∨
          pool.instances.find? (.slot slot) = none ∧ request.members.card ≤ perSlot.toNat ∧
            entry.Opens before pool.template request now fresh (.slot slot) deadline ∨
          ∃ i, pool.instances.find? (.slot slot) = some i ∧
            entry.Joins before pool.template request (.slot slot) i)) ∧
    ∀ party, before.enter now fresh { request with party } = entry := by
  intro before entry openSlots
  have keyed : before.Keyed := run.keyed templates buffer
  obtain ⟨same, -⟩ := keyed _ pool home
  have homeOwn := keyed.home home
  have allowed : (pool.template.isExclusive && request.party.any (!·.isLeader)) = false := by
    simp [Template.isExclusive, pooled]
  have limit : pool.template.occupantLimit = some perSlot := by
    simp [Template.occupantLimit, pooled]
  have placeEq : pool.place now request = pool.placePooled now request.group := by
    simp only [Pool.place, pooled]
  refine ⟨?_, fun party => ?_⟩
  · rcases pool.placePooled_cases pooled now request with
      ⟨none, full⟩ | ⟨slot, live, least, placed, state⟩
    · rw [← placeEq, same] at full
      exact .inl ⟨none, Registry.enter_of_no_place home allowed lasting ends fresh full⟩
    · rw [← placeEq] at placed
      have taken : entry = _ := Registry.enter_of_placed home allowed lasting ends fresh placed
      refine .inr ⟨slot, least, ?_⟩
      rcases state with ⟨rfl, free⟩ | ⟨rfl, i, held⟩
      · by_cases fits : request.Fits pool.template.occupantLimit
        · have opens : entry.Opens before pool.template request now fresh (.slot slot) deadline :=
            taken ▸ Registry.occupy_opens homeOwn free ends fits
          exact .inr (.inl ⟨free, fits perSlot limit, opens⟩)
        · have excess : perSlot.toNat < request.members.card := by
            simpa [Request.Fits, limit] using fits
          refine .inl ⟨free, excess, ?_⟩
          rw [taken, Registry.occupy_of_excess _ fits, same]
      · have room : i.HasRoom request.members pool.template.occupantLimit := by
          intro most bounded
          cases limit.symm.trans bounded
          exact (least.1.2 i held).2
        rw [taken]
        exact .inr (.inr ⟨i, held, Registry.occupy_joins keyed homeOwn held room⟩)
  · exact Registry.enter_with_party home pooled now fresh party

/-- The first slot is full and the instance of the second has reached its
deadline. A group of two that shares a player with each gets the third. -/
theorem Run.full_and_ended_slots_are_passed_over :
    let template : Template := { Template.pooled "a" 100 "entry" 0 (.ofSeconds 3600) with
      kind := .pooled 0 2 }
    let run : Run := [(.epoch, .enter (.ofNat 1) ((Request.new 1 900 "a").withCompanions [2])),
      (.epoch, .enter (.ofNat 2) ((Request.new 3 900 "a").withLifetime (.ofSeconds 60)))]
    let late := (Instant.epoch.after? (.ofSeconds 60)).getD .epoch
    let request := ((Request.new 2 900 "a").withParty 7 false).withCompanions [3]
    ∃ pool deadline, (run.result [template] 16).pool? request.template = some pool ∧
      pool.template.kind = .pooled 0 2 ∧
      (request.lifetime pool.template).isZero = false ∧
      late.after? (request.lifetime pool.template) = some deadline ∧
      IsLeast {index | pool.OpenTo late request.members 0 2 index} 2 ∧
      Entry.Opens ((run.result [template] 16).enter late (.ofNat 3) request)
        (run.result [template] 16) pool.template request late (.ofNat 3) (.slot 2) deadline := by
  intro template run late request
  obtain ⟨pool, home⟩ : ∃ pool, (run.result [template] 16).pool? "a" = some pool :=
    Option.isSome_iff_exists.mp (by decide)
  have own : pool.template = template := by
    have shown : ((run.result [template] 16).pool? "a").map Pool.template = some template := by
      decide
    rw [home] at shown
    exact Option.some.inj shown
  have pooled : pool.template.kind = .pooled 0 2 := by rw [own]
  have lasting : (request.lifetime pool.template).isZero = false := by
    rw [own]
    decide
  obtain ⟨deadline, ends⟩ : ∃ deadline,
      late.after? (request.lifetime pool.template) = some deadline := by
    rw [own]
    exact Option.isSome_iff_exists.mp (by decide)
  have answered : (((run.result [template] 16).enter late (.ofNat 3) request).2.toOption.map
      fun a => (a.created, a.instance?.map Instance.key)) = some (true, some (.slot 2)) := by
    decide
  refine ⟨pool, deadline, home, pooled, lasting, ends, ?_⟩
  -- What is answered tells which of the cases holds, and in which slot.
  rcases (pooled_admission_takes_the_least_open_slot run [template] 16 late (.ofNat 3) request home
    pooled lasting ends).1 with
    ⟨-, full⟩ | ⟨slot, least, ⟨-, -, excess⟩ | ⟨-, -, opens⟩ | ⟨i, -, joined, grants, -⟩⟩
  · rw [full] at answered
    cases answered
  · rw [excess] at answered
    cases answered
  · have opened := opens
    obtain ⟨born, grants, same, -⟩ := opened
    rw [grants.answer, same] at answered
    obtain rfl : slot = 2 := by simpa [Except.toOption] using answered
    exact ⟨least, opens⟩
  · rw [grants.answer] at answered
    cases answered

end InstancedAreas
