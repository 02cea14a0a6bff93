import InstancedAreas.Proofs.Feed.History
import InstancedAreas.Proofs.Run

/-! Groups that are let into a live instance. The room that is asked for counts sets of
players, while the players enter one after the other as they are listed. Both come to the
same: who is listed twice, or is inside already, takes no room, does not enter again and is
not announced. -/
namespace InstancedAreas

/-- Those who come in are those who were outside, once each, in the order in which they
are first listed. -/
theorem Occupants.entered_eq (o : Occupants) (players : List PlayerId) :
    (o.enterAll players).2 = (players.filter fun player => !o.contains player).eraseDups := by
  induction players generalizing o with
  | nil => rfl
  | cons first rest ih =>
    cases inside : o.contains first with
    | true => simp [enterAll, inside, ih]
    -- Those behind the first who come in are outside and somebody else.
    | false => simp [enterAll, inside, ih, List.eraseDups_cons]

/-- Which players are inside afterwards depends on the members of the group only. -/
theorem Occupants.insertAll_congr {o : Occupants} {players others : List PlayerId}
    (same : ∀ player, player ∈ others ↔ player ∈ players) :
    o.insertAll others = o.insertAll players := by
  apply ext_contains
  intro player
  have listed : others.contains player = players.contains player :=
    Bool.eq_iff_iff.mpr (by simpa using same player)
  rw [contains_insertAll, contains_insertAll, listed]

/-- There is room for a group if there is no limit, or it is not below the number of
players inside and in the group. -/
theorem Instance.hasRoom_iff {i : Instance} {group : Finset PlayerId} {limit : Option UInt32} :
    i.HasRoom group limit ↔
      limit = none ∨ ∃ most, limit = some most ∧
        (i.occupants.players.toFinset ∪ group).card ≤ most.toNat := by
  cases limit with
  | none => simp [HasRoom]
  | some most => simp [HasRoom]

namespace Registry

variable {r : Registry} {template : TemplateId} {key : InstanceKey} {t : Template} {i : Instance}

/-- A live instance under its key, with the pool that it stands in. -/
theorem Keyed.pool_of_live (keyed : r.Keyed) (known : r.template? template = some t)
    (live : r.instance? template key = some i) :
    ∃ pool, r.pool? pool.template.id = some pool ∧ pool.instances.find? i.key = some i ∧
      pool.template = t ∧ pool.template.id = template ∧ i.key = key := by
  obtain ⟨pool, home, held⟩ := instance?_eq_some_iff.mp live
  obtain ⟨-, own⟩ := keyed.own_place live
  have shown : some pool.template = some t := by rw [← known, template?, home, Option.map_some]
  exact ⟨pool, keyed.home home, own ▸ held, Option.some.inj shown, (keyed _ pool home).1, own⟩

/-- Only a group that there is room for gets in. -/
theorem hasRoom_of_entered {now : Instant} {pool : Pool}
    (home : r.pool? pool.template.id = some pool) (held : pool.instances.find? i.key = some i)
    {players : List PlayerId} {joined : Instance}
    (answer : (r.addOccupants now pool.template.id i.key players).2 = .ok joined) :
    i.HasRoom players.toFinset pool.template.occupantLimit := by
  refine Classical.byContradiction fun crowd => ?_
  obtain ⟨_, -, refused⟩ := addOccupants_of_crowd now home held crowd
  cases (congrArg Prod.snd refused).symm.trans answer

/-- In which order the members of a group are listed, and how often, makes no difference to
the answer or to what is live. -/
theorem addOccupants_congr (now : Instant) {pool : Pool}
    (home : r.pool? pool.template.id = some pool) (held : pool.instances.find? i.key = some i)
    {players others : List PlayerId} (same : ∀ player, player ∈ others ↔ player ∈ players) :
    let after (group : List PlayerId) := r.addOccupants now pool.template.id i.key group
    (after others).2 = (after players).2 ∧
      ∀ other place, (after others).1.instance? other place =
        (after players).1.instance? other place := by
  have group : others.toFinset = players.toFinset := Finset.ext fun player => by simp [same]
  have inside := Occupants.insertAll_congr (o := i.occupants) same
  by_cases room : i.HasRoom players.toFinset pool.template.occupantLimit
  · simp only [addOccupants_of_room now home held room,
      addOccupants_of_room now home held (group ▸ room), instance?_joined home, inside]
    exact ⟨trivial, fun _ _ => trivial⟩
  · obtain ⟨most, limited, refused⟩ := addOccupants_of_crowd now home held room
    obtain ⟨other, limited', refused'⟩ := addOccupants_of_crowd now home held (group ▸ room)
    cases limited.symm.trans limited'
    simp only [refused, refused']
    exact ⟨trivial, fun _ _ => trivial⟩

/-- There is room for a group in an instance exactly if there is no limit, or the limit is no
less than the number of players who are inside or belong to the group. Where the instance is
live, the group is let in exactly if there is room under the limit of the template; otherwise
nothing changes. Inside are then those who were inside and those who belong to the group, all
else is as it was, and what is announced are the newcomers, once each in the order in which they
are first listed, if there are any. So neither the order in which the members of a group are
listed nor how often they are makes a difference to the answer or to what is live. -/
theorem group_enters_exactly_if_it_fits (i : Instance) (players : List PlayerId) :
    let everyone : Finset PlayerId := i.occupants.players.toFinset ∪ players.toFinset
    let fits (limit : Option UInt32) : Prop :=
      limit = none ∨ ∃ most, limit = some most ∧ everyone.card ≤ most.toNat
    let newcomers := (players.filter fun player => !i.occupants.contains player).eraseDups
    (∀ limit, i.hasRoomFor players limit = true ↔ fits limit) ∧
    ∀ (r : Registry) template key t, r.Keyed → r.template? template = some t →
      r.instance? template key = some i → ∀ now,
        let after := r.addOccupants now template key players
        ((∃ joined, after.2 = .ok joined) ↔ fits t.occupantLimit) ∧
        (∀ joined, after.2 = .ok joined →
          joined = { i with occupants := joined.occupants } ∧
          joined.occupants.players.toFinset = everyone ∧
          (∀ other place, after.1.instance? other place =
            if other = template ∧ place = key then some joined else r.instance? other place) ∧
          after.1.queue = r.queue ∧
          after.1.history =
            r.history ++ if newcomers = [] then [] else [.of i now (.admitted newcomers)]) ∧
        (∀ error, after.2 = .error error → after.1 = r) ∧
        ∀ others, (∀ player, player ∈ others ↔ player ∈ players) →
          (r.addOccupants now template key others).2 = after.2 ∧
          ∀ other place, (r.addOccupants now template key others).1.instance? other place =
            after.1.instance? other place := by
  intro everyone fits newcomers
  have fits_iff (limit : Option UInt32) : i.HasRoom players.toFinset limit ↔ fits limit :=
    Instance.hasRoom_iff
  refine ⟨fun limit => Instance.hasRoomFor_iff_hasRoom.trans (fits_iff limit), ?_⟩
  intro r template key t keyed known live now after
  obtain ⟨pool, home, held, rfl, rfl, rfl⟩ := keyed.pool_of_live known live
  refine ⟨?_, ?_, r.addOccupants_allOrNothing now _ _ players,
    fun _ same => addOccupants_congr now home held same⟩
  · rw [← fits_iff]
    constructor
    · rintro ⟨joined, answer⟩
      exact hasRoom_of_entered home held answer
    · intro room
      exact ⟨_, congrArg Prod.snd (addOccupants_of_room now home held room)⟩
  · intro joined answer
    have entered : after = _ :=
      addOccupants_of_room now home held (hasRoom_of_entered home held answer)
    rw [entered] at answer ⊢
    cases answer
    refine ⟨rfl, Occupants.toFinset_insertAll .., fun other place => instance?_joined home ..,
      queue_joined .., ?_⟩
    rw [history_joined, Instance.welcome, Occupants.entered_eq]
    simp only [List.isEmpty_iff, newcomers]

/-- One player is inside where three may be. A group of four entries, one of them that player
and two of them one newcomer, just fits, and both newcomers are announced once. -/
theorem two_newcomers_are_listed_among_four :
    let template := (Template.exclusive "a" 100 "entry" (.ofSeconds 3600)).withMostOccupants 3
    let run : Run := [(.epoch, .enter (.ofNat 1) (.new 1 900 "a"))]
    let before := run.result [template] 16
    let after := before.addOccupants .epoch "a" (.solo 1) [3, 1, 3, 2]
    before.Keyed ∧ before.template? "a" = some template ∧
      ∃ i joined, before.instance? "a" (.solo 1) = some i ∧ after.2 = .ok joined ∧
        joined.occupants.players.toFinset = {1, 2, 3} ∧
        after.1.history = before.history ++ [.of i .epoch (.admitted [3, 2])] := by
  intro template run before after
  have known : before.template? "a" = some template := by decide
  have alone : (before.instance? "a" (.solo 1)).map (·.occupants.players) = some [1] := by decide
  obtain ⟨i, live, players⟩ := Option.map_eq_some_iff.mp alone
  have keyed : before.Keyed := run.keyed [template] 16
  obtain ⟨-, inLive⟩ := group_enters_exactly_if_it_fits i [3, 1, 3, 2]
  obtain ⟨succeeds, outcome, -⟩ := inLive before "a" (.solo 1) template keyed known live .epoch
  simp only [players] at succeeds outcome
  obtain ⟨joined, answer⟩ := succeeds.mpr (.inr ⟨3, by decide, by decide⟩)
  obtain ⟨-, inside, -, -, announced⟩ := outcome joined answer
  refine ⟨keyed, known, i, joined, live, answer, inside.trans (by decide), announced.trans ?_⟩
  have newcomers : ([3, 1, 3, 2].filter fun player => !i.occupants.contains player).eraseDups =
      [3, 2] := by
    simp only [Occupants.contains, players]
    decide
  rw [newcomers]
  rfl

end Registry

end InstancedAreas
