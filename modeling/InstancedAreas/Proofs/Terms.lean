import InstancedAreas.Proofs.Feed.Life

/-! The terms of an instance: its template and key, when it was created and when it
ends, and where its occupants return to. They are fixed when it is created. Who joins
it later may ask for other terms, and it makes no difference; whatever happens, it has
its terms for as long as it is live. -/
namespace InstancedAreas

/-- A request that joins a live instance would do so as well if it came from another
area and asked for other terms, and with the same result. -/
theorem Registry.Keyed.joins_on_other_terms {r s : Registry} (keyed : r.Keyed) {now : Instant}
    {fresh : InstanceId} {request : Request} {a : Admitted}
    (granted : r.enter now fresh request = (s, .ok a)) (joins : a.created = false)
    {currentArea : AreaId} {originOverride : Option AreaId} {lifetimeOverride : Option Duration}
    {t : Template} (home : r.template? request.template = some t) :
    let other : Request := { request with currentArea, originOverride, lifetimeOverride }
    (other.lifetime t).isZero = false → now.after? (other.lifetime t) ≠ none →
      ∀ again, r.enter now again other = (s, .ok a) := by
  intro other lasting ends again
  rcases keyed.enter_cases now fresh request with ⟨error, refused, -⟩ | ⟨after, b, taken, how⟩
  · cases refused.symm.trans granted
  · cases taken.symm.trans granted
    cases how with
    | joins pool i own target leads placed held ahead room =>
      have homeOther : r.pool? other.template = some pool := (congrArg r.pool? target).trans own
      obtain rfl : pool.template = t := by
        rw [template?, target, own] at home
        exact Option.some.inj home
      -- Neither the place of a request nor its group has to do with what it asks for.
      have placedOther : pool.place now other = .ok ⟨i.key, true⟩ := placed
      rw [enter_of_admissible homeOther ⟨leads, lasting, ends⟩ placedOther again]
      exact occupy_of_room own held room
    | opens => cases joins

namespace Run

variable {templates : List Template} {buffer : Nat}

/-- What is live after a run has an id that the run was given. -/
theorem id_mem_of_live {run : Run} {i : Instance} (live : (run.result templates buffer).Live i) :
    i.id ∈ run.ids := by
  induction run using Run.induction generalizing i with
  | nil => exact absurd live (Registry.not_live_ofTemplates templates buffer i)
  | concat run now op ih =>
    rw [result_concat] at live
    rw [ids_concat, List.mem_append]
    rcases Turn.holds_or_given (run.keyed templates buffer) live with ⟨occupants, before⟩ | given
    · exact .inl (ih (i := { i with occupants }) before)
    · exact .inr (by simp [show op.fresh? = _ from given])

/-- Where ids are fresh, what is live with one id at two times has the same terms at
both. -/
theorem terms_of_id {run more : Run} (fresh : (run ++ more).Fresh) {i j : Instance}
    (early : (run.result templates buffer).Live i)
    (late : ((run ++ more).result templates buffer).Live j) (same : j.id = i.id) :
    j = { i with occupants := j.occupants } := by
  induction more using Run.induction generalizing j with
  | nil =>
    rw [List.append_nil] at fresh late
    rw [(Run.apart fresh templates buffer).eq_of_id late early same]
  | concat more now op ih =>
    rw [← List.append_assoc] at fresh late
    rw [result_concat] at late
    rcases Turn.holds_or_given ((run ++ more).keyed templates buffer) late with
      ⟨occupants, before⟩ | given
    · have terms := ih (j := { j with occupants }) fresh.of_append before same
      exact (Instance.terms_eq terms.symm).2
    -- The id was given before the first of the two times, so it cannot be given again.
    · rw [Fresh, ids_concat, show op.fresh? = _ from given, same] at fresh
      obtain ⟨-, -, apart⟩ := List.nodup_append.mp fresh
      have member : i.id ∈ Run.ids (run ++ more) := by
        rw [ids, List.filterMap_append]
        exact List.mem_append_left _ (id_mem_of_live early)
      exact absurd rfl (apart i.id member i.id (by simp))

/-- After every run, a request that joins a live instance would join it just so if it
came from another area and asked for other terms, as long as some deadline would come of
its lifetime. In every turn a live instance keeps its terms, or its release is announced.
Where ids are fresh, what is live with one id at two times has the same terms at both. -/
theorem joining_keeps_the_terms (run : Run) (templates : List Template) (buffer : Nat) :
    let before := run.result templates buffer
    (∀ now fresh again request currentArea originOverride lifetimeOverride t s a,
      let other : Request := { request with currentArea, originOverride, lifetimeOverride }
      before.template? request.template = some t →
      (other.lifetime t).isZero = false → now.after? (other.lifetime t) ≠ none →
      before.enter now fresh request = (s, .ok a) → a.created = false →
        before.enter now again other = (s, .ok a)) ∧
    (∀ turn ∈ run.turns templates buffer, ∀ i, turn.before.Live i →
      turn.after.Holds i ∨ ∃ reason, .of i turn.now (.released reason) ∈ turn.events) ∧
    ∀ early more i j, run = early ++ more → run.Fresh →
      (Run.result early templates buffer).Live i → before.Live j → j.id = i.id →
        j = { i with occupants := j.occupants } := by
  intro before
  refine ⟨?_, ?_, ?_⟩
  · intro now fresh again request currentArea originOverride lifetimeOverride t s a other home
      lasting ends granted joins
    exact (run.keyed templates buffer).joins_on_other_terms granted joins home lasting ends again
  · intro turn member i live
    by_cases stays : turn.after.Holds i
    · exact .inl stays
    · exact .inr (Turn.ends_of_gone (keyed_of_mem_turns member) live stays).2
  · rintro early more i j rfl fresh live liveLater same
    exact terms_of_id fresh live liveLater same

/-- Who comes second into a slot comes in just the same from another area, with another
place to return to and with a minute to stay. -/
theorem second_player_comes_in_on_the_terms_of_the_first :
    let template := { Template.pooled "a" 100 "entry" 1 (.ofSeconds 3600) with
      kind := .pooled 1 2 }
    let run : Run := [(.epoch, .enter (.ofNat 1) (.new 1 900 "a"))]
    let before := run.result [template] 16
    let request := Request.new 2 900 "a"
    let other := ((Request.new 2 901 "a").withOrigin 902).withLifetime (.ofSeconds 60)
    let entry := before.enter .epoch (.ofNat 2) request
    entry.2.toOption.any (!·.created) = true ∧ before.enter .epoch (.ofNat 3) other = entry := by
  intro template run before request other entry
  have joins : entry.2.toOption.any (!·.created) = true := by decide
  refine ⟨joins, ?_⟩
  have same := (joining_keeps_the_terms run [template] 16).1 .epoch (.ofNat 2) (.ofNat 3) request
    901 (some 902) (some (.ofSeconds 60)) template
  generalize granted : entry = outcome at joins ⊢
  obtain ⟨s, error | a⟩ := outcome
  · cases joins
  · exact same s a (by decide) (by decide) (by decide) granted (by simpa [Except.toOption] using joins)

end Run

end InstancedAreas
