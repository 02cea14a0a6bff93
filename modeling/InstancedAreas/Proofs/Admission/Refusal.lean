import InstancedAreas.Proofs.Admission.Party
import InstancedAreas.Proofs.Admission.Pooled
import InstancedAreas.Proofs.Instant.Deadline

/-! Why requests are refused. Three refusals look at the request, the template and
the time alone: the template is unknown, somebody else leads the party, or no
deadline would come of the lifetime. No instance stands behind them, and as time
goes on they stay. All others come of what is live at present. -/
namespace InstancedAreas

/-- Neither leadership nor the lifetime stands against a request to a template. -/
structure Request.Admissible (request : Request) (now : Instant) (t : Template) : Prop where
  leads : t.isExclusive = true → request.Leads
  lasting : (request.lifetime t).isZero = false
  ends : now.after? (request.lifetime t) ≠ none

/-- What stands against a request whatever is live, given what is known of its
template. -/
inductive Barred (known : Option Template) (now : Instant) (request : Request) :
    AdmissionError → Prop where
  | unknown (absent : known = none) :
      Barred known now request (.unknownTemplate request.template)
  /-- The player follows somebody else of the party. -/
  | follows (t : Template) (home : known = some t) (exclusive : t.isExclusive = true)
      (follows : ¬ request.Leads) : Barred known now request .notPartyLeader
  /-- The lifetime is nothing, or has no end that is a deadline. -/
  | endless (t : Template) (home : known = some t)
      (leads : t.isExclusive = true → request.Leads)
      (endless : (request.lifetime t).isZero = true ∨ now.after? (request.lifetime t) = none) :
      Barred known now request (.invalidLifetime t.id (request.lifetime t))

/-- Why a request is refused. -/
inductive Refused (r : Registry) (now : Instant) (request : Request) : AdmissionError → Prop where
  | barred {error : AdmissionError}
      (barred : Barred (r.template? request.template) now request error) :
      Refused r now request error
  /-- There is no place for it. -/
  | full (pool : Pool) (home : r.pool? request.template = some pool)
      (admissible : request.Admissible now pool.template)
      (nowhere : pool.place now request = .error (.instancesFull pool.template.id)) :
      Refused r now request (.instancesFull pool.template.id)
  /-- There is no room in the live instance at its place. -/
  | crowded (pool : Pool) (i : Instance) (home : r.pool? request.template = some pool)
      (admissible : request.Admissible now pool.template)
      (placed : pool.place now request = .ok ⟨i.key, true⟩)
      (held : pool.instances.find? i.key = some i)
      (crowd : ¬ i.HasRoom request.members pool.template.occupantLimit) :
      Refused r now request (.capacityExceeded pool.template.id i.key)
  /-- Its group is too large for the instance that would be opened at its place. -/
  | excess (pool : Pool) (key : InstanceKey) (home : r.pool? request.template = some pool)
      (admissible : request.Admissible now pool.template)
      (placed : pool.place now request = .ok ⟨key, false⟩)
      (excess : ¬ request.Fits pool.template.occupantLimit) :
      Refused r now request (.capacityExceeded pool.template.id key)

/-- What is asked about leadership does not stand against who leads. -/
theorem Request.allowed_of_leads {request : Request} {t : Template}
    (leads : t.isExclusive = true → request.Leads) :
    (t.isExclusive && request.party.any (!·.isLeader)) = false := by
  simpa using fun exclusive => mt Request.any_not_leader.mp (not_not_intro (leads exclusive))

section Barred

variable {known : Option Template} {now later : Instant} {request : Request}
  {error : AdmissionError}

/-- Of a template that is known, something stands against a request or nothing does. -/
theorem Request.admissible_or_barred (request : Request) (now : Instant) {t : Template}
    (home : known = some t) :
    request.Admissible now t ∨ ∃ error, Barred known now request error := by
  by_cases leads : t.isExclusive = true → request.Leads
  · by_cases endless : (request.lifetime t).isZero = true ∨ now.after? (request.lifetime t) = none
    · exact .inr ⟨_, .endless t home leads endless⟩
    · rw [not_or, Bool.not_eq_true] at endless
      exact .inl ⟨leads, endless.1, endless.2⟩
  · obtain ⟨exclusive, follows⟩ := Classical.not_imp.mp leads
    exact .inr ⟨_, .follows t home exclusive follows⟩

/-- What stands against a request goes on to do so. -/
theorem Barred.persists (barred : Barred known now request error)
    (forward : now.nanos ≤ later.nanos) : Barred known later request error := by
  cases barred with
  | unknown absent => exact .unknown absent
  | follows t home exclusive follows => exact .follows t home exclusive follows
  | endless t home leads endless =>
    exact .endless t home leads (endless.imp_right (Instant.after?_eq_none_of_le forward))

/-- What stands against a request whatever is live is not worth another try. -/
theorem Barred.not_retryable (barred : Barred known now request error) :
    error.isRetryable = false := by
  cases barred <;> rfl

end Barred

/-- A refusal that is worth another try finds the template, and neither leadership
nor the lifetime stands against the request. -/
theorem Refused.admissible {r : Registry} {now : Instant} {request : Request}
    {error : AdmissionError} (refused : Refused r now request error)
    (retryable : error.isRetryable = true) :
    ∃ pool, r.pool? request.template = some pool ∧ request.Admissible now pool.template := by
  cases refused with
  | barred barred => cases retryable.symm.trans barred.not_retryable
  | full pool home admissible => exact ⟨pool, home, admissible⟩
  | crowded pool i home admissible => exact ⟨pool, home, admissible⟩
  | excess pool key home admissible => exact ⟨pool, home, admissible⟩

/-- A refusal that promises nothing comes of what stands against the request
whatever is live. -/
theorem Refused.for_good {r : Registry} {now : Instant} {request : Request}
    {error : AdmissionError} (refused : Refused r now request error)
    (final : error.isRetryable = false) :
    Barred (r.template? request.template) now request error := by
  cases refused with
  | barred barred => exact barred
  | full | crowded | excess => cases final

namespace Registry

variable {r : Registry} {pool : Pool} {now : Instant} {request : Request} {error : AdmissionError}

/-- A request that something stands against is refused for that reason. -/
theorem enter_of_barred (barred : Barred (r.template? request.template) now request error)
    (fresh : InstanceId) : r.enter now fresh request = (r, .error error) := by
  cases home : r.pool? request.template with
  | none =>
    rw [template?, home] at barred
    cases barred with
    | unknown absent => simp only [enter, home]
    | follows t known => cases known
    | endless t known => cases known
  | some pool =>
    rw [template?, home] at barred
    cases barred with
    | unknown absent => cases absent
    | follows t known exclusive follows =>
      cases known
      simp only [enter, home, exclusive, Request.any_not_leader.mpr follows, Bool.and_self, if_true]
    | endless t known leads endless =>
      cases known
      have allowed := Request.allowed_of_leads leads
      have refused : ((request.lifetime pool.template).isZero ||
          (now.after? (request.lifetime pool.template)).isNone) = true := by simpa using endless
      simp only [Request.lifetime] at refused ⊢
      simp only [enter, home, allowed, refused, if_true, Bool.false_eq_true, if_false]

/-- Nothing stands against a request that is granted. -/
theorem admissible_of_granted {t : Template} {a : Admitted} {fresh : InstanceId}
    (home : r.template? request.template = some t)
    (granted : (r.enter now fresh request).2 = .ok a) : request.Admissible now t := by
  rcases request.admissible_or_barred now home with admissible | ⟨error, barred⟩
  · exact admissible
  · rw [enter_of_barred barred fresh] at granted
    cases granted

/-- A request that nothing stands against takes its place, if it has one. -/
theorem enter_of_admissible (home : r.pool? request.template = some pool)
    (admissible : request.Admissible now pool.template) {placement : Placement}
    (placed : pool.place now request = .ok placement) (fresh : InstanceId) :
    r.enter now fresh request =
      r.occupy now fresh pool.template request (request.lifetime pool.template) placement := by
  obtain ⟨deadline, ends⟩ := Option.ne_none_iff_exists'.mp admissible.ends
  exact enter_of_placed home (Request.allowed_of_leads admissible.leads) admissible.lasting ends
    fresh placed

/-- What a request is refused for it is answered, and nothing changes. -/
theorem Keyed.enter_of_refused (keyed : r.Keyed) (refused : Refused r now request error)
    (fresh : InstanceId) : r.enter now fresh request = (r, .error error) := by
  cases refused with
  | barred barred => exact enter_of_barred barred fresh
  | full pool home admissible nowhere =>
    obtain ⟨deadline, ends⟩ := Option.ne_none_iff_exists'.mp admissible.ends
    exact enter_of_no_place home (Request.allowed_of_leads admissible.leads) admissible.lasting ends
      fresh nowhere
  | crowded pool i home admissible placed held crowd =>
    exact (enter_of_admissible home admissible placed fresh).trans
      (occupy_of_crowd keyed (keyed.home home) held crowd)
  | excess pool key home admissible placed excess =>
    exact (enter_of_admissible home admissible placed fresh).trans (occupy_of_excess key excess)

end Registry

end InstancedAreas
