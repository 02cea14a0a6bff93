import InstancedAreas.CommandLine.Run
import InstancedAreas.Proofs.Gate.Cycle
import InstancedAreas.Proofs.Gate.Verdict
import InstancedAreas.Proofs.Service.FirstEntry

/-! How the state of a configured gate is read. A service reads it from one timetable of
all gates, and the command line from a timetable of that gate alone. Since no name is
used twice, both show what the gate's own cycle does, so asking for a verdict, passing
the gate and asking on the command line come to the same at every time. -/
namespace InstancedAreas

theorem Registry.Keyed.after {r : Registry} (keyed : r.Keyed) (run : Run) : (r.after run).Keyed :=
  after_preserves (I := Keyed) (fun _ keyed _ => perform_keyed keyed _ _) keyed keyed

namespace Gate

/-- The timetable with some gates more. -/
def Timetable.withGates (timetable : Timetable) (gates : List Setting) : Timetable :=
  gates.foldl (fun timetable gate => timetable.withGate gate.name gate.cycle) timetable

variable {timetable : Timetable} {name : String}

theorem Timetable.find?_withGate_of_ne {gate : String} (differs : name ≠ gate)
    (cycle : List Phase) :
    (timetable.withGate gate cycle).cycles.find? name = timetable.cycles.find? name := by
  rw [find?_withGate, if_neg fun added => differs added.1.symm]

/-- Gates of other names change nothing for a gate. -/
theorem Timetable.find?_withGates_of_ne {gates : List Setting}
    (differs : ∀ gate ∈ gates, name ≠ gate.name) :
    (timetable.withGates gates).cycles.find? name = timetable.cycles.find? name := by
  induction gates generalizing timetable with
  | nil => rfl
  | cons first rest ih =>
    obtain ⟨apart, others⟩ := List.forall_mem_cons.mp differs
    exact (ih others).trans (find?_withGate_of_ne apart first.cycle)

/-- In a timetable of gates whose names are used once, each shows what its own cycle
does. -/
theorem Timetable.shows_withGates {gates : List Setting}
    (once : (gates.map Setting.name).Nodup) {gate : Setting} (member : gate ∈ gates)
    (new : timetable.cycles.find? gate.name = none) (t : Instant) :
    Shows gate.cycle t ((timetable.withGates gates).stateAt? gate.name t) := by
  induction gates generalizing timetable with
  | nil => cases member
  | cons first rest ih =>
    obtain ⟨apart, others⟩ := List.nodup_cons.mp once
    rcases List.mem_cons.mp member with rfl | later
    · have differs : ∀ other ∈ rest, gate.name ≠ other.name := fun other listed same =>
        apart (same ▸ List.mem_map_of_mem listed)
      have shown := shows_withGate new gate.cycle t
      simp only [stateAt?] at shown ⊢
      rwa [← find?_withGates_of_ne differs] at shown
    · have differs : gate.name ≠ first.name := fun same =>
        apart (same ▸ List.mem_map_of_mem later)
      exact ih others later ((find?_withGate_of_ne differs first.cycle).trans new)

end Gate

/-- On the command line a gate is in the state that its own cycle shows. -/
theorem CommandLine.gate_eq {config : Configuration} (legal : config.Legal) {gate : Gate.Setting}
    (member : gate ∈ config.gates) {policy : Gate.Policy} (made : gate.policy = .ok policy)
    {t : Instant} {label : Option String} (shows : Gate.Shows gate.cycle t label) :
    CommandLine.gate config t gate.name none =
      .ok [.words (gate.name ++ ": state " ++ label.getD "<none>" ++ " -> " ++
        verdictName (policy.decide label))] := by
  have own := Gate.Timetable.shows_withGate (Table.find?_empty gate.name) gate.cycle t
  rw [shows.unique own]
  simp only [CommandLine.gate, Configuration.find?_of_nodup legal.names member, made,
    Option.none_or]
  rfl

/-- For every valid configuration, each gate of the service that is built of it, with no
other source of gate states, has one verdict at a time, however it is read: by asking
for it, by what becomes of those who come to the gate, whatever has happened before, and
on the command line. It is the verdict of the gate's policy on the label that the gate's
own cycle shows. -/
theorem gate_readings_agree (config : Configuration) (clock : Clock) (relocator : Relocator)
    (logEvents : Bool) (valid : config.validate = .ok ()) :
    ∃ service, Blueprint.build ⟨config, [], [], clock, relocator, none, logEvents⟩ = .ok service ∧
      ∀ gate ∈ config.gates, ∃ policy, gate.policy = .ok policy ∧ ∀ t : Instant,
        ∃ label, Gate.Shows gate.cycle t label ∧
          Gate.verdict service.policies service.source t gate.name = .ok (policy.decide label) ∧
          (∀ (run : Run) (fresh : InstanceId) (request : Request),
            Gate.ruling? (Gate.pass service.policies service.source (service.registry.after run) t
              fresh gate.name request).2 = some (policy.decide label)) ∧
          CommandLine.gate config t gate.name none =
            .ok [.words (gate.name ++ ": state " ++ label.getD "<none>" ++ " -> " ++
              CommandLine.verdictName (policy.decide label))] := by
  have legal := Configuration.validate_eq_ok_iff.mp valid
  obtain ⟨whole, configured, built, held⟩ :=
    Blueprint.build_of_legal legal clock relocator none logEvents
  refine ⟨_, built, fun gate member => ?_⟩
  obtain ⟨policy, made, found⟩ := held gate member
  refine ⟨policy, made, fun t => ?_⟩
  have source : (Blueprint.assembled ⟨config, [], [], clock, relocator, none, logEvents⟩
      configured).source = .timetable (Gate.Timetable.empty.withGates config.gates) :=
    Blueprint.source_assembled ..
  have shown := Gate.Timetable.shows_withGates legal.names member (Table.find?_empty gate.name) t
  rw [source, Blueprint.policies_assembled]
  refine ⟨_, shown, ?_, fun run fresh request => ?_, CommandLine.gate_eq legal member made shown⟩
  · simp only [Gate.verdict, found]
    rfl
  · exact Gate.ruling?_pass found ((Blueprint.keyed_assembled _ configured).after run) fresh request

/-- A ferry that is at the pier for a minute of every three: at the start of 1970 it can
be boarded, as everybody is told who asks. -/
theorem ferry_is_at_the_pier :
    let ferry : Gate.Setting := ⟨"ferry", ["DOCKED"], [], none, some 100, none,
      [⟨"DOCKED", .ofSeconds 60⟩, ⟨"AWAY", .ofSeconds 120⟩]⟩
    let config : Configuration := ⟨.default, [], [ferry]⟩
    config.validate = .ok () ∧
      ∃ service, Blueprint.build ⟨config, [], [], ⟨0⟩, .none, none, false⟩ = .ok service ∧
        Gate.verdict service.policies service.source .epoch "ferry" = .ok .allow ∧
        CommandLine.gate config .epoch "ferry" none =
          .ok [.words "ferry: state DOCKED -> Allow"] := by
  intro ferry config
  have valid : config.validate = .ok () := by decide
  obtain ⟨service, built, each⟩ := gate_readings_agree config ⟨0⟩ .none false valid
  obtain ⟨policy, made, atTime⟩ := each ferry (List.mem_singleton_self ferry)
  cases made
  obtain ⟨label, shown, verdict, -, told⟩ := atTime .epoch
  have docked : Gate.Shows ferry.cycle .epoch (some "DOCKED") :=
    .label [] [⟨"AWAY", .ofSeconds 120⟩] ⟨"DOCKED", .ofSeconds 60⟩ rfl (by decide) (by decide)
  cases shown.unique docked
  exact ⟨valid, service, built, verdict, told⟩

end InstancedAreas
