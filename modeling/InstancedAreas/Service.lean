import InstancedAreas.Admission
import InstancedAreas.Clock
import InstancedAreas.Configuration
import InstancedAreas.Sweep

/-! The service: the registry of a configuration's templates, its gates, and
the relocator that takes eviction notices, all by one clock. -/
namespace InstancedAreas

/-- A running service and the configuration it was built from. -/
structure Service where
  config : Configuration
  clock : Clock
  registry : Registry
  policies : Gate.Policies
  source : Gate.Source
  relocator : Relocator
  patience : Duration

namespace Service

/-- The time by the service's clock. -/
def now (s : Service) : Instant := s.clock.now

/-- Moves the clock forward. -/
def advance (s : Service) (span : Duration) : Service := { s with clock := s.clock.advance span }

/-- Puts the clock to an instant. -/
def setClock (s : Service) (t : Instant) : Service := { s with clock := s.clock.set t }

/-- Runs an operation on the registry. -/
def onRegistry {α : Type} (s : Service) (act : Registry → Registry × α) : Service × α :=
  let (registry, result) := act s.registry
  ({ s with registry }, result)

/-- Admits a request's group. -/
def enter (s : Service) (fresh : InstanceId) (request : Request) :
    Service × Except AdmissionError Admitted :=
  s.onRegistry (·.enter s.now fresh request)

/-- Admits a request's group through a gate. -/
def pass (s : Service) (fresh : InstanceId) (gate : String) (request : Request) :
    Service × Except AdmissionError Admitted :=
  s.onRegistry (Gate.pass s.policies s.source · s.now fresh gate request)

/-- The verdict of a gate at present. -/
def verdict (s : Service) (gate : String) : Except AdmissionError Gate.Verdict :=
  Gate.verdict s.policies s.source s.now gate

/-- Takes a player out of the instance that a handle stands for. -/
def leave (s : Service) (handle : Handle) (player : PlayerId) :
    Service × Except RegistryError Bool :=
  s.onRegistry (·.leave s.now handle player)

/-- Reclaims all that is due and hands over the notices, all at one time. -/
def sweep (s : Service) : Service × SweepReport :=
  let (registry, relocator, report) := s.registry.sweep s.now s.relocator s.patience
  ({ s with registry, relocator }, report)

/-- Changes the board, where gate states come from one. -/
def onBoard (s : Service) (change : Gate.Board → Gate.Board) : Service :=
  match s.source with
  | .board board => { s with source := .board (change board) }
  | .timetable _ => s

/-- Adds a reader of lifecycle events. -/
def subscribe (s : Service) : Service × ReaderId :=
  s.onRegistry fun registry =>
    let (feed, reader) := registry.feed.subscribe
    ({ registry with feed }, reader)

/-- The first id of a list that stands earlier in it, or among others. -/
def firstRepeated? (earlier : List TemplateId) : List TemplateId → Option TemplateId
  | [] => none
  | id :: rest =>
    if earlier.contains id then some id else firstRepeated? (id :: earlier) rest

/-- The registry of some templates, of which no two may have one id. -/
def registryOf (templates : List Template) (buffer : Nat) :
    Except Configuration.Problem Registry :=
  match firstRepeated? [] (templates.map Template.id) with
  | some id => .error (.duplicateTemplate id)
  | none => .ok (.ofTemplates templates buffer)

/-- The service of some templates and gate policies by themselves. No rule of
configurations is checked but that no template id is used twice. -/
def ofParts (templates : List Template) (policies : List Gate.Policy) (board : Gate.Board)
    (clock : Clock) (relocator : Relocator) (buffer : Nat) (patience : Duration) :
    Except Configuration.Problem Service := do
  let registry ← registryOf templates buffer
  .ok
    { config := .default
      clock
      registry
      policies := Gate.policiesOf policies
      source := .board board
      relocator
      patience }

end Service

/-- What a service is built from: a configuration with further templates and
gates on top, and what it works with. -/
structure Blueprint where
  config : Configuration
  templates : List Template
  gates : List Gate.Policy
  clock : Clock
  relocator : Relocator
  board : Option Gate.Board
  logEvents : Bool

namespace Blueprint

/-- Adds a gate's policy to those of the configuration. -/
def addGate (registry : Registry) (policies : List Gate.Policy) (policy : Gate.Policy) :
    Except Configuration.Problem (List Gate.Policy) :=
  let unknown := match policy.destination with
    | .template id => if (registry.template? id).isNone then some id else none
    | .area .. => none
  match unknown with
  | some id => .error (.unknownTemplate policy.name id)
  | none =>
    if policies.any (·.name = policy.name) then .error (.duplicateGate policy.name)
    else .ok (policies ++ [policy])

/-- The timetable of the configured gates. -/
def timetable (config : Configuration) : Gate.Timetable :=
  config.gates.foldl (fun timetable gate => timetable.withGate gate.name gate.cycle) .empty

/-- Builds the service. The configuration is checked with the further templates
in it; then the registry looks through their ids once more, and then the further
gates are checked. -/
def build (plan : Blueprint) : Except Configuration.Problem Service := do
  let config := { plan.config with templates := plan.config.templates ++ plan.templates }
  config.validate
  let registry ← Service.registryOf config.templates config.expiry.eventBuffer.toNat
  let policies ← plan.gates.foldlM (addGate registry) (← config.policies)
  let source := match plan.board with
    | some board => Gate.Source.board board
    | none => .timetable (timetable config)
  let service : Service :=
    { config, clock := plan.clock, registry, policies := Gate.policiesOf policies, source,
      relocator := plan.relocator, patience := config.expiry.notifyTimeout }
  .ok (if plan.logEvents then service.subscribe.1 else service)

end Blueprint

end InstancedAreas
