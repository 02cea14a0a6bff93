import InstancedAreas.CommandLine
import InstancedAreas.Configuration.Layers
import InstancedAreas.Duration.Decimal
import InstancedAreas.Event.Shape
import InstancedAreas.Json.Text
import InstancedAreas.Service

/-! What the commands print. Running a command is a function of its
configuration, the time, and a supply of fresh ids. -/
namespace InstancedAreas.CommandLine

/-- The version of the library. -/
def version : String := "0.1.0"

/-- A line of output: words, or a lifecycle event in JSON. -/
inductive Line where
  | words (text : String)
  | event (event : Event)
deriving DecidableEq

/-- A line as it is printed. -/
def Line.text : Line → String
  | words text => text
  | event happened => happened.toJson.render

/-- The outcome of a command: the lines it prints, or the reason why it
fails. -/
abbrev Outcome := Except String (List Line)

/-- The name of a verdict. -/
def verdictName : Gate.Verdict → String
  | .allow => "Allow"
  | .denyRetryable => "DenyRetryable"
  | .denyNotYet => "DenyNotYet"

/-- The name of a release policy. -/
def releaseName : ReleasePolicy → String
  | .onExpiry => "OnExpiry"
  | .whenEmpty => "WhenEmpty"

/-- A kind of template in words. -/
def describeKind : Template.Kind → String
  | .exclusive none => "party-exclusive"
  | .exclusive (some most) =>
    "party-exclusive, up to " ++ Text.decimal most.toNat ++ " occupants"
  | .pooled capacity perSlot =>
    (if capacity = 0 then "pooled, unbounded slots x "
      else "pooled, " ++ Text.decimal capacity.toNat ++ " slots x ") ++
      Text.decimal perSlot.toNat

/-- The line for a template. -/
def templateLine (t : Template) : String :=
  let returnArea := match t.returnArea with
    | none => ""
    | some area => "  return " ++ Text.decimal area.toNat
  t.id ++ " -> " ++ Text.decimal t.destination.toNat ++ " (" ++ describeKind t.kind ++
    ")  lifetime " ++ t.lifetime.decimal ++ "  release " ++ releaseName t.release ++ returnArea

/-- A summary of a configuration. -/
def checkLine (config : Configuration) : String :=
  "ok: " ++ Text.decimal config.templates.length ++ " templates, " ++
    Text.decimal config.gates.length ++ " gates, expiry tick " ++ config.expiry.tick.decimal

/-- A number filled up with blanks on the left to four characters. -/
def column (n : Nat) : String :=
  let digits := Text.decimal n
  String.ofList (List.replicate (4 - digits.length) ' ') ++ digits

/-- The line for the answer to a player's request. -/
def requestLine (player : PlayerId) (answer : Except AdmissionError Admitted) : String :=
  "player " ++ column player.toNat ++ ": " ++
    match answer with
    | .ok a =>
      "admitted to " ++ Text.decimal a.destination.toNat ++ " " ++
        (a.handle.map (·.key.text)).getD "" ++ (if a.created then " (new)" else " (joined)")
    | .error error =>
      error.message ++ " [" ++ error.kind ++ " / " ++ error.outcome.name ++ "]"

/-- The request of the player with a number, from one on, to a template. The
first player leads the party, if there is one. -/
def numberedRequest (template : TemplateId) (party : Option PartyId) (n : Nat) : Request :=
  let request := Request.new (.ofNat n) 0 template
  match party with
  | none => request
  | some party => request.withParty party (n = 1)

/-- Sends the requests of so many players, the first with a given number. -/
def sendRequests (fresh : Nat → InstanceId) (template : TemplateId) (party : Option PartyId) :
    Nat → Nat → Service → Service × List (PlayerId × Except AdmissionError Admitted)
  | 0, _, service => (service, [])
  | count + 1, n, service =>
    let request := numberedRequest template party n
    let (service, answer) := service.enter (fresh n) request
    let (service, rest) := sendRequests fresh template party count (n + 1) service
    (service, (request.player, answer) :: rest)

/-- The events that are read before the first gap. -/
def eventsBeforeGap : List (Feed.Found Event) → List Event
  | .item event :: rest => event :: eventsBeforeGap rest
  | _ => []

/-- The line for a sweep. -/
def sweepLine (report : SweepReport) : String :=
  "expired " ++ Text.decimal report.released.length ++ " instances, evicted " ++
    Text.decimal report.evicted ++ " occupants"

/-- Sends requests to a fresh service. When asked to, lets the template's
lifetime pass and sweeps, and lists the lifecycle events. -/
def simulate (config : Configuration) (now : Instant) (fresh : Nat → InstanceId)
    (simulation : Simulation) : Outcome := do
  let template ← match config.template? simulation.template with
    | some template => .ok template
    | none => .error ("unknown template " ++ simulation.template)
  let plan : Blueprint :=
    { config, templates := [], gates := [], clock := .startingAt now, relocator := .none,
      board := none, logEvents := true }
  let service ← match plan.build with
    | .ok service => .ok service
    | .error problem => .error ("Configuration error: " ++ problem.message)
  let (service, reader) := service.subscribe
  let (service, answers) := sendRequests fresh simulation.template simulation.party
    simulation.requests.toNat 1 service
  let (service, swept) :=
    if simulation.expire then
      let (service, report) := (service.advance template.lifetime).sweep
      (service, [Line.words (sweepLine report)])
    else (service, [])
  let events :=
    if simulation.json then
      (eventsBeforeGap (service.registry.feed.drain reader).2).map Line.event
    else []
  .ok (answers.map (fun (player, answer) => .words (requestLine player answer)) ++ swept ++ events)

/-- The verdict of a configured gate in a state, or in the one that its own
cycle is in. -/
def gate (config : Configuration) (now : Instant) (name : String) (state : Option String) :
    Outcome :=
  match config.gates.find? (·.name = name) with
  | none => .error ("unknown gate " ++ name)
  | some setting =>
    match setting.policy with
    | .error problem => .error ("Configuration error: " ++ problem.message)
    | .ok policy =>
      let current := (Gate.Timetable.empty.withGate setting.name setting.cycle).stateAt?
        setting.name now
      let state := state.or current
      .ok [.words (name ++ ": state " ++ state.getD "<none>" ++ " -> " ++
        verdictName (policy.decide state))]

/-- Does a task with a configuration. -/
def perform (config : Configuration) (now : Instant) (fresh : Nat → InstanceId) :
    Task → Outcome
  | .check => .ok [.words (checkLine config)]
  | .templates => .ok (config.templates.map fun t => .words (templateLine t))
  | .simulate simulation => simulate config now fresh simulation
  | .gate name state => gate config now name state

/-- Does a task with the configuration of a path, or with the layered one,
unless it was rejected. -/
def runWith (path : Option String) (config : Except Configuration.Rejection Configuration)
    (now : Instant) (fresh : Nat → InstanceId) (task : Task) : Outcome :=
  match config with
  | .error _ => .error ("loading " ++ path.getD "configuration")
  | .ok config => perform config now fresh task

/-- What `version` prints. -/
def versionLines : List Line := [.words ("warden " ++ version), .words ("warden-core " ++ version)]

end InstancedAreas.CommandLine
