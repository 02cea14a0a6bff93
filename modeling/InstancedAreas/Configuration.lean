import InstancedAreas.Configuration.Problem
import InstancedAreas.Gate
import InstancedAreas.Gate.Timetable
import InstancedAreas.Template
import InstancedAreas.Text.Blank

/-! Configurations: how often to sweep, which templates there are, and which
gates lead to them. Validation reports the first problem in the order of the
text. -/
namespace InstancedAreas

/-- A gate as it is configured. -/
structure Gate.Setting where
  name : String
  allow : List String
  retry : List String
  template : Option TemplateId
  area : Option AreaId
  spawnPoint : Option String
  cycle : List Gate.Phase
deriving DecidableEq

/-- The spawn point of a gate to an area that names none. -/
def Gate.defaultSpawnPoint : String := "sp"

/-- The policy of a configured gate, which leads either into a template or to
an area. -/
def Gate.Setting.policy (setting : Gate.Setting) :
    Except Configuration.Problem Gate.Policy :=
  let leadingTo (destination : Gate.Destination) : Gate.Policy :=
    ⟨setting.name, setting.allow, setting.retry, destination⟩
  match setting.template, setting.area, setting.spawnPoint with
  | some template, none, none => .ok (leadingTo (.template template))
  | none, some area, spawnPoint =>
    .ok (leadingTo (.area area (spawnPoint.getD Gate.defaultSpawnPoint)))
  | some _, _, _ => .error (.templateWithArea setting.name)
  | none, none, _ => .error (.noDestination setting.name)

/-- How often to sweep, how many events each subscriber may fall behind, and
how long to wait for a relocator. -/
structure ExpirySettings where
  tick : Duration
  eventBuffer : UInt64
  notifyTimeout : Duration
deriving DecidableEq

/-- Sweeps every five seconds, with 256 events kept and two seconds for each
notice. -/
def ExpirySettings.default : ExpirySettings := ⟨.ofSeconds 5, 256, .ofSeconds 2⟩

/-- A configuration. -/
structure Configuration where
  expiry : ExpirySettings
  templates : List Template
  gates : List Gate.Setting
deriving DecidableEq

namespace Configuration

/-- The configuration without templates and gates. -/
def default : Configuration := ⟨.default, [], []⟩

instance : Inhabited Configuration := ⟨default⟩

/-- The first template with an id. -/
def template? (config : Configuration) (id : TemplateId) : Option Template :=
  config.templates.find? (·.id = id)

/-- The policies of all gates. -/
def policies (config : Configuration) : Except Problem (List Gate.Policy) :=
  config.gates.mapM Gate.Setting.policy

/-- Checks a template by itself. -/
def checkTemplate (t : Template) : Except Problem Unit :=
  if Text.blank t.id then .error .blankTemplateId
  else if t.lifetime.isZero then .error (.zeroLifetime t.id)
  else if Instant.furthestNanos < t.lifetime.nanos then .error (.lifetimeOutOfRange t.id)
  else
    match t.kind with
    | .exclusive most => if most = some 0 then .error (.noOccupants t.id) else .ok ()
    | .pooled capacity perSlot =>
      if perSlot = 0 then .error (.noOccupantsPerSlot t.id)
      else if 0 < capacity ∧ capacity < perSlot then
        .error (.crowdedSlots t.id perSlot capacity)
      else .ok ()

/-- Checks templates in order, each by itself and then against the ids of the
earlier ones. -/
def checkTemplates (earlier : List TemplateId) : List Template → Except Problem Unit
  | [] => .ok ()
  | t :: rest =>
    match checkTemplate t with
    | .error problem => .error problem
    | .ok () =>
      if earlier.contains t.id then .error (.duplicateTemplate t.id)
      else checkTemplates (t.id :: earlier) rest

/-- Checks a gate against the names of the earlier ones and the ids of the
templates. -/
def checkGate (templates : List TemplateId) (earlier : List String) (gate : Gate.Setting) :
    Except Problem Unit :=
  if Text.blank gate.name then .error .blankGateName
  else if earlier.contains gate.name then .error (.duplicateGate gate.name)
  else
    match gate.allow.find? gate.retry.contains with
    | some state => .error (.allowAndRetry gate.name state)
    | none =>
      match gate.policy with
      | .error problem => .error problem
      | .ok policy =>
        match policy.destination with
        | .area .. => .ok ()
        | .template template =>
          if templates.contains template then .ok ()
          else .error (.unknownTemplate gate.name template)

/-- Checks gates in order. -/
def checkGates (templates : List TemplateId) (earlier : List String) :
    List Gate.Setting → Except Problem Unit
  | [] => .ok ()
  | gate :: rest =>
    match checkGate templates earlier gate with
    | .error problem => .error problem
    | .ok () => checkGates templates (gate.name :: earlier) rest

/-- Checks a whole configuration. -/
def validate (config : Configuration) : Except Problem Unit :=
  if config.expiry.tick.isZero then .error .zeroTick
  else if config.expiry.notifyTimeout.isZero then .error .zeroNotifyTimeout
  else
    match checkTemplates [] config.templates with
    | .error problem => .error problem
    | .ok () => checkGates (config.templates.map Template.id) [] config.gates

end Configuration

end InstancedAreas
