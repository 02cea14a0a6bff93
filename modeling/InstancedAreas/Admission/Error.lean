import InstancedAreas.Registry.Error

/-! Why a request is turned down, and what the caller is to do about it. -/
namespace InstancedAreas

/-- What the caller does with a request that was turned down. -/
inductive CallerOutcome where
  | genericFailure
  | notLeader
  | tryAgainLater
  | notYetOpen
deriving DecidableEq, Repr

/-- Why a request was turned down. -/
inductive AdmissionError where
  | unknownTemplate (template : TemplateId)
  | notPartyLeader
  | instancesFull (template : TemplateId)
  | capacityExceeded (template : TemplateId) (key : InstanceKey)
  | invalidLifetime (template : TemplateId) (lifetime : Duration)
  | unknownGate (gate : String)
  | gateRetryLater (gate state : String)
  | gateNotYet (gate : String) (state : Option String)
  | internal (reason : String)
deriving DecidableEq

namespace AdmissionError

/-- The wording of a refusal. -/
def message : AdmissionError → String
  | unknownTemplate template => "Unknown template: " ++ template
  | notPartyLeader => "You are not the leader of the party."
  | instancesFull template =>
    "All instances of " ++ template ++ " are in use right now, please try again later."
  | capacityExceeded template key =>
    "Instance " ++ template ++ "/" ++ key.text ++ " cannot accept more occupants"
  | invalidLifetime template lifetime =>
    "Lifetime " ++ lifetime.decimal ++ " requested for " ++ template ++ " is not valid"
  | unknownGate gate => "Unknown gate: " ++ gate
  | gateRetryLater gate state =>
    "Gate " ++ gate ++ " is not accepting entries right now (" ++ state ++ ")"
  | gateNotYet gate _ => "Gate " ++ gate ++ " has not opened yet"
  | internal reason => "Internal admission error: " ++ reason

/-- The word for the kind of a refusal. -/
def kind : AdmissionError → String
  | unknownTemplate _ => "unknown_template"
  | notPartyLeader => "not_party_leader"
  | instancesFull _ => "instances_full"
  | capacityExceeded .. => "capacity_exceeded"
  | invalidLifetime .. => "invalid_lifetime"
  | unknownGate _ => "unknown_gate"
  | gateRetryLater .. => "gate_retry_later"
  | gateNotYet .. => "gate_not_yet"
  | internal _ => "internal"

/-- What the caller does with a refusal. -/
def outcome : AdmissionError → CallerOutcome
  | unknownTemplate _ | unknownGate _ | invalidLifetime .. | internal _ => .genericFailure
  | notPartyLeader => .notLeader
  | instancesFull _ | capacityExceeded .. | gateRetryLater .. => .tryAgainLater
  | gateNotYet .. => .notYetOpen

/-- Whether the same request may succeed later. -/
def isRetryable (error : AdmissionError) : Bool :=
  error.outcome = .tryAgainLater || error.outcome = .notYetOpen

/-- The refusal that a failure of the registry amounts to. -/
def ofRegistry : RegistryError → AdmissionError
  | .unknownTemplate template => unknownTemplate template
  | .capacityExceeded template key _ => capacityExceeded template key
  | .invalidLifetime template lifetime => invalidLifetime template lifetime
  | error@(.alreadyExists ..) | error@(.notFound ..) => internal error.message

end AdmissionError

/-- The name of an outcome. -/
def CallerOutcome.name : CallerOutcome → String
  | genericFailure => "GenericFailure"
  | notLeader => "NotLeader"
  | tryAgainLater => "TryAgainLater"
  | notYetOpen => "NotYetOpen"

end InstancedAreas
