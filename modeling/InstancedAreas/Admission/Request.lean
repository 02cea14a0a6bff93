import InstancedAreas.Duration
import InstancedAreas.Identity

/-! Requests to enter an instance, alone or together with companions. -/
namespace InstancedAreas

/-- The party that a player belongs to. -/
structure PartyContext where
  party : PartyId
  isLeader : Bool
deriving DecidableEq, Repr

/-- A request to enter an instance of a template. -/
structure Request where
  player : PlayerId
  currentArea : AreaId
  party : Option PartyContext
  template : TemplateId
  originOverride : Option AreaId
  lifetimeOverride : Option Duration
  companions : List PlayerId
deriving DecidableEq

namespace Request

/-- A request of a player alone. -/
def new (player : PlayerId) (currentArea : AreaId) (template : TemplateId) : Request :=
  ⟨player, currentArea, none, template, none, none, []⟩

/-- The request of a party's member. -/
def withParty (r : Request) (party : PartyId) (isLeader : Bool) : Request :=
  { r with party := some ⟨party, isLeader⟩ }

/-- The request with an area to return to. -/
def withOrigin (r : Request) (area : AreaId) : Request := { r with originOverride := some area }

/-- The request with a lifetime for an instance that it creates. -/
def withLifetime (r : Request) (lifetime : Duration) : Request :=
  { r with lifetimeOverride := some lifetime }

/-- The request with more companions. -/
def withCompanions (r : Request) (players : List PlayerId) : Request :=
  { r with companions := r.companions ++ players }

/-- The same request for another template. -/
def retarget (r : Request) (template : TemplateId) : Request := { r with template }

/-- The members of a list without those that stand earlier in it or in
`seen`. -/
def distinct (seen : List PlayerId) : List PlayerId → List PlayerId
  | [] => []
  | player :: rest =>
    if seen.contains player then distinct seen rest
    else player :: distinct (player :: seen) rest

/-- The player and the companions, each once, the player first. -/
def group (r : Request) : List PlayerId := distinct [] (r.player :: r.companions)

end Request

end InstancedAreas
