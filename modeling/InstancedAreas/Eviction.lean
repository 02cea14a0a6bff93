import InstancedAreas.Instance

/-! Eviction notices: who must be brought back where, because the instance
they were in has ended. A channel holds a bounded number of them for a
receiver and refuses what does not fit instead of waiting. -/
namespace InstancedAreas

/-- The notice that a player has to return to an area. -/
structure Eviction where
  instanceId : InstanceId
  template : TemplateId
  player : PlayerId
  originArea : AreaId
deriving DecidableEq

/-- Why a notice was not taken. -/
inductive EvictionError where
  | channelFull (player : PlayerId)
  | receiverGone (player : PlayerId)
  | failed (reason : String)
deriving DecidableEq, Repr

namespace EvictionError

/-- The wording of a refusal. -/
def message : EvictionError → String
  | channelFull player => "eviction channel full: " ++ Text.decimal player.toNat
  | receiverGone player => "receiver dropped: " ++ Text.decimal player.toNat
  | failed reason => reason

end EvictionError

namespace Eviction

/-- The notice for an occupant of an instance. -/
def of (i : Instance) (player : PlayerId) : Eviction := ⟨i.id, i.template, player, i.originArea⟩

/-- The notices for the occupants of an instance, ascending by player. -/
def all (i : Instance) : List Eviction := i.occupants.players.map (of i)

/-- A bounded queue of notices, until its receiver closes it. -/
structure Channel where
  size : Nat
  waiting : List Eviction
  isOpen : Bool
deriving DecidableEq

namespace Channel

/-- An open channel for at least one notice. -/
def new (size : Nat) : Channel := ⟨max size 1, [], true⟩

/-- Offers a notice to the receiver. -/
def offer (channel : Channel) (notice : Eviction) : Except EvictionError Channel :=
  if !channel.isOpen then .error (.receiverGone notice.player)
  else if channel.size ≤ channel.waiting.length then .error (.channelFull notice.player)
  else .ok { channel with waiting := channel.waiting ++ [notice] }

/-- Takes the oldest notice. -/
def take (channel : Channel) : Option (Eviction × Channel) :=
  match channel.waiting with
  | [] => none
  | notice :: rest => some (notice, { channel with waiting := rest })

/-- Takes all notices, oldest first. -/
def drain (channel : Channel) : List Eviction × Channel :=
  (channel.waiting, { channel with waiting := [] })

/-- Closes the channel. What still waited is lost. -/
def close (channel : Channel) : Channel := { channel with waiting := [], isOpen := false }

end Channel

end Eviction

end InstancedAreas
