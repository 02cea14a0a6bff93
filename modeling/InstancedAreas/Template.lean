import InstancedAreas.Identity
import InstancedAreas.Instant

/-! Templates of instanced areas: where an instance lies, whom it admits, how
many instances there may be and when one ends. -/
namespace InstancedAreas

/-- When an instance ends. -/
inductive ReleasePolicy where
  /-- At its deadline, even when it has been empty before. -/
  | onExpiry
  /-- As soon as its last occupant leaves, or at its deadline. -/
  | whenEmpty
deriving DecidableEq, Repr

/-- How instances are allotted. -/
inductive Template.Kind where
  /-- One instance for each party, which only the leader may enter, or for
  each player without one. The number of occupants may be bounded. -/
  | exclusive (most : Option UInt32)
  /-- A row of slots that are filled from the first on; a capacity of zero
  stands for every slot number there is. -/
  | pooled (capacity : UInt32) (perSlot : UInt32)
deriving DecidableEq, Repr

/-- The fixed description of an instanced area. -/
structure Template where
  id : TemplateId
  destination : AreaId
  spawnPoint : String
  kind : Template.Kind
  lifetime : Duration
  returnArea : Option AreaId
  release : ReleasePolicy
deriving DecidableEq

namespace Template

/-- A template with an instance for each party. -/
def exclusive (id : TemplateId) (destination : AreaId) (spawnPoint : String)
    (lifetime : Duration) : Template :=
  ⟨id, destination, spawnPoint, .exclusive none, lifetime, none, .onExpiry⟩

/-- A template with a row of slots for one occupant each. -/
def pooled (id : TemplateId) (destination : AreaId) (spawnPoint : String)
    (capacity : UInt32) (lifetime : Duration) : Template :=
  ⟨id, destination, spawnPoint, .pooled capacity 1, lifetime, none, .onExpiry⟩

/-- The template with another area to return to. -/
def withReturnArea (t : Template) (area : AreaId) : Template := { t with returnArea := some area }

/-- The template with another release policy. -/
def withRelease (t : Template) (release : ReleasePolicy) : Template := { t with release }

/-- The template with a bound on the occupants of a party's instance. A pool
keeps its own bound. -/
def withMostOccupants (t : Template) (most : UInt32) : Template :=
  match t.kind with
  | .exclusive _ => { t with kind := .exclusive (some most) }
  | .pooled .. => t

/-- The template with a bound on the occupants of a slot. It means nothing to
a template without slots. -/
def withPerSlot (t : Template) (perSlot : UInt32) : Template :=
  match t.kind with
  | .exclusive _ => t
  | .pooled capacity _ => { t with kind := .pooled capacity perSlot }

/-- Whether instances belong to parties. -/
def isExclusive (t : Template) : Bool :=
  match t.kind with
  | .exclusive _ => true
  | .pooled .. => false

/-- The number of slots, where there are slots and they are bounded. -/
def slotCount (t : Template) : Option UInt32 :=
  match t.kind with
  | .exclusive _ => none
  | .pooled capacity _ => if capacity > 0 then some capacity else none

/-- The greatest number of occupants of one instance, where there is one. -/
def occupantLimit (t : Template) : Option UInt32 :=
  match t.kind with
  | .exclusive most => most
  | .pooled _ perSlot => some perSlot

end Template

end InstancedAreas
