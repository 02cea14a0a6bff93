/-! The numbers and names by which the game world is known here. They are
assigned elsewhere and only compared. -/
namespace InstancedAreas

/-- A place in the game world. -/
abbrev AreaId := UInt32

/-- A player's session. -/
abbrev PlayerId := UInt64

/-- A party of players. -/
abbrev PartyId := UInt64

/-- The name of a template. -/
abbrev TemplateId := String

end InstancedAreas
