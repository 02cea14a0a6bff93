import InstancedAreas.Configuration.Shape
import InstancedAreas.Environment
import InstancedAreas.Toml

/-! Reading configurations: from one text, or from layers where each layer
overrides the ones below. Tables are merged name by name, and all else is
replaced. -/
namespace InstancedAreas.Configuration

/-- Why a configuration was not accepted: its text cannot be read, or it
breaks a rule. -/
inductive Rejection where
  | unreadable
  | invalid (problem : Problem)
deriving DecidableEq, Repr

/-- The valid configuration that a tree of values describes. -/
def ofTree (tree : Json) : Except Rejection Configuration :=
  match ofJson? tree with
  | none => .error .unreadable
  | some config =>
    match config.validate with
    | .error problem => .error (.invalid problem)
    | .ok () => .ok config

/-- The valid configuration that a TOML text describes. -/
def ofToml (text : String) : Except Rejection Configuration :=
  match Toml.parse? text with
  | none => .error .unreadable
  | some tree => ofTree tree

/-- What a path leads to. -/
inductive PathTarget where
  | nothing
  | file (text : String)
  /-- A file that cannot be read as text. -/
  | unreadable
  /-- Something that is no file, such as a directory. -/
  | other
deriving DecidableEq, Repr

/-- Whether a path leads to a file. -/
def PathTarget.isFile : PathTarget → Bool
  | file _ | unreadable => true
  | nothing | other => false

/-- The tree of values that a path leads to. What is no file is empty, and so
is nothing at all. -/
def PathTarget.tree : PathTarget → Except Rejection Json
  | file text => (Toml.parse? text).elim (.error .unreadable) .ok
  | unreadable => .error .unreadable
  | nothing | other => .ok (.object [])

/-- The valid configuration that a path leads to. Something must be there. -/
def ofPath (path : String) (target : PathTarget) : Except Rejection Configuration :=
  if target = .nothing then .error (.invalid (.fileNotFound path))
  else target.tree.bind ofTree

mutual

/-- A tree with another laid over it. -/
def overlay : Json → Json → Json
  | .object below, .object above => .object (overlayFields below above)
  | _, above => above

/-- Fields with others laid over them, one after the other. -/
def overlayFields (below : List (String × Json)) : List (String × Json) → List (String × Json)
  | [] => below
  | (name, value) :: rest => overlayFields (overlayField name value below) rest

/-- Fields with one laid over them. -/
def overlayField (name : String) (above : Json) : List (String × Json) → List (String × Json)
  | [] => [(name, above)]
  | (other, below) :: rest =>
    if other = name then (name, overlay below above) :: rest
    else (other, below) :: overlayField name above rest

end

/-- The sources of a layered configuration: the file in the working directory,
the file that a variable names, and the environment. -/
structure Layers where
  workingFile : PathTarget
  namedFile : PathTarget
  assignments : List (String × String)

/-- The word that the names of variables begin with. -/
def variableWord : String := "WARDEN_"

/-- The tree of the environment, where later variables override earlier
ones. -/
def environmentTree (assignments : List (String × String)) : Json :=
  (Environment.trees variableWord assignments).foldl overlay (.object [])

/-- The valid configuration of all layers: the defaults, the two files, and
the environment on top. -/
def ofLayers (layers : Layers) : Except Rejection Configuration := do
  let first ← layers.workingFile.tree
  let second ← layers.namedFile.tree
  let trees := [first, second, environmentTree layers.assignments]
  ofTree (trees.foldl overlay default.toJson)

end InstancedAreas.Configuration
