import InstancedAreas.Configuration.Layers

/-! Environments that set nothing in a configuration. One variable with the word of this library
in front tells where a file is, and a configuration has no field of its name. Without other such
variables, the layer of the environment holds that field at most. -/
namespace InstancedAreas

namespace Environment

/-! ### The path of a variable

Texts are split by a recursion that does not evaluate, so it is followed step by step. -/

theorem splitOnAux_of_ne {text word : String} {start here there : String.Pos.Raw}
    {parts : List String} (ahead : here.atEnd text = false)
    (other : (here.get text == there.get word) = false) :
    text.splitOnAux word start here there parts =
      text.splitOnAux word start ((here.unoffsetBy there).next text) 0 parts := by
  rw [String.splitOnAux, ahead, other]
  rfl

theorem splitOnAux_of_eq {text word : String} {start here there : String.Pos.Raw}
    {parts : List String} (ahead : here.atEnd text = false)
    (same : (here.get text == there.get word) = true)
    (more : (there.next word).atEnd word = false) :
    text.splitOnAux word start here there parts =
      text.splitOnAux word start (here.next text) (there.next word) parts := by
  rw [String.splitOnAux, ahead, same]
  simp [more]

theorem splitOnAux_at_end {text word : String} {start here there : String.Pos.Raw}
    {parts : List String} (done : here.atEnd text = true) :
    text.splitOnAux word start here there parts = (start.extract text here :: parts).reverse := by
  rw [String.splitOnAux, done]
  rfl

theorem path_configPath : path "CONFIG_PATH" = ["config_path"] := by
  have small : "CONFIG_PATH".map Char.toLower = "config_path" := by
    rw [← String.toList_inj, String.toList_map]
    decide
  have undivided : "config_path".splitOn "__" = ["config_path"] := by
    rw [String.splitOn, if_neg (by decide)]
    iterate 6 rw [splitOnAux_of_ne (by decide) (by decide)]
    rw [splitOnAux_of_eq (by decide) (by decide) (by decide)]
    iterate 5 rw [splitOnAux_of_ne (by decide) (by decide)]
    rw [splitOnAux_at_end (by decide)]
    decide
  have undotted : "config_path".splitOn "." = ["config_path"] := by
    rw [String.splitOn, if_neg (by decide)]
    iterate 11 rw [splitOnAux_of_ne (by decide) (by decide)]
    rw [splitOnAux_at_end (by decide)]
    decide
  rw [path, small, undivided, List.flatMap_singleton, undotted]

end Environment

namespace Configuration

/-- Of the variables whose names begin with the word of this library, in capitals or not, only
the one is set that names a file. -/
def Quiet (assignments : List (String × String)) : Prop :=
  ∀ assignment ∈ assignments, assignment.1 = "WARDEN_CONFIG_PATH" ∨
    Environment.behindWord? variableWord (Environment.trimmed assignment.1) = none

theorem trees_of_quiet {assignments : List (String × String)} (quiet : Quiet assignments) :
    ∀ tree ∈ Environment.trees variableWord assignments,
      ∃ value, tree = .object [("config_path", value)] := by
  intro tree member
  obtain ⟨⟨name, text⟩, set, made⟩ := List.mem_filterMap.mp member
  obtain ⟨rest, behind, made⟩ := Option.bind_eq_some_iff.mp made
  rcases quiet (name, text) set with rfl | other
  · have tail : Environment.behindWord? variableWord (Environment.trimmed "WARDEN_CONFIG_PATH") =
        some "CONFIG_PATH" := by decide
    have bare : Environment.trimmed "CONFIG_PATH" = "CONFIG_PATH" := by decide
    obtain rfl := Option.some.inj (tail.symm.trans behind)
    rw [bare, Environment.path_configPath] at made
    cases made
    exact ⟨_, rfl⟩
  · cases other.symm.trans behind

/-- Fields of which there is none but the path of a file. -/
def OnlyPath (fields : List (String × Json)) : Prop :=
  fields = [] ∨ ∃ value, fields = [("config_path", value)]

theorem OnlyPath.overlayField {fields : List (String × Json)} (only : OnlyPath fields)
    (value : Json) : OnlyPath (overlayField "config_path" value fields) := by
  rcases only with rfl | ⟨under, rfl⟩
  · exact .inr ⟨value, by rw [Configuration.overlayField]⟩
  · exact .inr ⟨overlay under value, by rw [Configuration.overlayField, if_pos rfl]⟩

theorem OnlyPath.foldl {trees : List Json} {fields : List (String × Json)}
    (only : OnlyPath fields)
    (each : ∀ tree ∈ trees, ∃ value, tree = .object [("config_path", value)]) :
    ∃ after, trees.foldl overlay (.object fields) = .object after ∧ OnlyPath after := by
  induction trees generalizing fields with
  | nil => exact ⟨fields, rfl, only⟩
  | cons tree rest ih =>
    obtain ⟨⟨value, rfl⟩, others⟩ := List.forall_mem_cons.mp each
    rw [List.foldl_cons, overlay, overlayFields, overlayFields]
    exact ih (only.overlayField value) others

/-- What a quiet environment amounts to has no field but the path of the file. -/
theorem environmentTree_of_quiet {assignments : List (String × String)}
    (quiet : Quiet assignments) :
    ∃ fields, environmentTree assignments = .object fields ∧ OnlyPath fields :=
  OnlyPath.foldl (.inl rfl) (trees_of_quiet quiet)

end Configuration

end InstancedAreas
