import Mathlib
import InstancedAreas.Configuration.Layers
import InstancedAreas.Proofs.Configuration.Shape
import InstancedAreas.Proofs.Environment
import InstancedAreas.Proofs.Toml.Distinct

/-! The defaults as the lowest layer of a configuration. They stand twice, in the tree under
all other layers and in the readers, which put them where a field is missing. Neither is seen
where the other is at work: what the layers amount to is what one document with the contents
of both files says, however much of a table the files set, and whatever is in a field that the
second file overrides. -/
namespace InstancedAreas.Configuration

/-- What two trees amount to, the second over the first, where each may be missing. Tables are
merged name by name, in whatever order, and all else is replaced as a whole. A date or a time
counts as a table without fields, as it does for the readers. -/
inductive Overlaid : Option Json → Option Json → Option Json → Prop where
  | lower (tree : Option Json) : Overlaid tree none tree
  | upper (tree : Option Json) : Overlaid none tree tree
  | replaced {below above : Json} (other : below.fields? = none ∨ above.fields? = none) :
      Overlaid (some below) (some above) (some above)
  | merged {below above whole : List (String × Json)}
      (each : ∀ name, Overlaid (below.lookup name) (above.lookup name) (whole.lookup name)) :
      Overlaid (some (.object below)) (some (.object above)) (some (.object whole))

/-! ### Fields over one another -/

theorem overlay_of_other {below above : Json}
    (other : below.fields? = none ∨ above.fields? = none) : overlay below above = above := by
  unfold overlay
  split
  · exact absurd other (by simp [Json.fields?])
  · rfl

theorem lookup_cons_eq (name first : String) (value : Json) (rest : List (String × Json)) :
    ((first, value) :: rest).lookup name =
      if name = first then some value else rest.lookup name := by
  by_cases same : name = first
  · rw [if_pos same, same, List.lookup_cons_self]
  · rw [if_neg same, List.lookup_cons, beq_false_of_ne same]

theorem lookup_overlayField (name other : String) (value : Json) (below : List (String × Json)) :
    (overlayField name value below).lookup other =
      if other = name then some ((below.lookup name).elim value (overlay · value))
      else below.lookup other := by
  induction below with
  | nil => rw [overlayField, lookup_cons_eq, List.lookup_nil, List.lookup_nil, Option.elim_none]
  | cons field rest ih =>
    obtain ⟨first, lower⟩ := field
    rw [overlayField, lookup_cons_eq, lookup_cons_eq]
    by_cases own : first = name
    · rw [if_pos own, if_pos own.symm, lookup_cons_eq, own, Option.elim_some]
      split <;> rfl
    · rw [if_neg own, if_neg (Ne.symm own), lookup_cons_eq, ih]
      by_cases here : other = name
      · rw [if_pos here, if_pos here, if_neg (here ▸ Ne.symm own)]
      · rw [if_neg here, if_neg here]

/-- The value under a name, when fields are laid over others. -/
theorem lookup_overlayFields {above : List (String × Json)} (once : (above.map Prod.fst).Nodup)
    (below : List (String × Json)) (name : String) :
    (overlayFields below above).lookup name =
      Option.merge overlay (below.lookup name) (above.lookup name) := by
  induction above generalizing below with
  | nil => rw [overlayFields, List.lookup_nil, Option.merge_none_right]
  | cons field rest ih =>
    obtain ⟨first, upper⟩ := field
    obtain ⟨new, once⟩ := List.nodup_cons.mp once
    rw [overlayFields, ih once, lookup_overlayField, lookup_cons_eq]
    by_cases here : name = first
    · have behind : rest.lookup first = none := by
        refine List.lookup_eq_none_iff.mpr fun field member => bne_iff_ne.mpr fun same => ?_
        exact new (List.mem_map.mpr ⟨field, member, same.symm⟩)
      rw [if_pos here, if_pos here, here, behind, Option.merge_none_right]
      cases below.lookup first <;> rfl
    · rw [if_neg here, if_neg here]

/-- A tree with another laid over it is what the two amount to. -/
theorem overlaid_overlay {above : Json} (distinct : Toml.Distinct above) (below : Json) :
    Overlaid (some below) (some above) (some (overlay below above)) := by
  induction distinct generalizing below with
  | @table fields once each ih =>
    cases below with
    | object lower =>
      rw [overlay]
      refine .merged fun name => ?_
      rw [lookup_overlayFields once]
      cases held : lower.lookup name with
      | none =>
        rw [Option.merge_none_left]
        exact .upper _
      | some value =>
        cases set : fields.lookup name with
        | none =>
          rw [Option.merge_none_right]
          exact .lower _
        | some upper =>
          obtain ⟨front, back, rfl, -⟩ := List.lookup_eq_some_iff.mp set
          exact ih (name, upper) List.mem_append_cons_self value
    | _ =>
      rw [overlay_of_other (.inl rfl)]
      exact .replaced (.inl rfl)
  | _ =>
    rw [overlay_of_other (.inr rfl)]
    exact .replaced (.inr rfl)

/-! ### Readers that do not notice the defaults -/

/-- A reader does not notice a tree under the layers if it reads the default from that tree
alone, and with two layers on it what it reads from the two without it. -/
def Unnoticed {α : Type} (bottom : Json) (value? : Json → Option α) (default : α) : Prop :=
  ∀ ⦃below above whole⦄, Overlaid below above whole →
    (∀ tree ∈ below, Toml.Distinct tree) → (∀ tree ∈ above, Toml.Distinct tree) →
    (Option.merge overlay (Option.merge overlay (some bottom) below) above).bind value? =
      whole.elim (some default) value?

section Unnoticed

variable {α : Type} {bottom : Json} {value? : Json → Option α} {default : α}

/-- It is enough to look at one layer on the tree, and at two that are both tables. -/
theorem unnoticed_of_single (reads : value? bottom = some default)
    (single : ∀ ⦃tree⦄, Toml.Distinct tree → value? (overlay bottom tree) = value? tree)
    (merged : ∀ ⦃below above whole : List (String × Json)⦄, Toml.Distinct (.object below) →
      Toml.Distinct (.object above) →
      (∀ name, Overlaid (below.lookup name) (above.lookup name) (whole.lookup name)) →
      value? (overlay (overlay bottom (.object below)) (.object above)) =
        value? (.object whole)) : Unnoticed bottom value? default := by
  intro below above whole overlaid lower upper
  cases overlaid with
  | lower tree =>
    rw [Option.merge_none_right]
    cases below with
    | none => exact reads
    | some tree => exact single (lower tree rfl)
  | upper tree =>
    rw [Option.merge_none_right]
    cases above with
    | none => exact reads
    | some tree => exact single (upper tree rfl)
  | @replaced below above other =>
    rw [Option.merge_some_some, Option.merge_some_some]
    rcases other with known | known
    · rw [overlay_of_other (.inr known), overlay_of_other (.inl known)]
      rfl
    · rw [overlay_of_other (.inr known)]
      rfl
  | @merged below above whole each => exact merged (lower _ rfl) (upper _ rfl) each

/-- What is no table is not noticed by readers that read no tables. -/
theorem unnoticed_value (alone : bottom.fields? = none) (reads : value? bottom = some default)
    (plain : ∀ fields, value? (.object fields) = none) : Unnoticed bottom value? default := by
  refine unnoticed_of_single reads (fun tree _ => ?_) fun below above whole _ _ _ => ?_
  · rw [overlay_of_other (.inl alone)]
  · rw [overlay_of_other (.inl alone), overlay, plain, plain]

/-- A table is not noticed by a reader that does not notice it under tables. -/
theorem unnoticed_table {under : List (String × Json)}
    (reads : value? (.object under) = some default)
    (merged : ∀ ⦃below above whole : List (String × Json)⦄, Toml.Distinct (.object below) →
      Toml.Distinct (.object above) →
      (∀ name, Overlaid (below.lookup name) (above.lookup name) (whole.lookup name)) →
      value? (.object (overlayFields (overlayFields under below) above)) =
        value? (.object whole)) :
    Unnoticed (.object under) value? default := by
  refine unnoticed_of_single reads (fun tree distinct => ?_)
    fun below above whole lower upper each => ?_
  · cases tree with
    | object fields =>
      have alone := merged distinct Toml.distinct_empty fun name => .lower (fields.lookup name)
      rw [overlayFields] at alone
      rw [overlay, alone]
    | _ => rw [overlay_of_other (.inr rfl)]
  · rw [overlay, overlay]
    exact merged lower upper each

theorem optional?_eq (fields : List (String × Json)) (name : String) :
    Json.optional? fields name value? default =
      (fields.lookup name).elim (some default) value? := by
  unfold Json.optional?
  split <;> simp [*]

/-- The value of a field of which the lowest layer is not noticed. -/
theorem Unnoticed.optional? (unnoticed : Unnoticed bottom value? default)
    {under below above whole : List (String × Json)} {name : String}
    (held : under.lookup name = some bottom) (lower : Toml.Distinct (.object below))
    (upper : Toml.Distinct (.object above))
    (overlaid : Overlaid (below.lookup name) (above.lookup name) (whole.lookup name)) :
    Json.optional? (overlayFields (overlayFields under below) above) name value? default =
      Json.optional? whole name value? default := by
  rw [optional?_eq, optional?_eq, lookup_overlayFields upper.once, lookup_overlayFields lower.once,
    held, ← unnoticed overlaid (fun _ found => lower.of_lookup found)
      fun _ found => upper.of_lookup found]
  cases below.lookup name <;> cases above.lookup name <;> rfl

end Unnoticed

/-- The default settings for expiry are not noticed under a table that sets some of them. -/
theorem unnoticed_expiry :
    Unnoticed ExpirySettings.default.toJson ExpirySettings.ofJson? .default := by
  have span (d : Duration) : Unnoticed d.toJson Duration.ofJson? d :=
    unnoticed_value rfl (Duration.faithful.restored d) fun _ => rfl
  have number (n : UInt64) : Unnoticed (.nat n.toNat) Json.uint64? n :=
    unnoticed_value rfl (Json.faithful_uint64.restored n) fun _ => rfl
  refine unnoticed_table (ExpirySettings.faithful.restored .default)
    fun below above whole lower upper each => ?_
  simp only [ExpirySettings.ofJson?, Json.fields?, Option.bind_eq_bind, Option.bind_some]
  rw [(span _).optional? rfl lower upper (each "tick"),
    (number _).optional? rfl lower upper (each "event_buffer"),
    (span _).optional? rfl lower upper (each "notify_timeout")]

/-- The default configuration is not noticed under the layers. -/
theorem unnoticed_default : Unnoticed default.toJson ofJson? default := by
  have noItems {α : Type} (item? : Json → Option α) :
      Unnoticed (.list []) (Json.listOf? item?) [] := unnoticed_value rfl rfl fun _ => rfl
  refine unnoticed_table (Configuration.faithful.restored default)
    fun below above whole lower upper each => ?_
  simp only [ofJson?, Json.fields?, Option.bind_eq_bind, Option.bind_some]
  rw [unnoticed_expiry.optional? rfl lower upper (each "expiry"),
    (noItems _).optional? rfl lower upper (each "templates"),
    (noItems _).optional? rfl lower upper (each "gates")]

/-! ### All layers -/

/-- No field that a configuration has changes under a quiet environment. -/
theorem ofJson?_overlay_environment {assignments : List (String × String)}
    (quiet : Quiet assignments) (fields : List (String × Json)) :
    ofJson? (overlay (.object fields) (environmentTree assignments)) =
      ofJson? (.object fields) := by
  obtain ⟨set, same, rfl | ⟨value, rfl⟩⟩ := environmentTree_of_quiet quiet
  · rw [same, overlay, overlayFields]
  · rw [same, overlay, overlayFields, overlayFields]
    have kept (name : String) (other : name ≠ "config_path") :
        (overlayField "config_path" value fields).lookup name = fields.lookup name := by
      rw [lookup_overlayField, if_neg other]
    have expiry := kept "expiry" (by decide)
    have templates := kept "templates" (by decide)
    have gates := kept "gates" (by decide)
    simp only [ofJson?, Json.fields?, Option.bind_eq_bind, Option.bind_some, optional?_eq, expiry,
      templates, gates]

/-- A tree of a path is a table, in which each table names every field once. -/
theorem PathTarget.distinct_tree {target : PathTarget} {tree : Json}
    (found : target.tree = .ok tree) : Toml.Distinct tree ∧ ∃ fields, tree = .object fields := by
  cases target with
  | file text =>
    cases read : Toml.parse? text with
    | none =>
      simp only [PathTarget.tree, read, Option.elim_none, reduceCtorEq] at found
    | some parsed =>
      simp only [PathTarget.tree, read, Option.elim_some, Except.ok.injEq] at found
      exact found ▸ Toml.distinct_parse? read
  | unreadable => cases found
  | nothing | other =>
    cases found
    exact ⟨Toml.distinct_empty, [], rfl⟩

/-- What layers with a quiet environment yield is what the two files amount to without the
defaults. -/
theorem ofLayers_of_overlaid {layers : Layers} (quiet : Quiet layers.assignments)
    {below above whole : Json} (working : layers.workingFile.tree = .ok below)
    (named : layers.namedFile.tree = .ok above)
    (overlaid : Overlaid (some below) (some above) (some whole)) :
    ofLayers layers = ofTree whole := by
  obtain ⟨lower, fields, rfl⟩ := PathTarget.distinct_tree working
  obtain ⟨upper, others, rfl⟩ := PathTarget.distinct_tree named
  have layered : ofLayers layers = ofTree (overlay (overlay (overlay default.toJson
      (.object fields)) (.object others)) (environmentTree layers.assignments)) := by
    rw [ofLayers, working, named]
    rfl
  have read : ofJson? (overlay (overlay default.toJson (.object fields)) (.object others)) =
      ofJson? whole :=
    unnoticed_default overlaid (fun _ found => Option.some.inj found ▸ lower)
      fun _ found => Option.some.inj found ▸ upper
  rw [toJson, overlay, overlay] at layered read
  rw [layered, ofTree, ofTree, ofJson?_overlay_environment quiet, read]

/-- The defaults as the lowest layer change nothing. With a quiet environment, two files yield
the configuration that one document yields with what the two amount to, or are turned away as
it is. In particular the file in the working directory alone yields what its path yields. -/
theorem defaults_are_not_noticed (layers : Layers) (quiet : Quiet layers.assignments) :
    (∀ below above, layers.workingFile.tree = .ok below → layers.namedFile.tree = .ok above →
      (∃ whole, Overlaid (some below) (some above) (some whole)) ∧
      ∀ whole, Overlaid (some below) (some above) (some whole) →
        ofLayers layers = ofTree whole ∧
        ∀ text, Toml.parse? text = some whole → ofLayers layers = ofToml text) ∧
    ∀ path, layers.workingFile ≠ .nothing → layers.namedFile = .nothing →
      ofLayers layers = ofPath path layers.workingFile := by
  refine ⟨fun below above working named => ⟨?_, fun whole overlaid => ?_⟩,
    fun path present absent => ?_⟩
  · exact ⟨_, overlaid_overlay (PathTarget.distinct_tree named).1 below⟩
  · have layered := ofLayers_of_overlaid quiet working named overlaid
    refine ⟨layered, fun text read => ?_⟩
    rw [layered, ofToml, read]
  · rw [ofPath, if_neg present]
    have named : layers.namedFile.tree = .ok (.object []) := by
      rw [absent]
      rfl
    cases working : layers.workingFile.tree with
    | error rejection =>
      rw [ofLayers, working]
      rfl
    | ok tree =>
      obtain ⟨-, fields, rfl⟩ := PathTarget.distinct_tree working
      exact ofLayers_of_overlaid quiet working named (.merged fun name => .lower _)

/-- The first file sets one field of a table and gives another a wrong shape, which the second
file overrides. The third field has its default. -/
theorem wrong_shape_is_overridden :
    let below := "[expiry]\ntick=true\nnotify_timeout=\"9s\""
    let above := "expiry.tick=\"8s\""
    let whole := "[expiry]\ntick=\"8s\"\nnotify_timeout=\"9s\""
    let layers : Layers :=
      ⟨.file below, .file above, [("HOME", "/root"), ("WARDEN_CONFIG_PATH", "above.toml")]⟩
    Quiet layers.assignments ∧ ofLayers layers = ofToml whole ∧
      ofToml whole = .ok ⟨⟨.ofSeconds 8, 256, .ofSeconds 9⟩, [], []⟩ := by
  intro below above whole layers
  have quiet : Quiet layers.assignments := by
    refine List.forall_mem_cons.mpr ⟨.inr (by decide), ?_⟩
    exact List.forall_mem_singleton.mpr (.inl rfl)
  have first : Toml.parse? below = some (.object [("expiry", .object [("tick", .bool true),
      ("notify_timeout", .text "9s")])]) := by cbv
  have second : Toml.parse? above =
      some (.object [("expiry", .object [("tick", .text "8s")])]) := by cbv
  have third : Toml.parse? whole = some (.object [("expiry", .object [("tick", .text "8s"),
      ("notify_timeout", .text "9s")])]) := by cbv
  have working : layers.workingFile.tree = .ok _ := congrArg (Option.elim · _ _) first
  have named : layers.namedFile.tree = .ok _ := congrArg (Option.elim · _ _) second
  have overlaid := overlaid_overlay (Toml.distinct_parse? second).1 (.object [("expiry",
    .object [("tick", .bool true), ("notify_timeout", .text "9s")])])
  simp only [overlay, overlayFields, overlayField, if_true] at overlaid
  have read : ofJson? (.object [("expiry", .object [("tick", .text "8s"),
      ("notify_timeout", .text "9s")])]) =
      some ⟨⟨.ofSeconds 8, 256, .ofSeconds 9⟩, [], []⟩ := by decide
  have yields : ofToml whole = .ok ⟨⟨.ofSeconds 8, 256, .ofSeconds 9⟩, [], []⟩ := by
    simp only [ofToml, third, ofTree, read]
    rfl
  have layered := ((defaults_are_not_noticed layers quiet).1 _ _ working named).2 _ overlaid
  exact ⟨quiet, layered.2 whole third, yields⟩

end InstancedAreas.Configuration
