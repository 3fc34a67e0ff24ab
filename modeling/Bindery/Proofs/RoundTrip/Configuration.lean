import Bindery.Configuration
import Bindery.Proofs.NodePath
import Bindery.Proofs.RoundTrip.Tree

/-! # Configurations read back — paths are read from the texts they are printed as

    A path is read from exactly its text if each of its segments is a valid name
    (`NodePath.parse_eq_ok`); a slash in a name would be read as two segments.
    On such paths every part of a configuration is encoded to a form of itself:
    operations with the name among their members, the maps and lists of each
    kind, and the renderers with their settings, which are canonical values.
    The result is that of the whole (`configuration_roundTrip`). -/

namespace Bindery

open Decode

/-! ## Paths -/

theorem isForm_path {path : NodePath} (h : ∀ segment ∈ path.segments, NodePath.ValidName segment) :
    IsForm nodePath path (.string path.text) :=
  ⟨trivial, fun other hother => by
    rw [Json.reorders_string.mp hother]
    exact mapError_eq_ok.mpr (NodePath.parse_eq_ok.mpr ⟨rfl, h⟩)⟩

/-! ## Operations -/

/-- The paths that an operation names. -/
def Operation.paths : Operation → List NodePath
  | .rename operation => operation.renames.keys
  | .setSeeds operation => [operation.account]
  | .assignDiscriminators operation =>
    operation.program :: match operation.source with
      | .enumVariants enumType _ => [enumType]
      | _ => []
  | .setDefaults operation => operation.rules.map (·.target)

/-- The segments of some paths are valid names. -/
def ValidPaths (paths : List NodePath) : Prop :=
  ∀ path ∈ paths, ∀ segment ∈ path.segments, NodePath.ValidName segment

instance (paths : List NodePath) : Decidable (ValidPaths paths) :=
  inferInstanceAs (Decidable (∀ path ∈ paths, ∀ segment ∈ path.segments, _))

/-- New names are written under the texts of the paths. -/
theorem Rename.isForm (operation : Rename) (h : ValidPaths operation.renames.keys) :
    Rename.fields.IsForm ["renames"] operation operation.members :=
  (Fields.isForm_required "renames" (isForm_mapOf
    (fun e he => mapError_eq_ok.mpr (NodePath.parse_eq_ok.mpr
      ⟨rfl, h e.1 (List.mem_map_of_mem he)⟩))
    fun e _ => isForm_str e.2)).map Rename.mk

theorem SetSeeds.isForm (operation : SetSeeds) (h : ValidPaths [operation.account]) :
    SetSeeds.fields.IsForm ["account", "seeds"] operation operation.members :=
  ((Fields.isForm_required "account" (isForm_path (h _ List.mem_cons_self))).map SetSeeds.mk).seq
    (Fields.isForm_required "seeds" (isForm_listOf_map (Seed.isForm .setAside) operation.seeds))
    (by decide)

theorem SiblingSet.isForm (stage : Decode.Stage) (set : SiblingSet) :
    IsForm (decode stage) set (.string set.name) :=
  ⟨trivial, fun other hother => by
    rw [Json.reorders_string.mp hother]
    cases set <;> rfl⟩

namespace DiscriminatorSource

/-- The kinds of sources of tags. -/
def kinds : List String := ["sequential", "explicit", "enumVariants", "sighash"]

/-- A source with a path is read back if its path is. -/
theorem isForm (stage : Decode.Stage) : (source : DiscriminatorSource) →
    (∀ enumType size, source = .enumVariants enumType size → ValidPaths [enumType]) →
    IsForm (decode stage) source source.encode
  | .sequential start size, _ =>
    isForm_tagged kinds (by decide)
      (((Fields.isForm_optional "start" (isForm_word64 start)).map
        DiscriminatorSource.sequential).seq
        (Fields.isForm_optional "size" (size.isForm .setAside)) (by decide)) (by decide)
      fun other body h => by rw [decode, ← kinds, h]; rfl
  | .explicit values size, _ =>
    isForm_tagged kinds (by decide)
      (((Fields.isForm_required "values" (isForm_named values isForm_word64)).map
        DiscriminatorSource.explicit).seq
        (Fields.isForm_optional "size" (size.isForm .setAside)) (by decide)) (by decide)
      fun other body h => by rw [decode, ← kinds, h]; rfl
  | .enumVariants enumType size, hpaths =>
    isForm_tagged kinds (by decide)
      (((Fields.isForm_required "enumType"
        (isForm_path (hpaths _ _ rfl _ List.mem_cons_self))).map
        DiscriminatorSource.enumVariants).seq
        (Fields.isForm_optional "size" (size.isForm .setAside)) (by decide)) (by decide)
      fun other body h => by rw [decode, ← kinds, h]; rfl
  | .sighash namespaceName, _ =>
    isForm_tagged kinds (by decide)
      ((Fields.isForm_required "namespace" (isForm_str namespaceName)).map
        DiscriminatorSource.sighash) (by decide)
      fun other body h => by rw [decode, ← kinds, h]; rfl

end DiscriminatorSource

namespace AssignDiscriminators

/-- The names that narrow an operation are left out when there are none. -/
theorem isForm_only (names : List String) :
    (Fields.optional "only" (listOf str) []).IsForm ["only"] names (match names with
      | [] => []
      | names => [("only", Json.strings names)]) := by
  cases names with
  | nil => exact Fields.isForm_absent "only"
  | cons first rest => exact Fields.isForm_optional "only" (isForm_strings _)

theorem isForm (operation : AssignDiscriminators)
    (h : ValidPaths (Operation.assignDiscriminators operation).paths) :
    fields.IsForm ["program", "siblings", "only", "source", "offset"] operation
      operation.members := by
  obtain ⟨hprogram, hsource⟩ := List.forall_mem_cons.mp h
  have hform := operation.source.isForm .setAside fun enumType size heq => by
    rw [heq] at hsource
    exact hsource
  rw [members, List.append_cons _ ("source", _)]
  exact ((((Fields.isForm_required "program" (isForm_path hprogram)).map
    AssignDiscriminators.mk).seq
    (Fields.isForm_required "siblings" (operation.siblings.isForm .setAside)) (by decide)).seq
    (isForm_only operation.only) (by decide)).seq
    (Fields.isForm_required "source" hform) (by decide) |>.seq
    (Fields.isForm_optional "offset" (isForm_word64 operation.offset)) (by decide)

end AssignDiscriminators

theorem DefaultRule.isForm (rule : DefaultRule) (h : ValidPaths [rule.target]) :
    IsForm decode rule rule.encode :=
  isForm_record (((Fields.isForm_required "target" (isForm_path (h _ List.mem_cons_self))).map
    DefaultRule.mk).seq (Fields.isForm_required "value" (rule.value.isForm .setAside))
    (by decide)) (by decide)

theorem SetDefaults.isForm (operation : SetDefaults)
    (h : ValidPaths (operation.rules.map (·.target))) :
    SetDefaults.fields.IsForm ["defaults"] operation operation.members := by
  refine (Fields.isForm_required "defaults" (isForm_listOf ?_)).map SetDefaults.mk
  refine List.forall₂_map_right_iff.mpr (List.forall₂_same.mpr fun rule hrule => ?_)
  exact rule.isForm (List.forall_mem_singleton.mpr (h _ (List.mem_map_of_mem hrule)))

/-- Every operation is of one of the kinds. -/
theorem Operation.kind_mem (operation : Operation) : operation.kind ∈ kinds := by
  cases operation <;> simp [kind, kinds]

theorem Operation.isForm (stage : Decode.Stage) : (operation : Operation) → ValidPaths operation.paths →
    IsForm (decode stage) operation (.object operation.members)
  | .rename operation, h =>
    isForm_tagged kinds (kind_mem _) ((operation.isForm h).map Operation.rename) (by decide)
      fun other body h => by rw [decode, h]; rfl
  | .setSeeds operation, h =>
    isForm_tagged kinds (kind_mem _) ((operation.isForm h).map Operation.setSeeds) (by decide)
      fun other body h => by rw [decode, h]; rfl
  | .assignDiscriminators operation, h =>
    isForm_tagged kinds (kind_mem _) ((operation.isForm h).map Operation.assignDiscriminators)
      (by decide) fun other body h => by rw [decode, h]; rfl
  | .setDefaults operation, h =>
    isForm_tagged kinds (kind_mem _) ((operation.isForm h).map Operation.setDefaults) (by decide)
      fun other body h => by rw [decode, h]; rfl

namespace NamedOperation

/-- No operation has a member for its name. -/
theorem name_notMem (operation : Operation) : "name" ∉ operation.members.map (·.1) := by
  cases operation with
  | rename => simp [Operation.members, Rename.members]
  | setSeeds => simp [Operation.members, SetSeeds.members]
  | assignDiscriminators operation =>
      obtain ⟨program, siblings, _ | ⟨first, rest⟩, source, offset⟩ := operation <;>
        simp [Operation.members, AssignDiscriminators.members]
  | setDefaults => simp [Operation.members, SetDefaults.members]

variable {others : List (String × Json)} {name : String}

/-- Once the name is known and no other member is one, the others are set aside. -/
theorem splitName_some (h : "name" ∉ others.map (·.1)) :
    splitName (some name) others = .ok (some name, others) := by
  induction others with
  | nil => rfl
  | cons head others ih =>
      obtain ⟨k, v⟩ := head
      rw [List.map_cons, List.mem_cons, not_or] at h
      rw [splitName, if_neg (Ne.symm h.1), ih h.2]
      rfl

/-- The name is read where it stands; the other members are set aside. -/
theorem splitName_none (hnodup : (others.map (·.1)).Nodup) (hmem : ("name", .string name) ∈ others) :
    splitName none others = .ok (some name, others.filter (·.1 ≠ "name")) := by
  induction others with
  | nil => exact nomatch hmem
  | cons head others ih =>
      obtain ⟨k, v⟩ := head
      rw [List.map_cons, List.nodup_cons] at hnodup
      rcases List.mem_cons.mp hmem with heq | hmem
      · obtain ⟨rfl, rfl⟩ := Prod.mk.inj heq
        have hrest : others.filter (·.1 ≠ "name") = others :=
          List.filter_eq_self.mpr fun m hm =>
            decide_eq_true fun heq => hnodup.1 (heq ▸ List.mem_map_of_mem (f := (·.1)) hm)
        rw [splitName, if_pos rfl, List.filter_cons_of_neg (by simp), hrest]
        exact splitName_some hnodup.1
      · have hkey : "name" ∈ others.map (·.1) := List.mem_map_of_mem hmem
        have hne : k ≠ "name" := fun heq => hnodup.1 (heq ▸ hkey)
        rw [splitName, if_neg hne, ih hnodup.2 hmem, List.filter_cons_of_pos (by simpa using hne)]
        rfl

/-- The name stands among the members of the operation; without it they are a form of that. -/
theorem isForm (named : NamedOperation) (h : ValidPaths named.operation.paths) :
    IsForm decode named named.encode := by
  have hoperation := named.operation.isForm .setAside h
  have hname := name_notMem named.operation
  have hnodup : (("name" :: named.operation.members.map (·.1))).Nodup :=
    List.nodup_cons.mpr ⟨hname, hoperation.distinct.1⟩
  refine ⟨⟨hnodup, trivial, hoperation.distinct.2⟩, fun other hother => ?_⟩
  obtain ⟨others, rfl, hothers⟩ := Json.reorders_object.mp hother
  obtain ⟨text, hmem, htext⟩ := hothers.exists_mem List.mem_cons_self
  rw [Json.reorders_string.mp htext] at hmem
  have hrest := hoperation.decoded _ (Json.reorders_object.mpr ⟨_, rfl, hothers.filter_ne hname⟩)
  have hsplit := splitName_none (hothers.keys_perm.nodup_iff.mp hnodup) hmem
  show (splitName none others >>= _) = _
  rw [hsplit]
  show (Operation.decode .setAside _ >>= _) = _
  rw [hrest]
  rfl

end NamedOperation

/-! ## Configurations -/

/-- A setting is a canonical value, which every order of its members has. -/
theorem Json.Canonical.isForm (setting : Json.Canonical) :
    IsForm Json.Canonical.decode setting setting.value := by
  obtain ⟨value, hfixed⟩ := setting
  have hdistinct : value.Distinct := hfixed ▸ Json.distinct_canonical value
  refine ⟨hdistinct, fun other hother => congrArg Except.ok ?_⟩
  have hvalue : other.canonical = value := (hother.canonical_eq hdistinct).trans hfixed
  rw [Json.Canonical.of]
  congr

/-- Settings are left out when there are none. -/
theorem Outlet.isForm_settings (settings : SortedMap String Json.Canonical) :
    (Fields.optional "options" (mapOf Except.ok Json.Canonical.decode) SortedMap.empty).IsForm
      ["options"] settings (match settings.entries with
        | [] => []
        | entries => [("options", .object (entries.map fun (name, setting) =>
            (name, setting.value)))]) := by
  obtain ⟨_ | ⟨first, rest⟩, hascending⟩ := settings
  · exact Fields.isForm_absent "options"
  · exact Fields.isForm_optional "options" (isForm_named _ Json.Canonical.isForm)

theorem Outlet.isForm (outlet : Outlet) : IsForm decode outlet outlet.encode :=
  isForm_record (((((Fields.isForm_required "target" (isForm_str outlet.target)).map
    fun target output formatCode settings => Outlet.mk target output ⟨formatCode, settings⟩).seq
    (Fields.isForm_required "output" (isForm_str outlet.output)) (by decide)).seq
    (Fields.isForm_optional "formatCode" (isForm_bool outlet.options.formatCode)) (by decide)).seq
    (isForm_settings outlet.options.settings) (by decide)) (by decide)

namespace Configuration

/-- The paths that the operations of a configuration name. -/
def paths (configuration : Configuration) : List NodePath :=
  configuration.operations.flatMap (·.operation.paths)

theorem isForm (configuration : Configuration) (h : ValidPaths configuration.paths) :
    IsForm decode configuration configuration.encode := by
  have hoperations : List.Forall₂ (IsForm NamedOperation.decode) configuration.operations
      (configuration.operations.map NamedOperation.encode) := by
    refine List.forall₂_map_right_iff.mpr (List.forall₂_same.mpr fun named hnamed => ?_)
    exact named.isForm fun path hpath => h path (List.mem_flatMap.mpr ⟨named, hnamed, hpath⟩)
  have houtlets := isForm_listOf_map Outlet.isForm configuration.outlets
  exact isForm_record ((((Fields.isForm_required "idls"
    (isForm_strings configuration.descriptions)).map Configuration.mk).seq
    (Fields.isForm_optional "operations" (isForm_listOf hoperations)) (by decide)).seq
    (Fields.isForm_optional "renderers" houtlets) (by decide)) (by decide)

end Configuration

/-- **CONFIGURATIONS**: a configuration whose paths have valid names for segments is read back from
    its JSON form, with the members as they are written and sorted by key. -/
theorem configuration_roundTrip (configuration : Configuration)
    (h : ∀ path ∈ configuration.paths, ∀ segment ∈ path.segments, NodePath.ValidName segment) :
    Configuration.decode configuration.encode = .ok configuration
      ∧ Configuration.decode configuration.encode.canonical = .ok configuration :=
  ⟨(configuration.isForm h).decode_eq, (configuration.isForm h).decode_canonical⟩

/-- A configuration with an operation of every kind and tags of every source. -/
def surveyConfiguration : Configuration where
  descriptions := ["bank.json"]
  operations :=
    [⟨"names", .rename ⟨.ofList [(.sharedType "a.b", "c"), (.instruction "bank" "pay", "")]⟩⟩,
      ⟨"", .setSeeds ⟨.account "bank" "vault", [.constant .programId,
        .variable ⟨"owner", .publicKey, []⟩]⟩⟩,
      ⟨"kind", .assignDiscriminators ⟨.program "bank", .accounts, [],
        .sequential 18446744073709551615 .u16, 8⟩⟩,
      ⟨"tags", .assignDiscriminators ⟨.program "bank", .instructions, ["pay"],
        .explicit (.ofList [("pay", 7)]) .u8, 0⟩⟩,
      ⟨"tags", .assignDiscriminators ⟨.program "bank", .accounts, [],
        .enumVariants (.definedType "bank" "Kind") .u32, 0⟩⟩,
      ⟨"tags", .assignDiscriminators ⟨.program "bank", .instructions, [], .sighash "global", 0⟩⟩,
      ⟨"defaults", .setDefaults ⟨[⟨.instructionArgument "bank" "pay" "amount",
        .literal (.number (-9223372036854775808))⟩]⟩⟩]
  outlets := [⟨"rust", "out", ⟨false, .ofList [("crateName", .of (.string "bank"))]⟩⟩,
    ⟨"js", "", ⟨true, .empty⟩⟩]

theorem configuration_roundTrip_survey :
    (∀ path ∈ surveyConfiguration.paths, ∀ segment ∈ path.segments, NodePath.ValidName segment)
      ∧ Configuration.decode surveyConfiguration.encode = .ok surveyConfiguration
      ∧ Configuration.decode surveyConfiguration.encode.canonical = .ok surveyConfiguration :=
  have hpaths : ∀ path ∈ surveyConfiguration.paths, ∀ segment ∈ path.segments,
      NodePath.ValidName segment := by decide
  ⟨hpaths, configuration_roundTrip surveyConfiguration hpaths⟩

end Bindery
