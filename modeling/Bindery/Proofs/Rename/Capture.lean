import Bindery.Proofs.Rename.Clash
import Bindery.Proofs.Rename.Simultaneous

/-! # Capture — links to shared types and new names

    A link of a program stands for a type of the program or, where the program has
    none of that name, for a shared type.  A rename keeps this apart for the names
    as they were: a shared type that gets a new name takes only the links along
    that stood for it.  The new names are compared in the scope of each type only,
    so a type of a program can come to have the name of a shared type to which the
    program links, and then the links to the shared type stand for it instead.

    Links to types of the program and links between shared types follow their
    types always; a link to a shared type does exactly when no type of the program
    ends up with the name that the shared type has then
    (`Rename.sharedLinks_exact`).  Otherwise it is captured
    (`Rename.sharedLinks_captured`). -/

namespace Bindery

/-! ## The slots of links in shared types -/

/-- The slots of the types that the links of each shared type stand for, in order. -/
def Tree.sharedLinkSlots (tree : Tree) : List (List (Option Slot)) :=
  tree.sharedTypes.map fun defined =>
    defined.type.links.map fun name => (Index.of tree).slot? (.sharedType name)

/-- Every link of a program stands for one of its types or, where it has none of that name,
    for a shared type, and every link of a shared type for a shared type. -/
structure Tree.Linked (tree : Tree) : Prop where
  programs : ∀ program ∈ tree.programs, ∀ name ∈ program.links,
    (tree.linkSlot? program name).isSome = true
  sharedTypes : ∀ defined ∈ tree.sharedTypes, ∀ name ∈ defined.type.links,
    ((Index.of tree).slot? (.sharedType name)).isSome = true

instance (tree : Tree) : Decidable tree.Linked :=
  decidable_of_iff (_ ∧ _) ⟨fun h => ⟨h.1, h.2⟩, fun h => ⟨h.programs, h.sharedTypes⟩⟩

/-! ## Links that are substituted -/

section Substitution

variable {tree : Tree} {names : NodePath → String} {p : Nat} {program : Program}
  {name : String}

/-- A path that selects a slot selects it under its new names. -/
theorem Index.slot?_substitute (hd : tree.Distinct) (hd' : (tree.substitute names).Distinct)
    {path : NodePath} (h : ((Index.of tree).slot? path).isSome = true) :
    (Index.of (tree.substitute names)).slot? (path.substitute names)
      = (Index.of tree).slot? path := by
  obtain ⟨slot, hslot⟩ := Option.isSome_iff_exists.mp h
  obtain ⟨node, hheld⟩ := (Index.slot?_eq_some_iff hd).mp hslot
  rw [hslot]
  exact (Index.slot?_eq_some_iff hd').mpr (hheld.substitute names)

/-- The types that a substituted program defines have the new names of its types. -/
theorem Program.defines_substitute_iff {newName : String} :
    (program.substitute names).defines newName = true ↔
      ∃ own ∈ program.definedTypes, names (.definedType program.name own.name) = newName := by
  refine isSome_find?_iff.trans ?_
  simp only [Program.substitute, List.map_map, List.mem_map, Function.comp_apply]

/-- **A LINK TO A SHARED TYPE**: substituted, it stands for the type that it stood for exactly
    when no type of the program has the new name of that one. -/
theorem linkSlot?_sharedType_iff (hd : tree.Distinct) (hd' : (tree.substitute names).Distinct)
    (hdefines : program.defines name = false)
    (h : (tree.linkSlot? program name).isSome = true) :
    (tree.substitute names).linkSlot? (program.substitute names) (names (program.linkPath name))
        = tree.linkSlot? program name
      ↔ ∀ own ∈ program.definedTypes,
          names (.definedType program.name own.name) ≠ names (.sharedType name) := by
  have hpath : program.linkPath name = .sharedType name :=
    if_neg (ne_true_of_eq_false hdefines)
  obtain ⟨slot, hslot⟩ := Option.isSome_iff_exists.mp h
  have hbefore : (Index.of tree).slot? (.sharedType name) = some slot := hpath ▸ hslot
  have hafter : (Index.of (tree.substitute names)).slot? (.sharedType (names (.sharedType name)))
      = some slot :=
    (Index.slot?_substitute hd hd' (Option.isSome_of_mem hbefore)).trans hbefore
  rw [hpath, hslot]
  unfold Tree.linkSlot? Program.linkPath
  constructor
  · intro hsame own hown hname
    rw [if_pos (Program.defines_substitute_iff.mpr ⟨own, hown, hname⟩)] at hsame
    -- one slot would be held under a path of the program and under a shared one
    obtain ⟨_, hheld⟩ := (Index.slot?_eq_some_iff hd').mp hsame
    obtain ⟨_, hheld'⟩ := (Index.slot?_eq_some_iff hd').mp hafter
    exact nomatch hheld.path_unique hheld'
  · intro hfree
    have huncaptured : ¬ (program.substitute names).defines (names (.sharedType name)) = true := by
      intro hcaptured
      obtain ⟨own, hown, hname⟩ := Program.defines_substitute_iff.mp hcaptured
      exact hfree own hown hname
    rw [if_neg huncaptured]
    exact hafter

/-- The links of shared types stand for the types that they stood for. -/
theorem sharedLinkSlots_substitute (hd : tree.Distinct) (hd' : (tree.substitute names).Distinct)
    (h : tree.Linked) : (tree.substitute names).sharedLinkSlots = tree.sharedLinkSlots := by
  show (tree.sharedTypes.map _).map _ = tree.sharedTypes.map _
  rw [List.map_map]
  refine List.map_congr_left fun defined hdefined => ?_
  show ((defined.type.mapLinks fun name => names (.sharedType name)).links.map _) = _
  rw [TypeNode.links_mapLinks, List.map_map]
  refine List.map_congr_left fun name hname => ?_
  exact Index.slot?_substitute hd hd' (h.sharedTypes defined hdefined name hname)

end Substitution

/-! ## Renames of trees with shared types -/

/-- **LINKS TO SHARED TYPES FOLLOW UNLESS CAPTURED**: under a rename that succeeds on a tree
    with distinct names per scope whose links all stand for types, the links of shared types
    stand for the types that they stood for; the links of programs do exactly when no type
    of a program ends up with the name that a shared type to which the program links has
    then. -/
theorem Rename.sharedLinks_exact {tree next : Tree} {operation : Rename} (hd : tree.Distinct)
    (hlinked : tree.Linked) (h : operation.apply (Index.of tree) = .ok next) :
    next.sharedLinkSlots = tree.sharedLinkSlots
      ∧ (next.linkSlots Program.links = tree.linkSlots Program.links
          ↔ ∀ program ∈ tree.programs, ∀ name ∈ program.links, program.defines name = false →
              ∀ own ∈ program.definedTypes,
                operation.nameOf (.definedType program.name own.name)
                  ≠ operation.nameOf (.sharedType name)) := by
  obtain ⟨hadm, rfl⟩ := Rename.apply_eq_ok hd h
  have hd' := hd.substitute hadm
  refine ⟨sharedLinkSlots_substitute hd hd' hlinked, ?_⟩
  show (tree.programs.map (·.substitute operation.nameOf)).map _ = tree.programs.map _ ↔ _
  rw [List.map_map, List.map_inj_left]
  refine forall₂_congr fun program hprogram => ?_
  obtain ⟨p, hp⟩ := List.mem_iff_getElem?.mp hprogram
  show (program.substitute operation.nameOf).links.map _ = program.links.map _ ↔ _
  rw [Program.links_substitute, List.map_map, List.map_inj_left]
  refine forall₂_congr fun name hname => ?_
  cases hdefines : program.defines name with
  | true =>
      have hsame := linkSlot?_substitute hd hd' hp hdefines
      exact ⟨fun _ hshared => (nomatch hshared), fun _ => hsame⟩
  | false =>
      rw [forall_prop_of_true rfl]
      exact linkSlot?_sharedType_iff hd hd' hdefines (hlinked.programs program hprogram name hname)

/-- A bank that links to a type of its own and to a shared one, and a mint whose type of
    the same name shadows the shared one. -/
def sharedBank : Tree where
  programs := [
    { name := "bank", publicKey := "B", version := "", docs := []
      accounts := [⟨"Vault", [], [⟨"config", .link "Config", []⟩, ⟨"limit", .link "Limit", []⟩],
        none, none⟩]
      instructions := [⟨"open", [], [], [⟨"config", .link "Config", [], none⟩], none⟩]
      definedTypes := [⟨"Limit", .number .u64, []⟩]
      errors := [] },
    { name := "mint", publicKey := "M", version := "", docs := []
      accounts := [⟨"Coin", [], [⟨"config", .link "Config", []⟩], none, none⟩]
      instructions := []
      definedTypes := [⟨"Config", .boolean, []⟩]
      errors := [] }]
  sharedTypes := [⟨"Config", .struct [⟨"mode", .link "Mode", []⟩], []⟩, ⟨"Mode", .number .u8, []⟩]

/-- The slots that the links of the programs stand for. -/
def sharedBankSlots : List (List (Option Slot)) :=
  [[some (.sharedType 0), some (.definedType 0 0), some (.sharedType 0)],
    [some (.definedType 1 0)]]

/-- The names of that tree are distinct per scope. -/
theorem sharedBank_distinct : sharedBank.Distinct where
  programs := by decide
  sharedTypes := by decide
  members := by
    refine List.forall_mem_cons.mpr ⟨⟨by decide, by decide, by decide, ?_⟩,
      List.forall_mem_singleton.mpr ⟨by decide, by decide, by decide, ?_⟩⟩
    · exact List.forall_mem_singleton.mpr ⟨by decide, by decide⟩
    · exact fun _ hmem => (nomatch hmem)

/-- The shared types exchange their names, and a type of the bank gets the name that the
    shared type to which the bank links gives up. -/
def sharedExchanged : Rename := ⟨SortedMap.ofList [
  (.sharedType "Config", "Mode"), (.sharedType "Mode", "Config"),
  (.definedType "bank" "Limit", "Config"), (.definedType "mint" "Config", "Setting")]⟩

/-- A type of the bank gets the name of the shared type to which the bank links. -/
def limitCaptures : Rename := ⟨SortedMap.ofList [(.definedType "bank" "Limit", "Config")]⟩

theorem Rename.sharedLinks_exact_bank : ∃ next : Tree,
    sharedExchanged.apply (Index.of sharedBank) = .ok next
      ∧ next.sharedLinkSlots = sharedBank.sharedLinkSlots
      ∧ sharedBank.linkSlots Program.links = sharedBankSlots
      ∧ next.linkSlots Program.links = sharedBank.linkSlots Program.links := by
  obtain ⟨next, hnext, -⟩ : ∃ next, sharedExchanged.apply (Index.of sharedBank) = .ok next
      ∧ true = true := exists_ok_of_any (by decide +kernel)
  have hlinked : sharedBank.Linked := by decide +kernel
  obtain ⟨hshared, hprograms⟩ := Rename.sharedLinks_exact sharedBank_distinct hlinked hnext
  exact ⟨next, hnext, hshared, by decide +kernel, hprograms.mpr (by decide +kernel)⟩

/-- **A LINK THAT IS CAPTURED**: a rename that succeeds gives a type of a program the name of
    a shared type, and the links to the shared type stand for the type of the program
    instead. -/
theorem Rename.sharedLinks_captured : ∃ next : Tree,
    sharedBank.Distinct ∧ sharedBank.Linked
      ∧ limitCaptures.apply (Index.of sharedBank) = .ok next
      ∧ sharedBank.linkSlots Program.links = sharedBankSlots
      ∧ next.linkSlots Program.links
        = [[some (.definedType 0 0), some (.definedType 0 0), some (.definedType 0 0)],
            [some (.definedType 1 0)]] := by
  obtain ⟨next, hnext, hslots⟩ : ∃ next, limitCaptures.apply (Index.of sharedBank) = .ok next
      ∧ decide (next.linkSlots Program.links
        = [[some (.definedType 0 0), some (.definedType 0 0), some (.definedType 0 0)],
            [some (.definedType 1 0)]]) = true := exists_ok_of_any (by decide +kernel)
  exact ⟨next, sharedBank_distinct, by decide +kernel, hnext, by decide +kernel,
    of_decide_eq_true hslots⟩

end Bindery
