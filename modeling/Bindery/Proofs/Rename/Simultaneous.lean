import Bindery.Proofs.Defaults.Run
import Bindery.Proofs.Rename.Substitution

/-! # Renames happen at once — except to links in the types of seeds

    Every reference of a reachable tree stands for a node of the tree
    (`Tree.Reachable.holds_of_mem_references`), because its links and defaults
    are sound.  A rename that succeeds on it gives every slot its new name and
    makes every reference follow its slot, whatever names are exchanged, and
    leaves everything else outside of recipes as it was
    (`Rename.apply_performed`).

    The types of variable seeds link to types of the program, as fields and
    arguments do, but a rename does not rewrite these links.  All other links of
    a reachable tree stand for the same slots after a rename
    (`linkSlots_links_substitute`); those in seed types do exactly when no type
    that they name gets another name (`Rename.seedLinks_exact`).  A type that is
    renamed leaves them dangling (`Rename.seedLinks_dangle`). -/

namespace Bindery

/-! ## References of reachable trees -/

/-- What a readable input stands for is held. -/
theorem Input.Readable.holds {tree : Tree} {p i : Nat} {program : Program}
    {instruction : Instruction} {target : InputTarget} {input : Input}
    (hp : tree.programs[p]? = some program) (hi : program.instructions[i]? = some instruction)
    (h : input.Readable instruction target) :
    ∃ slot node, tree.Holds slot (input.pathIn program.name instruction.name) node :=
  Index.contains_iff.mp (Instruction.contains_of_takes hp hi h.taken)

/-- What the references of a sound default stand for is held. -/
theorem DefaultValue.Sound.holds {tree : Tree} {p i : Nat} {program : Program}
    {instruction : Instruction} {target : InputTarget} {value : DefaultValue}
    (hp : tree.programs[p]? = some program) (hi : program.instructions[i]? = some instruction)
    (h : value.Sound program instruction target) :
    ∀ path ∈ value.references program.name instruction.name,
      ∃ slot node, tree.Holds slot path node := by
  intro path hmem
  cases value with
  | pda owner seeds =>
      obtain ⟨-, ⟨account, haccount, rfl, -⟩, hseeds⟩ := h
      rcases List.mem_cons.mp hmem with rfl | hmem
      · obtain ⟨j, hj⟩ := List.mem_iff_getElem?.mp haccount
        exact ⟨_, _, .account hp hj⟩
      · obtain ⟨binding, hbinding, rfl⟩ := List.mem_map.mp hmem
        exact (hseeds binding hbinding).holds hp hi
  | account name =>
      obtain rfl := List.mem_singleton.mp hmem
      exact h.2.holds hp hi
  | argument name =>
      obtain rfl := List.mem_singleton.mp hmem
      exact Input.Readable.holds hp hi h
  | absent | programId | literal _ => exact nomatch hmem

/-- **NO REFERENCE DANGLES**: in a reachable tree every reference of a default and
    every link stands for a node. -/
theorem Tree.Reachable.holds_of_mem_references {tree : Tree} (hr : tree.Reachable) :
    ∀ path ∈ tree.references, ∃ slot node, tree.Holds slot path node := by
  intro path hmem
  rcases List.mem_append.mp hmem with hmem | hmem
  · obtain ⟨program, hprogram, hmem⟩ := List.mem_flatMap.mp hmem
    obtain ⟨p, hp⟩ := List.mem_iff_getElem?.mp hprogram
    rcases List.mem_append.mp hmem with hmem | hmem
    · obtain ⟨instruction, hinstruction, hmem⟩ := List.mem_flatMap.mp hmem
      obtain ⟨i, hi⟩ := List.mem_iff_getElem?.mp hinstruction
      obtain ⟨value, hvalue, hmem⟩ := List.mem_flatMap.mp hmem
      have hsound := hr.defaultsSound program hprogram instruction hinstruction
      rcases List.mem_append.mp hvalue with hvalue | hvalue
      · obtain ⟨a, ha, hvalue⟩ := List.mem_filterMap.mp hvalue
        exact (hsound.accounts a ha value hvalue).holds hp hi path hmem
      · obtain ⟨a, ha, hvalue⟩ := List.mem_filterMap.mp hvalue
        exact (hsound.arguments a ha value hvalue).holds hp hi path hmem
    · obtain ⟨name, hname, rfl⟩ := List.mem_map.mp hmem
      have hdefines := (hr.wellFormed.declared program hprogram).links name hname
      exact Program.holds_linkPath hp hdefines
  · -- loaded programs share no types
    rw [hr.wellFormed.sharedTypes] at hmem
    exact nomatch hmem

/-! ## Renames of reachable trees -/

/-- A tree `next` is `tree` after the renames of an operation, all done at once. -/
structure Rename.Performed (operation : Rename) (tree next : Tree) : Prop where
  /-- Names and references are replaced, and outside of recipes nothing else is. -/
  text : next.keeping (Attachment.allBut .recipe)
    = (tree.substitute operation.nameOf).keeping (Attachment.allBut .recipe)
  /-- A path with a new name selects a slot. -/
  selected : ∀ {path newName}, operation.renames.get? path = some newName →
    ∃ slot node, tree.Holds slot path node
  /-- Every slot has its new name, in a node with its new name. -/
  slots : ∀ {slot path node}, tree.Holds slot path node →
    ∃ renamed, next.Holds slot (path.substitute operation.nameOf) renamed
  /-- Every reference stood for a slot. -/
  held : ∀ path ∈ tree.references, ∃ slot node, tree.Holds slot path node
  /-- In order, the references stand for the new paths of what they stood for. -/
  references : next.references = tree.references.map (·.substitute operation.nameOf)

/-- **RENAMES HAPPEN AT ONCE**: a rename that succeeds on a reachable tree gives
    exactly the selected slots their new names, and every reference of a default
    and every link follows the slot it stood for. -/
theorem Rename.apply_performed {tree next : Tree} {operation : Rename} (hr : tree.Reachable)
    (h : operation.apply (Index.of tree) = .ok next) : operation.Performed tree next := by
  obtain ⟨hadm, rfl⟩ := Rename.apply_eq_ok hr.wellFormed.distinct h
  have hlinks : ∀ program ∈ tree.programs, ∀ name ∈ program.links,
      program.defines name = true :=
    fun program hmem => (hr.wellFormed.declared program hmem).links
  exact {
    text := rfl
    selected := fun hget => Index.contains_iff.mp (hadm.resolved hget)
    slots := fun hheld => hheld.substitute operation.nameOf
    held := hr.holds_of_mem_references
    references := Tree.references_substitute operation.nameOf hlinks }

/-- Names for the bank: the program and its instruction get new ones, and nodes of
    each other kind exchange theirs. -/
def bankNames : Rename := ⟨SortedMap.ofList [
  (.program "bank", "till"), (.instruction "bank" "open", "start"),
  (.account "bank" "Pool", "Vault"), (.account "bank" "Vault", "Pool"),
  (.definedType "bank" "Side", "Turn"), (.definedType "bank" "Turn", "Side"),
  (.instructionAccount "bank" "open" "payer", "vault"),
  (.instructionAccount "bank" "open" "vault", "payer"),
  (.instructionArgument "bank" "open" "payer", "side"),
  (.instructionArgument "bank" "open" "side", "payer")]⟩

theorem Rename.apply_performed_bank : ∃ tree next : Tree,
    tree.Reachable ∧ bankNames.apply (Index.of tree) = .ok next
      ∧ next.references = [.account "till" "Pool", .instructionAccount "till" "start" "vault",
          .definedType "till" "Turn", .definedType "till" "Turn"]
      ∧ bankNames.Performed tree next := by
  obtain ⟨stages, hrun, hstages⟩ : ∃ stages,
      Pipeline.runDocuments [bank] (bankRun.take 2) = .ok stages
        ∧ (stages.any fun stage =>
            (bankNames.apply (Index.of stage.tree)).toOption.any fun next =>
              next.references = [.account "till" "Pool",
                .instructionAccount "till" "start" "vault", .definedType "till" "Turn",
                .definedType "till" "Turn"]) = true :=
    runDocuments_bank (by decide +kernel)
  obtain ⟨stage, hmem, hstage⟩ := List.any_eq_true.mp hstages
  obtain ⟨next, happly, hreferences⟩ := exists_ok_of_any hstage
  have hr := reachable_of_runDocuments hrun stage hmem
  exact ⟨stage.tree, next, hr, happly, of_decide_eq_true hreferences,
    Rename.apply_performed hr happly⟩

end Bindery

/-! ## Links in the types of seeds -/

namespace Bindery

/-! ## The slots of links -/

/-- The slot that a path selects. -/
def Index.slot? (index : Index) (path : NodePath) : Option Slot :=
  (index.find? path).map (·.slot)

/-- The slot of the type that a link of a program stands for. -/
def Tree.linkSlot? (tree : Tree) (program : Program) (name : String) : Option Slot :=
  (Index.of tree).slot? (program.linkPath name)

/-- The slots that some links of each program stand for, in order. -/
def Tree.linkSlots (tree : Tree) (links : Program → List String) : List (List (Option Slot)) :=
  tree.programs.map fun program => (links program).map (tree.linkSlot? program)

/-- The links in the types of the variable seeds of a program, in order. -/
def Program.seedLinks (program : Program) : List String :=
  program.accounts.flatMap fun account => account.seedInputs.flatMap (·.type.links)

/-- Where names are distinct per scope, a path selects the slot that holds it. -/
theorem Index.slot?_eq_some_iff {tree : Tree} (hd : tree.Distinct) {path : NodePath}
    {slot : Slot} :
    (Index.of tree).slot? path = some slot ↔ ∃ node, tree.Holds slot path node := by
  constructor
  · intro h
    obtain ⟨entry, hentry, rfl⟩ := Option.map_eq_some_iff.mp h
    exact ⟨entry.node, (Index.holds_of_find? hentry).2⟩
  · rintro ⟨node, hheld⟩
    have hfound : (Index.of tree).find? path = some ⟨path, slot, node⟩ :=
      (Index.find?_eq_some_iff hd).mpr ⟨rfl, hheld⟩
    exact congrArg (Option.map (·.slot)) hfound

/-! ## Renamed links and links that stay -/

section Substitution

variable {tree : Tree} {names : NodePath → String} {p : Nat} {program : Program}
  {name : String}

/-- The links in seed types are not substituted. -/
theorem Program.seedLinks_substitute (names : NodePath → String) (program : Program) :
    (program.substitute names).seedLinks = program.seedLinks :=
  List.flatMap_map ..

/-- A link that is substituted stands for the slot that it stood for. -/
theorem linkSlot?_substitute (hd : tree.Distinct) (hd' : (tree.substitute names).Distinct)
    (hp : tree.programs[p]? = some program) (h : program.defines name = true) :
    (tree.substitute names).linkSlot? (program.substitute names) (names (program.linkPath name))
      = tree.linkSlot? program name := by
  obtain ⟨slot, node, hheld⟩ := Program.holds_linkPath hp h
  have hbefore : tree.linkSlot? program name = some slot :=
    (Index.slot?_eq_some_iff hd).mpr ⟨node, hheld⟩
  have hafter : (Index.of (tree.substitute names)).slot? ((program.linkPath name).substitute names)
      = some slot := (Index.slot?_eq_some_iff hd').mpr (hheld.substitute names)
  unfold Tree.linkSlot? at hbefore ⊢
  rw [Program.linkPath_substitute names h, hafter, hbefore]

/-- **A LINK THAT STAYS**: it stands for the slot that it stood for exactly when the
    type in that slot keeps its name. -/
theorem linkSlot?_of_kept_iff (hd : tree.Distinct) (hd' : (tree.substitute names).Distinct)
    (hp : tree.programs[p]? = some program) (h : program.defines name = true) :
    (tree.substitute names).linkSlot? (program.substitute names) name = tree.linkSlot? program name
      ↔ names (.definedType program.name name) = name := by
  have hpath : program.linkPath name = .definedType program.name name := if_pos h
  constructor
  · intro hsame
    obtain ⟨slot, node, hheld⟩ := Program.holds_linkPath hp h
    have hbefore : tree.linkSlot? program name = some slot :=
      (Index.slot?_eq_some_iff hd).mpr ⟨node, hheld⟩
    obtain ⟨other, hother⟩ := (Index.slot?_eq_some_iff hd').mp (hsame.trans hbefore)
    obtain ⟨renamed, hrenamed⟩ := hheld.substitute names
    -- the slot has one path, which ends with the link and with the new name
    have hends := congrArg NodePath.name (hother.path_unique hrenamed)
    rw [NodePath.name_substitute, hpath] at hends
    rw [← hends]
    unfold Program.linkPath
    split <;> rfl
  · intro hkept
    have hfollows := linkSlot?_substitute hd hd' hp h
    rw [hpath, hkept] at hfollows
    exact hfollows

/-- **LINKS FOLLOW**: the links in fields, arguments and defined types stand for the
    slots that they stood for. -/
theorem linkSlots_links_substitute (hd : tree.Distinct)
    (hd' : (tree.substitute names).Distinct)
    (h : ∀ program ∈ tree.programs, ∀ name ∈ program.links, program.defines name = true) :
    (tree.substitute names).linkSlots Program.links = tree.linkSlots Program.links := by
  show (tree.programs.map (·.substitute names)).map _ = tree.programs.map _
  rw [List.map_map]
  refine List.map_congr_left fun program hprogram => ?_
  obtain ⟨p, hp⟩ := List.mem_iff_getElem?.mp hprogram
  show (program.substitute names).links.map _ = program.links.map _
  rw [Program.links_substitute, List.map_map]
  refine List.map_congr_left fun name hname => ?_
  exact linkSlot?_substitute hd hd' hp (h program hprogram name hname)

end Substitution

/-! ## Links after a rename -/

/-- **LINKS IN SEED TYPES STAY**: a rename that succeeds on a reachable tree lets every
    other link follow the type it stands for; those in seed types stand for the types
    they stood for exactly when none of these gets another name. -/
theorem Rename.seedLinks_exact {tree next : Tree} {operation : Rename} (hr : tree.Reachable)
    (hseeds : ∀ program ∈ tree.programs, ∀ name ∈ program.seedLinks,
      program.defines name = true)
    (h : operation.apply (Index.of tree) = .ok next) :
    next.linkSlots Program.links = tree.linkSlots Program.links
      ∧ (next.linkSlots Program.seedLinks = tree.linkSlots Program.seedLinks
          ↔ ∀ program ∈ tree.programs, ∀ name ∈ program.seedLinks,
              operation.nameOf (.definedType program.name name) = name) := by
  have hd := hr.wellFormed.distinct
  have hnext : next.Reachable :=
    .step hr (show (Operation.rename operation).apply (Index.of tree) = .ok next from h)
  have hd' := hnext.wellFormed.distinct
  obtain ⟨-, rfl⟩ := Rename.apply_eq_ok hd h
  refine ⟨linkSlots_links_substitute hd hd' fun program hprogram =>
    (hr.wellFormed.declared program hprogram).links, ?_⟩
  show (tree.programs.map (·.substitute operation.nameOf)).map _ = tree.programs.map _ ↔ _
  rw [List.map_map, List.map_inj_left]
  refine forall₂_congr fun program hprogram => ?_
  obtain ⟨p, hp⟩ := List.mem_iff_getElem?.mp hprogram
  show (program.substitute operation.nameOf).seedLinks.map _ = program.seedLinks.map _ ↔ _
  rw [Program.seedLinks_substitute, List.map_inj_left]
  refine forall₂_congr fun name hname => ?_
  exact linkSlot?_of_kept_iff hd hd' hp (hseeds program hprogram name hname)

/-- A recipe for the vault of the bank with a seed of a type of the bank. -/
def sidedVault : SetSeeds :=
  ⟨.account "bank" "Vault", [.variable ⟨"side", .link "Side", []⟩]⟩

/-- New names that leave the type of the seed its name. -/
def turnRenamed : Rename := ⟨SortedMap.ofList [
  (.program "bank", "till"), (.account "bank" "Vault", "Safe"),
  (.definedType "bank" "Turn", "Move")]⟩

/-- A new name for the type of the seed. -/
def sideRenamed : Rename := ⟨SortedMap.ofList [(.definedType "bank" "Side", "Face")]⟩

/-- The bank with that recipe and what a rename makes of it. -/
theorem exists_sidedBank (operation : Rename) (test : Tree → Tree → Bool)
    (h : ((sidedVault.apply (Index.of bankTree)).toOption.any fun tree =>
      tree.programs.all (fun program => program.seedLinks.all program.defines)
        && (operation.apply (Index.of tree)).toOption.any (test tree)) = true) :
    ∃ tree next : Tree, tree.Reachable ∧ sidedVault.apply (Index.of bankTree) = .ok tree
      ∧ (∀ program ∈ tree.programs, ∀ name ∈ program.seedLinks, program.defines name = true)
      ∧ operation.apply (Index.of tree) = .ok next ∧ test tree next = true := by
  obtain ⟨tree, htree, hrest⟩ := exists_ok_of_any h
  obtain ⟨hdefined, hrest⟩ := Bool.and_eq_true_iff.mp hrest
  obtain ⟨next, hnext, htest⟩ := exists_ok_of_any hrest
  have hr : tree.Reachable :=
    .step (.load load_bank)
      (show (Operation.setSeeds sidedVault).apply (Index.of bankTree) = .ok tree from htree)
  refine ⟨tree, next, hr, htree, fun program hprogram name hname => ?_, hnext, htest⟩
  exact List.all_eq_true.mp (List.all_eq_true.mp hdefined program hprogram) name hname

theorem Rename.seedLinks_exact_bank : ∃ tree next : Tree,
    sidedVault.apply (Index.of bankTree) = .ok tree
      ∧ turnRenamed.apply (Index.of tree) = .ok next
      ∧ tree.linkSlots Program.seedLinks = [[some (.definedType 0 0)]]
      ∧ next.linkSlots Program.links = tree.linkSlots Program.links
      ∧ next.linkSlots Program.seedLinks = tree.linkSlots Program.seedLinks := by
  obtain ⟨tree, next, hr, htree, hdefined, hnext, htest⟩ := exists_sidedBank turnRenamed
    (fun tree _ => tree.linkSlots Program.seedLinks = [[some (.definedType 0 0)]]
      ∧ ∀ program ∈ tree.programs, ∀ name ∈ program.seedLinks,
        turnRenamed.nameOf (.definedType program.name name) = name) (by decide +kernel)
  obtain ⟨hslots, hkept⟩ := of_decide_eq_true htest
  obtain ⟨hlinks, hseeds⟩ := Rename.seedLinks_exact hr hdefined hnext
  exact ⟨tree, next, htree, hnext, hslots, hlinks, hseeds.mpr hkept⟩

/-- **A LINK THAT DANGLES**: a new name for a type leaves the links to it in seed types
    standing for nothing. -/
theorem Rename.seedLinks_dangle : ∃ tree next : Tree,
    sidedVault.apply (Index.of bankTree) = .ok tree ∧ tree.Reachable
      ∧ (∀ program ∈ tree.programs, ∀ name ∈ program.seedLinks, program.defines name = true)
      ∧ sideRenamed.apply (Index.of tree) = .ok next
      ∧ tree.linkSlots Program.seedLinks = [[some (.definedType 0 0)]]
      ∧ next.linkSlots Program.seedLinks = [[none]] := by
  obtain ⟨tree, next, hr, htree, hdefined, hnext, htest⟩ := exists_sidedBank sideRenamed
    (fun tree next => tree.linkSlots Program.seedLinks = [[some (.definedType 0 0)]]
      ∧ next.linkSlots Program.seedLinks = [[none]]) (by decide +kernel)
  obtain ⟨hbefore, hafter⟩ := of_decide_eq_true htest
  exact ⟨tree, next, htree, hr, hdefined, hnext, hbefore, hafter⟩

end Bindery
