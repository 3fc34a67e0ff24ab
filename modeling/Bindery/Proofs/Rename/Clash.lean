import Bindery.Proofs.Reachable
import Bindery.Proofs.Rename.Substitution

/-! # Clashes — when new names are refused

    Giving every selected node its new name at once either keeps the names of
    every scope distinct or lets two siblings share one.  A rename whose paths
    resolve and whose names fit in a path succeeds in the first case
    (`Rename.apply_of_distinct`) and is refused for a duplicate name in the
    second (`Rename.apply_duplicateName_iff`): names that are exchanged, passed
    on or kept are accepted, and every other clash is found, although the plan
    looks at one entry after another. -/

namespace Bindery

section Siblings

variable {tree : Tree} {operation : Rename} {names : NodePath → String}
  {slot slot' : Slot} {path path' : NodePath} {node node' : Node} {newName newName' : String}

/-! ## Admissible renames keep names distinct -/

/-- Names that are distinct per scope stay so under an admissible rename. -/
theorem Tree.Distinct.substitute (hadm : operation.Admissible (Index.of tree))
    (hd : tree.Distinct) : (tree.substitute operation.nameOf).Distinct where
  programs := by
    simp only [Tree.substitute, List.map_map]
    refine hadm.nodup_names NodePath.isScope_program (fun program hmem => ?_) hd.programs
    obtain ⟨p, hp⟩ := List.mem_iff_getElem?.mp hmem
    exact Index.contains_iff.mpr ⟨_, _, .program hp⟩
  sharedTypes := by
    simp only [Tree.substitute, List.map_map]
    refine hadm.nodup_names NodePath.isScope_sharedType (fun defined hmem => ?_) hd.sharedTypes
    obtain ⟨i, hi⟩ := List.mem_iff_getElem?.mp hmem
    exact Index.contains_iff.mpr ⟨_, _, .sharedType hi⟩
  members := by
    refine List.forall_mem_map.mpr fun program hprogram => ?_
    obtain ⟨p, hp⟩ := List.mem_iff_getElem?.mp hprogram
    have hmembers := hd.members program hprogram
    refine ⟨?_, ?_, ?_, List.forall_mem_map.mpr fun instruction hinstruction => ?_⟩
    · simp only [Program.substitute, List.map_map]
      refine hadm.nodup_names (NodePath.isScope_account _) (fun a ha => ?_) hmembers.accounts
      obtain ⟨i, hi⟩ := List.mem_iff_getElem?.mp ha
      exact Index.contains_iff.mpr ⟨_, _, .account hp hi⟩
    · simp only [Program.substitute, List.map_map]
      refine hadm.nodup_names (NodePath.isScope_definedType _) (fun t ht => ?_)
        hmembers.definedTypes
      obtain ⟨i, hi⟩ := List.mem_iff_getElem?.mp ht
      exact Index.contains_iff.mpr ⟨_, _, .definedType hp hi⟩
    · simp only [Program.substitute, List.map_map]
      refine hadm.nodup_names (NodePath.isScope_instruction _) (fun instruction hi => ?_)
        hmembers.instructions
      obtain ⟨i, hi⟩ := List.mem_iff_getElem?.mp hi
      exact Index.contains_iff.mpr ⟨_, _, .instruction hp hi⟩
    · obtain ⟨i, hi⟩ := List.mem_iff_getElem?.mp hinstruction
      have hinputs := hmembers.inputs instruction hinstruction
      constructor
      · simp only [Instruction.substitute, List.map_map]
        refine hadm.nodup_names (NodePath.isScope_instructionAccount _ _) (fun a ha => ?_)
          hinputs.accounts
        obtain ⟨m, hm⟩ := List.mem_iff_getElem?.mp ha
        exact Index.contains_iff.mpr ⟨_, _, .instructionAccount hp hi hm⟩
      · simp only [Instruction.substitute, List.map_map]
        refine hadm.nodup_names (NodePath.isScope_instructionArgument _ _) (fun a ha => ?_)
          hinputs.arguments
        obtain ⟨m, hm⟩ := List.mem_iff_getElem?.mp ha
        exact Index.contains_iff.mpr ⟨_, _, .instructionArgument hp hi hm⟩

/-! ## Renames that keep names distinct are admissible -/

/-- The name of a path under another name. -/
theorem NodePath.name_withName (path : NodePath) (newName : String) :
    (path.withName newName).name = newName := by
  cases path <;> rfl

/-- A path with its own name is the path. -/
theorem NodePath.withName_name (path : NodePath) : path.withName path.name = path := by
  cases path <;> rfl

/-- The last of several names counts. -/
theorem NodePath.withName_withName (path : NodePath) (newName newName' : String) :
    (path.withName newName).withName newName' = path.withName newName' := by
  cases path <;> rfl

/-- Siblings that get one name end up under one path. -/
theorem NodePath.substitute_withName
    (h : names (path.withName newName) = names path) :
    (path.withName newName).substitute names = path.substitute names := by
  cases path <;> simp_all only [withName, substitute]

/-- Where new names are distinct per scope, siblings that get one name are one. -/
theorem Tree.Distinct.eq_of_sibling (hd : (tree.substitute names).Distinct)
    (hheld : tree.Holds slot path node) (hheld' : tree.Holds slot' (path.withName newName) node')
    (hname : names (path.withName newName) = names path) : path.withName newName = path := by
  obtain ⟨renamed, hrenamed⟩ := hheld.substitute names
  obtain ⟨renamed', hrenamed'⟩ := hheld'.substitute names
  obtain rfl := hd.slot_unique hrenamed' hrenamed (NodePath.substitute_withName hname)
  exact hheld'.path_unique hheld

namespace Rename

/-- The name that an entry of a rename leaves its path with. -/
theorem nameOf_of_get? (h : operation.renames.get? path = some newName) :
    operation.nameOf path = newName := by
  rw [nameOf, h, Option.getD_some]

/-- A path without an entry keeps its name. -/
theorem nameOf_of_get?_none (h : operation.renames.get? path = none) :
    operation.nameOf path = path.name := by
  rw [nameOf, h, Option.getD_none]

/-- **NO CLASH, NO OBSTACLE**: a rename whose paths resolve and whose names fit in a path is
    admissible when the new names are distinct per scope. -/
theorem admissible_of_distinct
    (hpaths : ∀ entry ∈ operation.renames.entries, (Index.of tree).contains entry.1 = true)
    (hnames : ∀ entry ∈ operation.renames.entries, NodePath.ValidName entry.2)
    (hd : (tree.substitute operation.nameOf).Distinct) :
    operation.Admissible (Index.of tree) where
  resolved hget := hpaths _ (SortedMap.get?_eq_some_iff.mp hget)
  valid hget := hnames _ (SortedMap.get?_eq_some_iff.mp hget)
  free := by
    intro path newName hget hne hcontains
    cases hkept : operation.renames.get? (path.withName newName) with
    | some other => exact ⟨other, rfl⟩
    | none =>
        -- a node that keeps the name would share it with the renamed one
        obtain ⟨slot, node, hheld⟩ :=
          Index.contains_iff.mp (hpaths _ (SortedMap.get?_eq_some_iff.mp hget))
        obtain ⟨slot', node', hheld'⟩ := Index.contains_iff.mp hcontains
        refine absurd (hd.eq_of_sibling hheld hheld' ?_) hne
        rw [nameOf_of_get? hget, nameOf_of_get?_none hkept, NodePath.name_withName]
  apart := by
    intro path path' newName newName' hget hget' htarget
    obtain rfl : newName = newName' := by
      rw [← path.name_withName newName, htarget, NodePath.name_withName]
    have hsibling : path' = path.withName path'.name := by
      rw [← NodePath.withName_withName path newName, htarget, NodePath.withName_withName,
        NodePath.withName_name]
    obtain ⟨slot, node, hheld⟩ :=
      Index.contains_iff.mp (hpaths _ (SortedMap.get?_eq_some_iff.mp hget))
    obtain ⟨slot', node', hheld'⟩ :=
      Index.contains_iff.mp (hpaths _ (SortedMap.get?_eq_some_iff.mp hget'))
    rw [hsibling] at hheld' hget' ⊢
    refine (hd.eq_of_sibling hheld hheld' ?_).symm
    rw [nameOf_of_get? hget, nameOf_of_get? hget']

/-- An admissible rename succeeds with the substituted tree. -/
theorem apply_of_admissible (hd : tree.Distinct) (hadm : operation.Admissible (Index.of tree)) :
    operation.apply (Index.of tree) = .ok (tree.substitute operation.nameOf) := by
  obtain ⟨renamings, hplan⟩ := exists_plan hadm
  obtain ⟨next, hnext⟩ : ∃ next, operation.apply (Index.of tree) = .ok next :=
    ⟨_, bind_eq_ok.mpr ⟨renamings, hplan, rfl⟩⟩
  rw [hnext, (apply_eq_ok hd hnext).2]

/-- **WITHOUT A CLASH A RENAME SUCCEEDS**: it gives the substituted tree. -/
theorem apply_of_distinct (hd : tree.Distinct)
    (hpaths : ∀ entry ∈ operation.renames.entries, (Index.of tree).contains entry.1 = true)
    (hnames : ∀ entry ∈ operation.renames.entries, NodePath.ValidName entry.2)
    (hd' : (tree.substitute operation.nameOf).Distinct) :
    operation.apply (Index.of tree) = .ok (tree.substitute operation.nameOf) :=
  apply_of_admissible hd (admissible_of_distinct hpaths hnames hd')

/-- A rename fails only in its plan. -/
theorem apply_eq_error {fault : TransformError}
    (h : operation.apply (Index.of tree) = .error fault) :
    operation.plan (Index.of tree) = .error fault := by
  rcases bind_eq_error.mp h with hplan | ⟨renamings, -, hdone⟩
  · exact hplan
  · exact nomatch hdone

end Rename

end Siblings

/-! ## Renames of reachable trees -/

/-- **CLASHES ARE FOUND, AND NOTHING ELSE**: a rename of a reachable tree whose paths
    resolve and whose names fit in a path is refused for a duplicate name when the new
    names, given all at once, leave two siblings with one name; otherwise it
    succeeds. -/
theorem Rename.apply_duplicateName_iff {tree : Tree} {operation : Rename} (hr : tree.Reachable)
    (hpaths : ∀ entry ∈ operation.renames.entries, (Index.of tree).contains entry.1 = true)
    (hnames : ∀ entry ∈ operation.renames.entries, NodePath.ValidName entry.2) :
    ((∃ scope name, operation.apply (Index.of tree) = .error (.duplicateName scope name))
        ↔ ¬ (tree.substitute operation.nameOf).Distinct)
      ∧ ((∃ next, operation.apply (Index.of tree) = .ok next)
        ↔ (tree.substitute operation.nameOf).Distinct) := by
  have hd := hr.wellFormed.distinct
  have hdistinct : ∀ {next}, operation.apply (Index.of tree) = .ok next →
      (tree.substitute operation.nameOf).Distinct :=
    fun hnext => hd.substitute (apply_eq_ok hd hnext).1
  refine ⟨⟨?_, fun hclash => ?_⟩, ⟨?_, fun hd' => ⟨_, apply_of_distinct hd hpaths hnames hd'⟩⟩⟩
  · rintro ⟨scope, name, hfail⟩ hd'
    rw [apply_of_distinct hd hpaths hnames hd'] at hfail
    exact nomatch hfail
  · cases happly : operation.apply (Index.of tree) with
    | ok next => exact absurd (hdistinct happly) hclash
    | error fault =>
        obtain ⟨entry, hentry, hinvalid | hmissing | rfl⟩ :=
          planFrom_eq_error (apply_eq_error happly)
        · exact absurd (hnames entry hentry) hinvalid
        · have hfound : ((Index.of tree).find? entry.1).isSome = true := hpaths entry hentry
          rw [hmissing] at hfound
          exact nomatch hfound
        · exact ⟨_, _, rfl⟩
  · rintro ⟨next, hnext⟩
    exact hdistinct hnext

/-- Names of the bank passed on in a circle, but for a pool that is called twice. -/
def poolTwice : Rename := ⟨SortedMap.ofList [
  (.account "bank" "Vault", "Pool"), (.account "bank" "Pool", "Pool"),
  (.definedType "bank" "Side", "Turn"), (.definedType "bank" "Turn", "Side")]⟩

theorem Rename.apply_duplicateName_iff_bank :
    bankTree.Reachable
      ∧ (∀ entry ∈ poolTwice.renames.entries, (Index.of bankTree).contains entry.1 = true)
      ∧ (∀ entry ∈ poolTwice.renames.entries, NodePath.ValidName entry.2)
      ∧ poolTwice.apply (Index.of bankTree)
        = .error (.duplicateName (some (.program "bank")) "Pool")
      ∧ ¬ (bankTree.substitute poolTwice.nameOf).Distinct := by
  have hr : bankTree.Reachable := .load load_bank
  have hpaths : ∀ entry ∈ poolTwice.renames.entries,
      (Index.of bankTree).contains entry.1 = true := by decide +kernel
  have hnames : ∀ entry ∈ poolTwice.renames.entries, NodePath.ValidName entry.2 := by
    decide +kernel
  have hfail : poolTwice.apply (Index.of bankTree)
      = .error (.duplicateName (some (.program "bank")) "Pool") := by decide +kernel
  exact ⟨hr, hpaths, hnames, hfail,
    (Rename.apply_duplicateName_iff hr hpaths hnames).1.mp ⟨_, _, hfail⟩⟩

end Bindery
