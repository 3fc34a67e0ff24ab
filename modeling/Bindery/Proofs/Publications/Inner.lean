import Bindery.Proofs.Publications.Again
import Bindery.Proofs.TypeLinks.Places

/-! # Inner paths — what is rendered stays in its directory

    A path leaves the directory that it is relative to by its root or by a step
    above; a path that names spell has neither, and stays inside as long as there
    is a name at all.  The crate and the package take names through a conversion
    that leaves no slash and no dot, and plan no module without a file name
    (`Modules.namesIn_of_mem_plan`), so their paths are inner whatever the names of
    a tree are.  The document takes the name of the primary program as it stands,
    and its path is inner because of what loading and renaming let through
    (`render_isInner`): a tree that neither has led to can have its document
    outside (`exists_outer_document`). -/

namespace Bindery

variable {tree : Tree} {options : RenderOptions}

/-- Files whose paths are all inner. -/
def Artifacts.Inner (artifacts : Artifacts) : Prop :=
  ∀ file ∈ artifacts.files, FilePath.isInner file.path = true

/-- A set is let through exactly when its paths are inner. -/
theorem Artifacts.checkInner_eq_ok {artifacts : Artifacts} :
    artifacts.checkInner = .ok () ↔ artifacts.Inner := by
  refine ⟨isInner_of_checkInner, fun hinner => ?_⟩
  unfold checkInner
  split
  · rfl
  · rename_i file hfound
    have houter := List.find?_some hfound
    rw [hinner file (List.mem_of_find?_eq_some hfound)] at houter
    exact absurd houter Bool.false_ne_true

/-- Files that are put under inner paths have inner paths. -/
theorem Artifacts.inner_ofFiles {files : List (String × String)}
    (h : ∀ file ∈ files, FilePath.isInner file.1 = true) : (ofFiles files).Inner := by
  have hboth : ∀ file ∈ files, FilePath.isInner file.1 = true ∧ True :=
    fun file hmem => ⟨h file hmem, trivial⟩
  intro file hfile
  exact (forall_mem_ofFiles (P := fun path => FilePath.isInner path = true)
    (Q := fun _ => True) hboth file hfile).1

namespace Modules

variable {M : Type} {target : Modules M}

/-- Every module of a plan is in a file. -/
theorem namesIn_of_mem_plan {planned : Planned M} (h : planned ∈ target.plan tree) :
    ∃ directory name, planned.names = target.namesIn directory name := by
  cases plannedAs_of_mem h <;> exact ⟨_, _, rfl⟩

/-- Modules that are built have inner paths. -/
theorem Regular.isInner (hr : target.Regular) {files : List (ModuleFile M)}
    (h : target.files tree = .ok files) : ∀ file ∈ files, FilePath.isInner file.path = true := by
  intro file hfile
  obtain ⟨planned, hplanned, hbuilt⟩ := exists_of_forall₂_right (files_builtAs hr h) hfile
  obtain ⟨directory, name, hnames⟩ := namesIn_of_mem_plan hplanned
  refine hbuilt.path.isInner ?_
  rw [hnames]
  exact List.concat_ne_nil _ _

/-- The files of modules that are built have inner paths. -/
theorem Regular.inner_ofFiles (hr : target.Regular) {files : List (ModuleFile M)}
    (h : target.files tree = .ok files) (textOf : M → String) :
    (Artifacts.ofFiles (files.map (ModuleFile.written textOf))).Inner :=
  Artifacts.inner_ofFiles (List.forall_mem_map.mpr (hr.isInner h))

end Modules

/-- The document of a program of a well-formed tree has an inner path. -/
theorem Tree.WellFormed.isInner_documentName (hw : tree.WellFormed) {program : Program}
    (hmem : program ∈ tree.programs) : FilePath.isInner program.documentName = true :=
  (hw.documentName_ordinary hmem).spells.isInner (List.cons_ne_nil _ _)

/-- **INSIDE**: whatever the names of a tree are, the paths of the crate and of the package stay
    inside their directories; and so does that of the document of a reachable tree. -/
theorem render_isInner (tree : Tree) (options : RenderOptions) :
    (∀ inCrate, Crate.render tree options = .ok inCrate → inCrate.Inner)
      ∧ (∀ inPackage, Package.render tree options = .ok inPackage → inPackage.Inner)
      ∧ (tree.Reachable → ∀ documents, Interchange.render tree options = .ok documents →
        documents.Inner) := by
  refine ⟨fun inCrate h => ?_, fun inPackage h => ?_, fun hr documents h => ?_⟩
  · obtain ⟨mount, files, -, hfiles, rfl⟩ := Crate.render_eq_ok h
    exact (Crate.modules_regular _).inner_ofFiles hfiles _
  · obtain ⟨files, hfiles, rfl⟩ := Package.render_eq_ok h
    exact (Package.modules_regular _).inner_ofFiles hfiles _
  · -- the name of the document is no converted one, and only well-formed trees keep it inside
    rcases Interchange.render_eq_ok h with ⟨-, rfl⟩ | ⟨primary, text, hprimary, rfl⟩
    · exact fun _ hfile => (nomatch hfile)
    · have hmem := List.mem_of_mem_head? (Option.mem_def.mpr hprimary)
      exact Artifacts.inner_ofFiles
        (List.forall_mem_singleton.mpr (hr.wellFormed.isInner_documentName hmem))

theorem render_isInner_bank : ∃ inCrate inPackage documents,
    Crate.render bankTree ⟨false, SortedMap.empty⟩ = .ok inCrate ∧ inCrate.Inner
      ∧ Package.render bankTree ⟨false, SortedMap.empty⟩ = .ok inPackage ∧ inPackage.Inner
      ∧ bankTree.Reachable ∧ Interchange.render bankTree ⟨false, SortedMap.empty⟩ = .ok documents
      ∧ documents.Inner := by
  obtain ⟨inCrate, hcrate⟩ : ∃ inCrate,
      Crate.render bankTree ⟨false, SortedMap.empty⟩ = .ok inCrate :=
    exists_ok_of_isSome (by decide +kernel)
  obtain ⟨inPackage, hpackage⟩ : ∃ inPackage,
      Package.render bankTree ⟨false, SortedMap.empty⟩ = .ok inPackage :=
    exists_ok_of_isSome (by decide +kernel)
  obtain ⟨documents, hdocuments⟩ : ∃ documents,
      Interchange.render bankTree ⟨false, SortedMap.empty⟩ = .ok documents :=
    exists_ok_of_isSome (by decide +kernel)
  obtain ⟨inner, inner', inner''⟩ := render_isInner bankTree ⟨false, SortedMap.empty⟩
  have hreachable : bankTree.Reachable := .load load_bank
  exact ⟨inCrate, inPackage, documents, hcrate, inner inCrate hcrate, hpackage,
    inner' inPackage hpackage, hreachable, hdocuments, inner'' hreachable documents hdocuments⟩

/-- A tree with a program whose name leads above. -/
def strayTree : Tree where
  programs := [⟨"../bank", "B", "", [], [], [], [], []⟩]
  sharedTypes := []

/-- **OUTSIDE**: nothing else keeps a document inside; a tree whose program was not let through by
    loading has its document above the directory. -/
theorem exists_outer_document : ∃ documents,
    Interchange.render strayTree ⟨false, SortedMap.empty⟩ = .ok documents ∧ ¬ documents.Inner := by
  obtain ⟨documents, hdocuments, houter⟩ : ∃ documents,
      Interchange.render strayTree ⟨false, SortedMap.empty⟩ = .ok documents
        ∧ decide (documents.checkInner ≠ .ok ()) = true := exists_ok_of_any (by decide +kernel)
  exact ⟨documents, hdocuments, fun hinner =>
    of_decide_eq_true houter (Artifacts.checkInner_eq_ok.mpr hinner)⟩

end Bindery
