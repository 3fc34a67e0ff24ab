import Bindery.Configuration
import Bindery.Proofs.Disk.Permitted
import Bindery.Proofs.Files.Output
import Bindery.Proofs.Reachable
import Bindery.Publication

/-! # Publishing again — what targets render, and why a second run changes nothing

    The files of the crate and of the package are built as planned, so their paths
    are spelled by names, and each of their texts begins with the header that marks
    it as generated (`Modules.render_marked`).  The document has no header and is
    under the name of the primary program, which spells its path as long as it has
    no slash (`Tree.WellFormed.documentName_ordinary`).

    Where no formatter runs, a publication succeeds when its tree is rendered and
    the files are written (`Publication.run_eq_ok`).  What a reachable tree is
    rendered to has spelled paths, for every target; so behind a publication of the
    tree all files are as another would write them, and nothing is stale
    (`Publication.run_again`). -/

namespace Bindery

open Artifacts (Spelled)

variable {tree : Tree} {options : RenderOptions} {artifacts : Artifacts}

/-! ## Marks -/

/-- A text is marked when its first line says so. -/
theorem isGenerated_of_firstLine {text : String} {line rest : List Char}
    (htext : text.toList = line ++ '\n' :: rest) (hline : '\n' ∉ line)
    (hmarked : occursIn generatedMarker.toList (Text.dropReturn line) = true) :
    isGenerated text = true := by
  obtain ⟨others, hlines⟩ : ∃ others,
      Text.lines text = String.ofList (Text.dropReturn line) :: others := by
    unfold Text.lines
    dsimp only
    rw [htext, Text.splitAt_append hline, List.dropLast_cons_of_ne_nil (Text.splitAt_ne_nil _ _)]
    split
    · exact ⟨_, rfl⟩
    · exact ⟨_, rfl⟩
  rw [isGenerated, hlines, List.take_succ_cons, List.any_cons, String.toList_ofList, hmarked,
    Bool.true_or]

/-- What begins with the header is marked. -/
theorem isGenerated_header (rest : String) : isGenerated (header "//" ++ rest) = true := by
  -- behind the first line there are others
  have hfirst : ∃ behind, (header "//" ++ rest).toList
      = ("//".toList ++ " ".toList ++ generatedMarker.toList) ++ '\n' :: behind := by
    rw [String.toList_append, header, String.toList_join, List.map_cons, List.flatMap_cons,
      String.toList_append, String.toList_append, String.toList_append,
      show "\n".toList = ['\n'] from rfl, List.append_assoc, List.append_assoc]
    exact ⟨_, rfl⟩
  obtain ⟨behind, hbehind⟩ := hfirst
  exact isGenerated_of_firstLine hbehind (by decide) (by decide)

/-- Lines have characters of the text only. -/
theorem Text.mem_of_mem_lines {text line : String} {c : Char} (h : line ∈ lines text)
    (hc : c ∈ line.toList) : c ∈ text.toList := by
  obtain ⟨chars, hchars, rfl⟩ := List.mem_map.mp h
  rw [String.toList_ofList] at hc
  have hended : ∀ {cs}, cs ∈ ((splitAt '\n' text.toList).dropLast.map dropReturn) → c ∈ cs →
      c ∈ text.toList := by
    intro cs hcs hc
    obtain ⟨piece, hpiece, rfl⟩ := List.mem_map.mp hcs
    refine mem_of_mem_splitAt (List.dropLast_subset _ hpiece) ?_
    unfold dropReturn at hc
    split at hc
    · exact List.dropLast_subset _ hc
    · exact hc
  split at hchars
  · exact hended hchars hc
  · rcases List.mem_append.mp hchars with hmem | hmem
    · exact hended hmem hc
    · obtain rfl := List.mem_singleton.mp hmem
      cases hlast : (splitAt '\n' text.toList).getLast? with
      | none =>
          rw [hlast] at hc
          exact absurd hc List.not_mem_nil
      | some last =>
          rw [hlast] at hc
          exact mem_of_mem_splitAt (List.mem_of_getLast? hlast) hc

/-- What occurs in a text has its characters from there. -/
theorem occursIn_eq_false {needle text : List Char} {c : Char} (hc : c ∈ needle) (h : c ∉ text) :
    occursIn needle text = false := by
  induction text with
  | nil => exact List.isEmpty_eq_false_iff_exists_mem.mpr ⟨c, hc⟩
  | cons first rest ih =>
      rw [occursIn, ih (List.not_mem_of_not_mem_cons h), Bool.or_false]
      refine Bool.eq_false_iff.mpr fun hprefix => h ?_
      exact (List.isPrefixOf_iff_prefix.mp hprefix).subset hc

/-- A text without one of the characters of the mark is not marked. -/
theorem isGenerated_eq_false {text : String} {c : Char} (hc : c ∈ generatedMarker.toList)
    (h : c ∉ text.toList) : isGenerated text = false := by
  refine Bool.eq_false_iff.mpr fun hmarked => ?_
  obtain ⟨line, hline, hoccurs⟩ := List.any_eq_true.mp hmarked
  exact Bool.eq_false_iff.mp (occursIn_eq_false hc fun hmem =>
    h (Text.mem_of_mem_lines (List.mem_of_mem_take hline) hmem)) hoccurs

/-! ## The crate and the package -/

/-- Files that are all marked as generated. -/
def Artifacts.Marked (files : List (String × String)) : Prop :=
  ∀ file ∈ files, isGenerated file.2 = true

/-- Modules that are built as planned and have marked texts become spelled and marked files. -/
theorem Modules.render_marked {M : Type} {target : Modules M} (hr : target.Regular)
    {files : List (ModuleFile M)} (h : target.files tree = .ok files) {textOf : M → String}
    (hmarked : ∀ module, isGenerated (textOf module) = true) :
    Spelled (files.map (ModuleFile.written textOf))
      ∧ Artifacts.Marked (files.map (ModuleFile.written textOf)) := by
  refine ⟨List.forall_mem_map.mpr fun file hfile => ?_,
    List.forall_mem_map.mpr fun file _ => hmarked file.module⟩
  obtain ⟨planned, -, hbuilt⟩ := exists_of_forall₂_right (Modules.files_builtAs hr h) hfile
  exact ⟨planned.names, hbuilt.path⟩

/-- **MARKED**: whatever tree the crate or the package is rendered from, the paths of the files are
    spelled by names, and all of the files are marked as generated. -/
theorem Target.render_marked {target : Target} (htarget : target ≠ .interchange)
    (h : target.render tree options = .ok artifacts) :
    ∃ files, artifacts = Artifacts.ofFiles files ∧ Spelled files ∧ Artifacts.Marked files := by
  cases target with
  | crate =>
      obtain ⟨mount, files, -, hfiles, rfl⟩ := Crate.render_eq_ok h
      refine ⟨_, rfl, Modules.render_marked (Crate.modules_regular _) hfiles fun module => ?_⟩
      rw [Crate.textOf, String.append_assoc]
      exact isGenerated_header _
  | package =>
      obtain ⟨files, hfiles, rfl⟩ := Package.render_eq_ok h
      refine ⟨_, rfl, Modules.render_marked (Package.modules_regular _) hfiles fun module => ?_⟩
      rw [Package.textOf, String.append_assoc]
      exact isGenerated_header _
  | interchange => exact absurd rfl htarget

/-! ## The document -/

/-- The name of the document of a program. -/
def Program.documentName (program : Program) : String := program.name ++ ".json"

/-- The files of the document of a tree: one for the primary program, if there is any. -/
theorem Interchange.render_eq_ok (h : Interchange.render tree options = .ok artifacts) :
    (tree.primary? = none ∧ artifacts = Artifacts.ofFiles [])
      ∨ ∃ primary text, tree.primary? = some primary
        ∧ artifacts = Artifacts.ofFiles [(primary.documentName, text)] := by
  obtain ⟨-, -, h⟩ := bind_eq_ok.mp h
  cases hprimary : tree.primary? with
  | none =>
      simp only [hprimary] at h
      exact .inl ⟨rfl, (pure_eq_ok.mp h).symm⟩
  | some primary =>
      simp only [hprimary] at h
      obtain ⟨document, -, h⟩ := bind_eq_ok.mp h
      exact .inr ⟨primary, _, rfl, (pure_eq_ok.mp h).symm⟩

/-- The name of a program of a well-formed tree spells the path of its document. -/
theorem Tree.WellFormed.documentName_ordinary (hw : tree.WellFormed) {program : Program}
    (hmem : program ∈ tree.programs) : FilePath.Ordinary program.documentName := by
  have hvalid := hw.programs.valid program.name (List.mem_map_of_mem hmem)
  exact FilePath.ordinary_ending hvalid.2 ⟨by decide, by decide, by decide⟩

/-- **SPELLED**: the paths of all that a reachable tree is rendered to are spelled by names. -/
theorem Target.render_spelled {target : Target} (hr : tree.Reachable)
    (h : target.render tree options = .ok artifacts) :
    ∃ files, artifacts = Artifacts.ofFiles files ∧ Spelled files := by
  by_cases htarget : target = .interchange
  · subst htarget
    rcases Interchange.render_eq_ok h with ⟨-, rfl⟩ | ⟨primary, text, hprimary, rfl⟩
    · exact ⟨[], rfl, List.forall_mem_nil _⟩
    · have hmem := List.mem_of_mem_head? (Option.mem_def.mpr hprimary)
      exact ⟨_, rfl, List.forall_mem_singleton.mpr
        ⟨_, (hr.wellFormed.documentName_ordinary hmem).spells⟩⟩
  · obtain ⟨files, hfiles, hspelled, -⟩ := Target.render_marked htarget h
    exact ⟨files, hfiles, hspelled⟩

end Bindery

/-! ## A second run -/

namespace Bindery

open Store (perform_bind_eq_ok perform_lift_eq_ok perform_bind_of_error)

namespace Publication

variable {publication : Publication} {tree : Tree} {store next : Store} {changes : Changes}

/-- Without a formatter the files are written, and that is all. -/
theorem run_of_unformatted {m : Type → Type} [Monad m] [LawfulMonad m] [FileSystem m] [Programs m]
    (hformat : publication.formatter = .ok []) : publication.run (m := m) tree
      = ((liftM (publication.target.render tree publication.options) :
          ExceptT RenderError m Artifacts) >>= fun files => files.write publication.output) := by
  unfold run
  refine bind_congr fun files => ?_
  have hnone : (liftM publication.formatter : ExceptT RenderError m (List String)) = pure [] := by
    rw [hformat]
    rfl
  have hidle : format (m := m) publication.output [] = pure () := rfl
  simp only [hnone, pure_bind, hidle, bind_pure]

section Stores

variable [Programs (StateM Store)]

/-- A tree that is not rendered leaves the store as it is. -/
theorem run_of_render_error {e : RenderError}
    (h : publication.target.render tree publication.options = .error e) :
    store.perform (publication.run tree) = (.error e, store) := by
  unfold run
  exact perform_bind_of_error (congrArg (·, store) h)

/-- Without a formatter a publication succeeds when its files are written. -/
theorem run_eq_ok (hformat : publication.formatter = .ok []) :
    store.perform (publication.run tree) = (.ok changes, next)
      ↔ ∃ files, publication.target.render tree publication.options = .ok files
        ∧ store.perform (files.write publication.output) = (.ok changes, next) := by
  rw [run_of_unformatted hformat, perform_bind_eq_ok]
  refine exists_congr fun files => ⟨fun ⟨same, hlifted, hwrite⟩ => ?_, fun ⟨hrender, hwrite⟩ =>
    ⟨store, perform_lift_eq_ok.mpr ⟨hrender, rfl⟩, hwrite⟩⟩
  obtain ⟨hrender, rfl⟩ := perform_lift_eq_ok.mp hlifted
  exact ⟨hrender, hwrite⟩

end Stores

/-- **A SECOND RUN**, under the same permissions and behind a publication of a reachable tree that
    succeeded, succeeds too, where no file by a link is two of those that are rendered, with
    different texts: it removes nothing and leaves all files as they are, writes those that are
    rendered and may not be read once more, and reports the others as unchanged. -/
theorem run_again {permissions : Permissions} [Programs (Guarded permissions.guard)]
    {artifacts : Artifacts} (hr : tree.Reachable) (hformat : publication.formatter = .ok [])
    (hrender : publication.target.render tree publication.options = .ok artifacts)
    (hstore : store.Consistent)
    (hagree : ∀ base, next.locate publication.output = .ok base → artifacts.Agree store base)
    (h : permissions.guard.perform (publication.run tree) (store, ()) = (.ok changes, next, ())) :
    permissions.guard.perform (publication.run tree) (next, ())
      = (.ok ⟨(artifacts.files.filter (permissions.hides publication.output)).map (·.path),
        (artifacts.files.filter (!permissions.hides publication.output ·)).map (·.path), []⟩,
        next, ()) := by
  rw [run_of_unformatted hformat] at h ⊢
  obtain ⟨same, asked, hlifted, hwrite⟩ := Guard.perform_bind_eq_ok.mp h
  obtain ⟨hsame, rfl⟩ := Prod.mk.inj hlifted
  obtain rfl := Except.ok.inj (hrender.symm.trans hsame)
  obtain ⟨files, rfl, hspelled⟩ := Target.render_spelled hr hrender
  refine Guard.perform_bind_eq_ok.mpr ⟨_, (next, ()), congrArg (·, next, ()) hrender, ?_⟩
  exact hspelled.write_again hstore hagree hwrite

/-- A machine on which no program is installed. -/
@[reducible] def bare {m : Type → Type} [Monad m] : Programs m where
  run _ _ := throw .notFound

attribute [local instance] bare

/-- The crate in a directory, as it is rendered. -/
def crateOut : Publication := ⟨.crate, "out", ⟨false, SortedMap.empty⟩⟩

/-- The package in it. -/
def packageOut : Publication := ⟨.package, "out", ⟨false, SortedMap.empty⟩⟩

/-- A directory with an outdated module, which is a file outside as well, a stale one, bytes that are
    no text, and notes. -/
def desk : Store where
  entries := ⟨[(["work"], .folder), (["work", "out"], .folder),
    (["work", "out", "accounts"], .folder),
    (["work", "out", "accounts", "vault.rs"], .file (.text "// outdated")),
    (["work", "out", "image.png"], .file (.binary [137, 80])),
    (["work", "out", "notes.md"], .file (.text "by hand")),
    (["work", "out", "old.rs"],
      .file (.text "// This code was AUTOGENERATED using the idlforge library.\n")),
    (["work", "vault.rs"], .file (.text "// outdated"))],
    by decide⟩
  workingFolder := ["work"]
  numbers := ⟨[(["work", "out", "accounts", "vault.rs"], 0), (["work", "vault.rs"], 0)],
    by decide⟩

/-- A system that permits everything but to read one file. -/
def sealing (path : String) : Permissions where
  refuses request := if request = .read path then some .permissionDenied else none
  shown _ _ := rfl

/-- The accounts of two modules with one file, rendered to a crate in that directory, of whose files
    one may not be read. -/
theorem run_again_vaults : ∃ changes next,
    (sealing "out/programs.rs").guard.perform
        (run vaultsTree crateOut) (desk, ())
      = (.ok changes, next, ())
      ∧ changes.removed = ["old.rs"]
      ∧ (sealing "out/programs.rs").guard.perform
          (run vaultsTree crateOut) (next, ())
        = (.ok ⟨["programs.rs"], ["accounts/mod.rs", "accounts/vault.rs", "mod.rs"], []⟩,
          next, ()) := by
  obtain ⟨artifacts, hrender, hchecks⟩ := exists_ok_of_any
    (show (crateOut.target.render vaultsTree crateOut.options).toOption.any (fun artifacts =>
        decide ((artifacts.files.filter ((sealing "out/programs.rs").hides crateOut.output)).map
          (·.path) = ["programs.rs"])
        && decide ((artifacts.files.filter (!(sealing "out/programs.rs").hides crateOut.output ·)).map
          (·.path) = ["accounts/mod.rs", "accounts/vault.rs", "mod.rs"])
        && decide (artifacts.Agree desk ["work", "out"])) = true by decide +kernel)
  rw [Bool.and_eq_true, Bool.and_eq_true, decide_eq_true_iff, decide_eq_true_iff,
    decide_eq_true_iff] at hchecks
  obtain ⟨⟨hhidden, hshown⟩, hagree⟩ := hchecks
  have hends : ((sealing "out/programs.rs").guard.perform
        (run vaultsTree crateOut) (desk, ())).1.toOption.any
          (fun changes => decide (changes.removed = ["old.rs"])) = true
      ∧ Store.locate ((sealing "out/programs.rs").guard.perform
        (run vaultsTree crateOut) (desk, ())).2.1 "out"
          = .ok ["work", "out"] := by decide +kernel
  obtain ⟨changes, hchanges, hremoved⟩ := exists_ok_of_any hends.1
  obtain ⟨next, hrun⟩ := Permissions.perform_eq_of_fst hchanges
  rw [hrun] at hends
  have hagain := run_again (.load load_vaults) rfl hrender (by decide) (fun base hbase => by
    obtain rfl := Except.ok.inj (hends.2.symm.trans hbase)
    exact hagree) hrun
  rw [hhidden, hshown] at hagain
  exact ⟨changes, next, hrun, of_decide_eq_true hremoved, hagain⟩

/-- A directory in which two files of the package of that tree are one file. -/
def linkedDesk : Store where
  entries := ⟨[(["work"], .folder), (["work", "out"], .folder),
    (["work", "out", "index.ts"], .file (.text "")),
    (["work", "out", "programs.ts"], .file (.text ""))], by decide⟩
  workingFolder := ["work"]
  numbers := ⟨[(["work", "out", "index.ts"], 0), (["work", "out", "programs.ts"], 0)],
    by decide⟩

/-- **WRITTEN AGAIN**: a second run over a tree that was loaded writes the files of a package once
    more when a link makes them one file, and one of them when it may not be read. -/
theorem exists_written_again :
    vaultsTree.Reachable ∧
      (∃ changes next last,
        linkedDesk.perform (run vaultsTree packageOut) = (.ok changes, next)
        ∧ next.perform (run vaultsTree packageOut)
          = (.ok ⟨["index.ts", "programs.ts"], ["accounts/index.ts", "accounts/vault.ts"], []⟩,
            last))
      ∧ ∃ changes next last,
        (sealing "out/index.ts").guard.perform (run vaultsTree packageOut) (desk, ())
          = (.ok changes, next, ())
        ∧ (sealing "out/index.ts").guard.perform (run vaultsTree packageOut) (next, ())
          = (.ok ⟨["index.ts"], ["accounts/index.ts", "accounts/vault.ts", "programs.ts"], []⟩,
            last, ()) := by
  refine ⟨.load load_vaults, ?links, ?permissions⟩
  case links =>
    have hends : (linkedDesk.perform (run vaultsTree packageOut)).1.toOption.isSome = true
        ∧ ((linkedDesk.perform (run vaultsTree packageOut)).2.perform
            (run vaultsTree packageOut)).1.toOption
          = some ⟨["index.ts", "programs.ts"], ["accounts/index.ts", "accounts/vault.ts"], []⟩ := by
      decide +kernel
    obtain ⟨changes, hchanges⟩ := Option.isSome_iff_exists.mp hends.1
    obtain ⟨next, hfirst⟩ := Store.perform_eq_of_fst (toOption_eq_some.mp hchanges)
    rw [hfirst] at hends
    obtain ⟨last, hsecond⟩ := Store.perform_eq_of_fst (toOption_eq_some.mp hends.2)
    exact ⟨changes, next, last, hfirst, hsecond⟩
  case permissions =>
    have hends : ((sealing "out/index.ts").guard.perform
          (run vaultsTree packageOut) (desk, ())).1.toOption.isSome = true
        ∧ ((sealing "out/index.ts").guard.perform (run vaultsTree packageOut)
            ((sealing "out/index.ts").guard.perform
              (run vaultsTree packageOut) (desk, ())).2).1.toOption
          = some ⟨["index.ts"],
            ["accounts/index.ts", "accounts/vault.ts", "programs.ts"], []⟩ := by decide +kernel
    obtain ⟨changes, hchanges⟩ := Option.isSome_iff_exists.mp hends.1
    obtain ⟨next, hfirst⟩ := Permissions.perform_eq_of_fst (toOption_eq_some.mp hchanges)
    rw [hfirst] at hends
    obtain ⟨last, hsecond⟩ := Permissions.perform_eq_of_fst (toOption_eq_some.mp hends.2)
    exact ⟨changes, next, last, hfirst, hsecond⟩

end Publication

end Bindery
