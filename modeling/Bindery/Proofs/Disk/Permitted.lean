import Bindery.Proofs.Disk.Left
import Bindery.Proofs.Disk.Spared

/-! # A second write — what is left to do under the same permissions

    A system may refuse to read a file or to look into a directory.  What it
    permits does not change by itself (`Permissions`), so that a write which has
    succeeded was permitted all that it asked for, and would be once more.

    Behind such a write every file of the set has its text
    (`Permissions.of_writeFiles`), unless a link makes it one file with another
    that has a different text, of which only the later one can be there
    (`Artifacts.Agree`); and no file is found that would be removed
    (`Permissions.of_removeStale`).  So a second write leaves all files as they are
    (`Artifacts.Spelled.write_again`).  It cannot tell so of a file that it may not
    read, and writes this one again with the text that it has. -/

namespace Bindery

/-! ## Permissions -/

/-- What a system does not permit, whenever it is asked for.  Where a directory may be made, it may be
    looked at. -/
structure Permissions where
  refuses : Request → Option FileFault
  shown : ∀ path, refuses (.makeFolder path) = none → refuses (.kind path) = none

namespace Permissions

/-- The guard that refuses what is not permitted, and nothing else. -/
def guard (permissions : Permissions) : Guard Unit where
  judge request _ := ((permissions.refuses request).map (⟨·, none⟩), ())

/-- A system that permits everything. -/
def all : Permissions where
  refuses _ := none
  shown _ _ := rfl

/-- The text of a file, if it may and can be read. -/
def text? (permissions : Permissions) (store : Store) (path : String) : Option String :=
  match permissions.refuses (.read path) with
  | some _ => none
  | none => (store.read path).toOption

/-- Whether a file may not be read. -/
def hides (permissions : Permissions) (output : String) (file : Artifact) : Bool :=
  (permissions.refuses (.read (FilePath.join output file.path))).isSome

variable {ε α : Type} {permissions : Permissions} {store next : Store} {path output : String}
  {base : Location} {request : Request}

theorem text?_eq_some {text : String} : permissions.text? store path = some text
    ↔ permissions.refuses (.read path) = none ∧ store.read path = .ok text := by
  unfold text?
  split
  · rename_i hrefused
    exact iff_of_false nofun fun h => by rw [hrefused] at h; exact nomatch h.1
  · rename_i hpermitted
    rw [toOption_eq_some]
    exact (and_iff_right hpermitted).symm

theorem judge_eq_none {state : Store × Unit} :
    (permissions.guard.judge request state).1 = none ↔ permissions.refuses request = none :=
  Option.map_eq_none_iff

/-- Work with a result comes to it and to some store. -/
theorem perform_eq_of_fst {work : ExceptT ε (Guarded permissions.guard) α} {result : Except ε α}
    {state : Store × Unit} (h : (permissions.guard.perform work state).1 = result) :
    ∃ last, permissions.guard.perform work state = (result, last, ()) :=
  ⟨_, Prod.ext h rfl⟩

/-- What is permitted is done. -/
theorem perform_passOr (failed : Failure → Store → Store) (work : ExceptT FileFault (StateM Store) α)
    (h : permissions.refuses request = none) :
    permissions.guard.perform (permissions.guard.passOr failed request work) (store, ())
      = ((store.perform work).1, (store.perform work).2, ()) := by
  unfold Guard.perform Guard.passOr guard
  simp only [ExceptT.run, ExceptT.mk, h, Option.map_none]

/-- What is not permitted changes nothing. -/
theorem perform_pass_of_refused (work : ExceptT FileFault (StateM Store) α) {fault : FileFault}
    (h : permissions.refuses request = some fault) :
    permissions.guard.perform (permissions.guard.pass request work) (store, ())
      = (.error fault, store, ()) := by
  unfold Guard.perform Guard.pass Guard.passOr guard
  simp only [ExceptT.run, ExceptT.mk, h, Option.map_some]

theorem perform_readable (path : String) : permissions.guard.perform
      (liftM (readable? (m := Guarded permissions.guard) path) :
        ExceptT ε (Guarded permissions.guard) (Option String)) (store, ())
      = (.ok (permissions.text? store path), store, ()) := by
  rw [Guard.perform_readable]
  have hread : permissions.guard.perform (FileSystem.read path) (store, ())
      = permissions.guard.perform
        (permissions.guard.passOr (fun _ store => store) (.read path) (Store.ask (·.read path)))
        (store, ()) := rfl
  rw [hread]
  unfold text?
  cases hrefuses : permissions.refuses (.read path) with
  | none =>
      rw [perform_passOr _ _ hrefuses]
      rfl
  | some fault =>
      rw [perform_pass_of_refused _ hrefuses]
      rfl

/-! ## Directories that are there -/

/-- A directory that could be made, or was there, may be looked at. -/
theorem kind_of_ensureFolder {state last : Store × Unit}
    (h : permissions.guard.perform (permissions.guard.ensureFolder path) state = (.ok (), last)) :
    permissions.refuses (.kind path) = none := by
  rw [Guard.ensureFolder, Guard.perform_tryCatch] at h
  split at h
  · rename_i made next hmake
    rcases Guard.cases_of_passOr hmake with ⟨hjudge, -⟩ | ⟨failure, hfailed, -⟩
    · exact permissions.shown path (judge_eq_none.mp hjudge)
    · cases hfailed
  · obtain ⟨seen, asked, hsees, h⟩ := Guard.perform_bind_eq_ok.mp h
    cases seen with
    | false => cases (Prod.mk.inj h).1
    | true =>
        rw [Guard.seesFolder, Guard.perform_tryCatch] at hsees
        split at hsees
        · rename_i hasked
          exact judge_eq_none.mp ((Guard.of_ask hasked).2 _ rfl).2
        · cases Except.ok.inj (Prod.mk.inj hsees).1

/-- So may the last one of those that were made on the way to it. -/
theorem kind_of_createFolders {state last : Store × Unit} (hpath : path ≠ "")
    (h : permissions.guard.perform (FileSystem.createFolders path) state = (.ok (), last)) :
    permissions.refuses (.kind path) = none := by
  have h : permissions.guard.perform (permissions.guard.createFoldersUpTo (path.length + 1) path) state
    = (.ok (), last) := h
  rw [Guard.createFoldersUpTo, if_neg hpath, Guard.perform_tryCatch] at h
  split at h
  · rename_i hensure
    exact kind_of_ensureFolder hensure
  · split at h
    · obtain ⟨_, middle, -, hensure⟩ := Guard.perform_bind_eq_ok.mp h
      exact kind_of_ensureFolder hensure
    · cases (Prod.mk.inj h).1

/-- A directory that is there, and may be looked at, is left as it is. -/
theorem perform_createFolders_of_folder (hkind : permissions.refuses (.kind path) = none)
    (hbase : store.locate path = .ok base) (hfolder : store.entry? base = some .folder) :
    permissions.guard.perform (FileSystem.createFolders path) (store, ()) = (.ok (), store, ()) := by
  have hpath : path ≠ "" := (Store.checkPath_eq_ok.mp (Store.checkPath_of_locate hbase)).2.1
  -- it cannot be made once more, whether or not this is permitted
  have hmake : ∃ fault, permissions.guard.perform
      (permissions.guard.pass (.makeFolder path) (Store.attempt (·.makeFolder path))) (store, ())
        = (.error fault, store, ()) := by
    cases hrefuses : permissions.refuses (.makeFolder path) with
    | some fault => exact ⟨fault, perform_pass_of_refused _ hrefuses⟩
    | none =>
        rw [perform_passOr _ _ hrefuses]
        cases hmade : store.makeFolder path with
        | error fault => exact ⟨fault, by rw [Store.perform_attempt_of_error (·.makeFolder path) hmade]⟩
        | ok next =>
            obtain ⟨folder, name, hlocate, -, -, hnew, -⟩ := Store.of_makeFolder_eq_ok hmade
            obtain rfl := Except.ok.inj (hbase.symm.trans hlocate)
            rw [hfolder] at hnew
            exact nomatch hnew
  obtain ⟨fault, hmake⟩ := hmake
  have hisFolder : store.isFolder path = true := by
    rw [Store.isFolder, Store.find_of_folder hbase hfolder]
  have hsees : permissions.guard.perform (permissions.guard.seesFolder path) (store, ())
      = (.ok true, store, ()) := by
    rw [Guard.seesFolder, Guard.perform_tryCatch, perform_passOr _ _ hkind, ← hisFolder]
    rfl
  have hensure : permissions.guard.perform (permissions.guard.ensureFolder path) (store, ())
      = (.ok (), store, ()) := by
    rw [Guard.ensureFolder, Guard.perform_tryCatch, hmake]
    exact Guard.perform_bind_eq_ok.mpr ⟨true, _, hsees, rfl⟩
  show permissions.guard.perform (permissions.guard.createFoldersUpTo (path.length + 1) path) _ = _
  rw [Guard.createFoldersUpTo, if_neg hpath, Guard.perform_tryCatch, hensure]

/-! ## Files that are written once more -/

section Write

variable {file : Artifact} {files : List Artifact} {wrote : Bool}

/-- A file is left alone that has its text already; any other is written, once there is a directory
    for it. -/
theorem cases_of_write
    (h : permissions.guard.perform (file.write output) (store, ()) = (.ok wrote, next, ())) :
    (permissions.text? store (FilePath.join output file.path) = some file.contents ∧ next = store)
      ∨ permissions.text? store (FilePath.join output file.path) ≠ some file.contents
        ∧ permissions.refuses (.write (FilePath.join output file.path)) = none
        ∧ ∃ middle, store.Adds middle
          ∧ middle.write (FilePath.join output file.path) (.text file.contents) = .ok next
          ∧ ∀ folder, FilePath.parent? (FilePath.join output file.path) = some folder → folder ≠ "" →
            permissions.refuses (.kind folder) = none
              ∧ ∃ base, middle.locate folder = .ok base ∧ middle.entry? base = some .folder := by
  unfold Artifact.write at h
  dsimp only at h
  obtain ⟨found, asked, hread, h⟩ := Guard.perform_bind_eq_ok.mp h
  rw [perform_readable] at hread
  obtain ⟨hfound, rfl⟩ := Prod.mk.inj hread
  obtain rfl := Except.ok.inj hfound
  split at h
  · rename_i hsame
    exact .inl ⟨hsame, congrArg Prod.fst (Prod.mk.inj h).2.symm⟩
  · rename_i hdiffers
    have hwritten : ∀ {middle : Store},
        permissions.guard.perform (do
          (FileSystem.write (FilePath.join output file.path) file.contents).adapt
            (RenderError.unwritable (FilePath.join output file.path))
          return true) (middle, ()) = (.ok wrote, next, ()) →
        permissions.refuses (.write (FilePath.join output file.path)) = none
          ∧ middle.write (FilePath.join output file.path) (.text file.contents) = .ok next := by
      intro middle h
      obtain ⟨done, last, hwrite, h⟩ := Guard.perform_bind_eq_ok.mp h
      obtain rfl : last = (next, ()) := (Prod.mk.inj h).2
      rcases Guard.cases_of_passOr (Guard.perform_adapt_eq_ok.mp hwrite) with
        ⟨hjudge, hdone⟩ | ⟨failure, hfailed, -⟩
      · exact ⟨judge_eq_none.mp hjudge, Store.perform_attempt_eq_ok.mp hdone⟩
      · exact nomatch hfailed
    refine .inr ⟨hdiffers, ?_⟩
    split at h
    · rename_i folder hparent
      obtain ⟨⟨⟩, ⟨middle, ⟨⟩⟩, hmade, h⟩ := Guard.perform_bind_eq_ok.mp h
      have hmade := Guard.perform_adapt_eq_ok.mp hmade
      obtain ⟨hadds, hfolder⟩ := Guard.of_createFolders hmade
      obtain ⟨hpermitted, hwrite⟩ := hwritten h
      refine ⟨hpermitted, middle, hadds, hwrite, fun other hother hne => ?_⟩
      obtain rfl := Option.some.inj (hparent.symm.trans hother)
      exact ⟨kind_of_createFolders hne hmade, hfolder rfl hne⟩
    · rename_i hroot
      obtain ⟨hpermitted, hwrite⟩ := hwritten h
      exact ⟨hpermitted, store, .refl _, hwrite, fun other hother =>
        absurd hother (hroot other)⟩

/-- A file that has been written has its text, and others keep theirs that are no links to it. -/
theorem file?_of_write (hstore : store.Consistent) (houtput : output ≠ "")
    (hinner : FilePath.isInner file.path = true) (hbase : store.locate output = .ok base)
    (h : permissions.guard.perform (file.write output) (store, ()) = (.ok wrote, next, ())) :
    next.file? (base ++ file.names) = some (.text file.contents)
      ∧ ∀ location contents, store.file? location = some contents →
        (store.SameFile (base ++ file.names) location → contents = .text file.contents) →
          next.file? location = some contents := by
  rcases cases_of_write h with ⟨htext, rfl⟩ | ⟨-, -, middle, hadds, hwrite, -⟩
  · obtain ⟨location, hlocate, hfile, -⟩ := Store.read_eq_ok.mp (text?_eq_some.mp htext).2
    obtain rfl := Store.eq_of_locate_join houtput hinner hbase hlocate
    exact ⟨hfile, fun _ _ hother _ => hother⟩
  · obtain ⟨folder, name, hlocate, -, -, -, -, -, hover, rfl⟩ := Store.of_write_eq_ok hwrite
    have hlocation := Store.eq_of_locate_join houtput hinner (hadds.keeps.locate hbase) hlocate
    have hfilled := fun location => @Store.Consistent.file?_fill _ _ (.text file.contents)
      (hadds.consistent hstore) hover location
    refine ⟨by rw [hfilled, if_pos (.inl hlocation.symm)], fun location contents hother hsame => ?_⟩
    rw [hfilled]
    split
    · rename_i hshared
      rw [hlocation, Store.SameFile, hadds.numbers] at hshared
      rw [hsame hshared]
    · rw [hadds.files, hother]

/-- **ONCE MORE**: a file that has been written is left alone later on if it may be read, and else
    written again with the text that it has. -/
theorem perform_write_again {later : Store} (hstore : store.Consistent) (houtput : output ≠ "")
    (hinner : FilePath.isInner file.path = true)
    (h : permissions.guard.perform (file.write output) (store, ()) = (.ok wrote, next, ()))
    (hkeeps : next.KeepsFolders later) (hlater : later.Consistent)
    (hbase : later.locate output = .ok base)
    (hfile : later.file? (base ++ file.names) = some (.text file.contents)) :
    permissions.guard.perform (file.write output) (later, ())
      = (.ok (permissions.hides output file), later, ()) := by
  -- the path leads to the file, and says that it is one
  have hpath : ∃ location, later.locate (FilePath.join output file.path) = .ok location
      ∧ Store.endsInSlash (FilePath.join output file.path) = false := by
    rcases cases_of_write h with ⟨htext, rfl⟩ | ⟨-, -, middle, hadds, hwrite, -⟩
    · obtain ⟨location, hlocate, -, hslash⟩ := Store.read_eq_ok.mp (text?_eq_some.mp htext).2
      exact ⟨location, hkeeps.locate hlocate, hslash⟩
    · obtain ⟨folder, name, hlocate, -, -, -, -, hslash, -, -⟩ := Store.of_write_eq_ok hwrite
      have hwritten := (hadds.consistent hstore).keepsFolders_of_write hwrite
      exact ⟨_, (hwritten.trans hkeeps).locate hlocate, hslash⟩
  obtain ⟨location, hlocate, hslash⟩ := hpath
  obtain rfl := Store.eq_of_locate_join houtput hinner hbase hlocate
  have hread : later.read (FilePath.join output file.path) = .ok file.contents :=
    Store.read_eq_ok.mpr ⟨_, hlocate, hfile, hslash⟩
  unfold Artifact.write
  refine Guard.perform_bind_eq_ok.mpr ⟨_, _, perform_readable _, ?_⟩
  cases hrefuses : permissions.refuses (.read (FilePath.join output file.path)) with
  | none =>
      rw [if_pos (text?_eq_some.mpr ⟨hrefuses, hread⟩), hides, hrefuses]
      rfl
  | some fault =>
      have hunread : ∀ {store : Store},
          permissions.text? store (FilePath.join output file.path) ≠ some file.contents := by
        intro store htext
        rw [(text?_eq_some.mp htext).1] at hrefuses
        exact nomatch hrefuses
      rw [if_neg hunread, hides, hrefuses]
      obtain ⟨-, hpermitted, middle, hadds, hwrite, hfolders⟩ :=
        (cases_of_write h).resolve_left fun hsame => hunread hsame.1
      obtain ⟨folder, name, hplace, -⟩ := Store.of_write_eq_ok hwrite
      have hmiddle := ((hadds.consistent hstore).keepsFolders_of_write hwrite).trans hkeeps
      have hagain : permissions.guard.perform (do
          (FileSystem.write (FilePath.join output file.path) file.contents).adapt
            (RenderError.unwritable (FilePath.join output file.path))
          return true) (later, ()) = (.ok true, later, ()) := by
        refine Guard.perform_bind_eq_ok.mpr ⟨(), (later, ()), Guard.perform_adapt_eq_ok.mpr ?_, rfl⟩
        have hself := hlater.write_eq_self hmiddle hwrite
          (hplace.trans ((hmiddle.locate hplace).symm.trans hlocate)) hfile
        refine (perform_passOr _ _ hpermitted).trans ?_
        rw [show later.perform (FileSystem.write (FilePath.join output file.path) file.contents) = _ from
          Store.perform_attempt_of_ok _ hself]
      split
      · rename_i folder hparent
        by_cases hempty : folder = ""
        · subst hempty
          exact Guard.perform_bind_eq_ok.mpr ⟨(), (later, ()), rfl, hagain⟩
        · obtain ⟨hkind, above, habove, hfolder⟩ := hfolders folder hparent hempty
          exact Guard.perform_bind_eq_ok.mpr ⟨(), (later, ()), Guard.perform_adapt_eq_ok.mpr
            (perform_createFolders_of_folder hkind (hmiddle.locate habove)
              (hmiddle.folders above hfolder)), hagain⟩
      · exact hagain

/-- The first of several files is written, and then the others. -/
theorem exists_of_writeFiles_cons {lists : List String × List String}
    (h : permissions.guard.perform (Artifacts.writeFiles output (file :: files)) (store, ())
      = (.ok lists, next, ())) : ∃ wrote middle rest,
      permissions.guard.perform (file.write output) (store, ()) = (.ok wrote, middle, ())
        ∧ permissions.guard.perform (Artifacts.writeFiles output files) (middle, ())
          = (.ok rest, next, ()) := by
  rw [Artifacts.writeFiles] at h
  obtain ⟨wrote, ⟨middle, ⟨⟩⟩, hwrite, h⟩ := Guard.perform_bind_eq_ok.mp h
  refine ⟨wrote, middle, ?_⟩
  split at h
  all_goals
    obtain ⟨rest, last, hrest, h⟩ := Guard.perform_bind_eq_ok.mp h
    obtain rfl : last = (next, ()) := (Prod.mk.inj h).2
    exact ⟨rest, hwrite, hrest⟩

/-- Files keep their text while others are written that are not the same with another text. -/
theorem file?_kept_of_writeFiles {lists : List String × List String} {location : Location}
    {contents : Contents} (hinner : ∀ file ∈ files, FilePath.isInner file.path = true)
    (houtput : output ≠ "") (hstore : store.Consistent) (hbase : store.locate output = .ok base)
    (hfile : store.file? location = some contents)
    (hsame : ∀ file ∈ files, store.SameFile (base ++ file.names) location →
      contents = .text file.contents)
    (h : permissions.guard.perform (Artifacts.writeFiles output files) (store, ())
      = (.ok lists, next, ())) : next.file? location = some contents := by
  induction files generalizing store lists with
  | nil =>
      obtain rfl : store = next := congrArg Prod.fst (Prod.mk.inj h).2
      exact hfile
  | cons file files ih =>
      obtain ⟨hfirst, hinner⟩ := List.forall_mem_cons.mp hinner
      obtain ⟨hsameFirst, hsame⟩ := List.forall_mem_cons.mp hsame
      obtain ⟨wrote, middle, rest, hwrite, hrest⟩ := exists_of_writeFiles_cons h
      have halters := (Artifact.touches_write hfirst (.inr hbase)).alters hstore hwrite
      have hkept := (file?_of_write hstore houtput hfirst hbase hwrite).2 location contents hfile
        hsameFirst
      exact ih hinner halters.consistent (halters.keeps.locate hbase) hkept
        (fun other hother hshared => hsame other hother (halters.shares _ _ hshared)) hrest

/-- A file that has been written on the way to a store. -/
def Wrote (permissions : Permissions) (output : String) (file : Artifact) (store : Store) : Prop :=
  ∃ before after wrote, before.Consistent
    ∧ permissions.guard.perform (file.write output) (before, ()) = (.ok wrote, after, ())
    ∧ after.KeepsFolders store

/-- **FILES THAT AGREE** wherever they are one have all been written with their texts. -/
theorem of_writeFiles {lists : List String × List String}
    (hinner : ∀ file ∈ files, FilePath.isInner file.path = true)
    (houtput : output ≠ "") (hstore : store.Consistent) (hbase : store.locate output = .ok base)
    (hagree : ∀ file ∈ files, ∀ other ∈ files,
      store.SameFile (base ++ file.names) (base ++ other.names) → file.contents = other.contents)
    (h : permissions.guard.perform (Artifacts.writeFiles output files) (store, ())
      = (.ok lists, next, ())) : store.KeepsFolders next ∧ next.Consistent ∧ ∀ file ∈ files,
      next.file? (base ++ file.names) = some (.text file.contents)
        ∧ permissions.Wrote output file next := by
  induction files generalizing store lists with
  | nil =>
      obtain rfl : store = next := congrArg Prod.fst (Prod.mk.inj h).2
      exact ⟨.refl _, hstore, List.forall_mem_nil _⟩
  | cons file files ih =>
      obtain ⟨hfirst, hinner⟩ := List.forall_mem_cons.mp hinner
      obtain ⟨wrote, middle, rest, hwrite, hrest⟩ := exists_of_writeFiles_cons h
      have halters := (Artifact.touches_write hfirst (.inr hbase)).alters hstore hwrite
      have hmiddleBase := halters.keeps.locate hbase
      obtain ⟨hkeeps, hnext, hfiles⟩ := ih hinner halters.consistent hmiddleBase
        (fun other hother third hthird hsame => hagree other (List.mem_cons_of_mem _ hother) third
          (List.mem_cons_of_mem _ hthird) (halters.shares _ _ hsame)) hrest
      refine ⟨halters.keeps.trans hkeeps, hnext, List.forall_mem_cons.mpr
        ⟨⟨?_, store, middle, wrote, hstore, hwrite, hkeeps⟩, hfiles⟩⟩
      refine file?_kept_of_writeFiles hinner houtput halters.consistent hmiddleBase
        (file?_of_write hstore houtput hfirst hbase hwrite).1 (fun other hother hsame => ?_) hrest
      rw [hagree file List.mem_cons_self other (List.mem_cons_of_mem _ hother)
        (halters.shares _ _ hsame).symm]

/-- Files that are found with their texts are written again where they may not be read. -/
theorem perform_writeFiles_again
    (h : ∀ file ∈ files, permissions.guard.perform (file.write output) (store, ())
      = (.ok (permissions.hides output file), store, ())) :
    permissions.guard.perform (Artifacts.writeFiles output files) (store, ())
      = (.ok ((files.filter (permissions.hides output)).map (·.path),
        (files.filter (!permissions.hides output ·)).map (·.path)), store, ()) := by
  induction files with
  | nil => rfl
  | cons file files ih =>
      obtain ⟨hfile, hrest⟩ := List.forall_mem_cons.mp h
      rw [Artifacts.writeFiles]
      refine Guard.perform_bind_eq_ok.mpr ⟨_, _, hfile, ?_⟩
      have hfiles := ih hrest
      split
      · rename_i hhidden
        rw [List.filter_cons_of_pos hhidden, List.filter_cons_of_neg (by simp [hhidden])]
        exact Guard.perform_bind_eq_ok.mpr ⟨_, _, hfiles, rfl⟩
      · rename_i hread
        rw [List.filter_cons_of_neg hread, List.filter_cons_of_pos (by simp [hread])]
        exact Guard.perform_bind_eq_ok.mpr ⟨_, _, hfiles, rfl⟩

end Write

/-! ## Files that are not removed -/

section Remove

variable {artifacts : Artifacts} {below : List Location} {names : List String}

/-- Whether a file of a directory is none of a set, but may and can be read and is marked as
    generated. -/
def finds (permissions : Permissions) (artifacts : Artifacts) (output : String) (store : Store)
    (names : List String) : Bool :=
  !artifacts.contains (FilePath.steps (Text.joinText '/' names))
    && (permissions.text? store (Artifacts.listedPath output names)).any isGenerated

theorem finds_iff : permissions.finds artifacts output store names = true
    ↔ artifacts.contains (FilePath.steps (Text.joinText '/' names)) = false
      ∧ ∃ text, permissions.text? store (Artifacts.listedPath output names) = some text
        ∧ isGenerated text = true := by
  rw [finds, Bool.and_eq_true_iff, Bool.not_eq_true', Option.any_eq_true]

/-- A store from which files have been taken away that are none of a set. -/
structure Prunes (artifacts : Artifacts) (base : Location) (before after : Store) : Prop where
  keeps : before.KeepsFolders after
  back : after.KeepsFolders before
  consistent : after.Consistent
  files : ∀ location contents, after.file? location = some contents →
    before.file? location = some contents
  kept : ∀ names, artifacts.contains (FilePath.steps (Text.joinText '/' names)) = true →
    after.file? (base ++ names) = before.file? (base ++ names)

theorem Prunes.refl (hstore : store.Consistent) : Prunes artifacts base store store :=
  ⟨.refl _, .refl _, hstore, fun _ _ => id, fun _ _ => rfl⟩

theorem Prunes.trans {last : Store} (h : Prunes artifacts base store next)
    (h' : Prunes artifacts base next last) : Prunes artifacts base store last :=
  ⟨h.keeps.trans h'.keeps, h'.back.trans h.back, h'.consistent, fun location contents hfile =>
    h.files location contents (h'.files location contents hfile), fun names hset =>
    (h'.kept names hset).trans (h.kept names hset)⟩

/-- What is found once files are gone was found before. -/
theorem Prunes.finds (h : Prunes artifacts base store next)
    (hfound : permissions.finds artifacts output next names = true) :
    permissions.finds artifacts output store names = true := by
  obtain ⟨hnew, text, htext, hgenerated⟩ := finds_iff.mp hfound
  obtain ⟨hpermitted, hread⟩ := text?_eq_some.mp htext
  obtain ⟨location, hlocate, hfile, hslash⟩ := Store.read_eq_ok.mp hread
  refine finds_iff.mpr ⟨hnew, text, text?_eq_some.mpr ⟨hpermitted, ?_⟩, hgenerated⟩
  exact Store.read_eq_ok.mpr ⟨location, h.back.locate hlocate, h.files _ _ hfile, hslash⟩

/-- A file that is taken away is none of the set, and is found no more. -/
theorem prunes_of_remove (hstore : store.Consistent) (houtput : output ≠ "")
    (hbase : store.locate output = .ok base) (hne : names ≠ [])
    (hnames : ∀ name ∈ names, Store.ProperName name)
    (hnew : artifacts.contains (FilePath.steps (Text.joinText '/' names)) = false)
    (h : store.remove (Artifacts.listedPath output names) = .ok next) :
    Prunes artifacts base store next ∧ permissions.finds artifacts output next names = false := by
  obtain ⟨location, contents, hlocate, hfile, rfl⟩ := Store.of_remove_eq_ok h
  obtain rfl := Artifacts.eq_of_locate_listedPath houtput hbase hne hnames hlocate
  refine ⟨⟨⟨rfl, fun _ => (Store.folder_without_iff hfile).mpr⟩,
    ⟨rfl, fun _ => (Store.folder_without_iff hfile).mp⟩, hstore.without hfile,
    fun location contents hother => ?_, fun other hset => ?_⟩, Bool.eq_false_iff.mpr fun hfound => ?_⟩
  · rw [Store.file?_without hfile] at hother
    exact (Option.ite_none_left_eq_some.mp hother).2
  · rw [Store.file?_without hfile, if_neg]
    intro heq
    rw [List.append_cancel_left heq, hnew] at hset
    exact nomatch hset
  · obtain ⟨-, text, htext, -⟩ := finds_iff.mp hfound
    obtain ⟨found, hfound, hthere, -⟩ := Store.read_eq_ok.mp (text?_eq_some.mp htext).2
    obtain rfl := Except.ok.inj (((Store.locate_without hfile).mp hfound).symm.trans hlocate)
    rw [Store.file?_without hfile, if_pos rfl] at hthere
    exact nomatch hthere

/-- A request to take a file away that succeeds is done. -/
theorem remove_of_perform
    (h : permissions.guard.perform (FileSystem.remove path) (store, ()) = (.ok (), next, ())) :
    store.remove path = .ok next := by
  have hattempt : permissions.guard.perform
      (permissions.guard.pass (.remove path) (Store.attempt (·.remove path))) (store, ())
        = (.ok (), next, ()) := h
  rcases Guard.cases_of_attempt hattempt with ⟨-, hdone⟩ | ⟨⟨fault, hfailed⟩, -⟩
  · exact hdone
  · exact nomatch hfailed

/-- **NOTHING IS FOUND** among the files of a directory once those that were found are gone. -/
theorem of_removeStale {removed : List String} (houtput : output ≠ "")
    (hproper : ∀ names ∈ below, names ≠ [] ∧ ∀ name ∈ names, Store.ProperName name)
    (hstore : store.Consistent) (hbase : store.locate output = .ok base)
    (h : permissions.guard.perform
      (artifacts.removeStale output (below.map (Text.joinText '/'))) (store, ())
        = (.ok removed, next, ())) :
    Prunes artifacts base store next
      ∧ ∀ names ∈ below, permissions.finds artifacts output next names = false := by
  induction below generalizing store removed with
  | nil =>
      obtain rfl : store = next := congrArg Prod.fst (Prod.mk.inj h).2
      exact ⟨.refl hstore, List.forall_mem_nil _⟩
  | cons names below ih =>
      obtain ⟨⟨hne, hnames⟩, hproper⟩ := List.forall_mem_cons.mp hproper
      -- a file that is not found is passed over, and not found later on
      have hpass : permissions.finds artifacts output store names = false →
          permissions.guard.perform
            (artifacts.removeStale output (below.map (Text.joinText '/'))) (store, ())
              = (.ok removed, next, ()) →
          Prunes artifacts base store next ∧ ∀ other ∈ names :: below,
            permissions.finds artifacts output next other = false := by
        intro hfresh h
        obtain ⟨hprunes, hrest⟩ := ih hproper hstore hbase h
        refine ⟨hprunes, List.forall_mem_cons.mpr ⟨?_, hrest⟩⟩
        exact Bool.eq_false_iff.mpr fun hfound => Bool.eq_false_iff.mp hfresh (hprunes.finds hfound)
      rw [List.map_cons, Artifacts.removeStale] at h
      split at h
      · rename_i hset
        refine hpass (Bool.eq_false_iff.mpr fun hfound => ?_) h
        rw [(finds_iff.mp hfound).1] at hset
        cases hset
      · rename_i hnew
        obtain ⟨found, asked, hread, h⟩ := Guard.perform_bind_eq_ok.mp h
        rw [perform_readable] at hread
        obtain ⟨hfound, rfl⟩ := Prod.mk.inj hread
        obtain rfl := Except.ok.inj hfound
        split at h
        · rename_i hnone
          refine hpass (Bool.eq_false_iff.mpr fun hfound => ?_) h
          obtain ⟨-, text, htext, -⟩ := finds_iff.mp hfound
          cases hnone.symm.trans htext
        · rename_i text htext
          split at h
          · obtain ⟨⟨⟩, ⟨middle, ⟨⟩⟩, hremove, h⟩ := Guard.perform_bind_eq_ok.mp h
            obtain ⟨others, last, hrest, h⟩ := Guard.perform_bind_eq_ok.mp h
            obtain rfl : last = (next, ()) := (Prod.mk.inj h).2
            obtain ⟨hpruned, hgone⟩ := @prunes_of_remove permissions _ _ _ _ _ _ hstore houtput hbase hne
              hnames (Bool.eq_false_iff.mpr hnew)
              (remove_of_perform (Guard.perform_adapt_eq_ok.mp hremove))
            obtain ⟨hprunes, hfresh⟩ := ih hproper hpruned.consistent (hpruned.keeps.locate hbase) hrest
            refine ⟨hpruned.trans hprunes, List.forall_mem_cons.mpr ⟨?_, hfresh⟩⟩
            exact Bool.eq_false_iff.mpr fun hfound => Bool.eq_false_iff.mp hgone (hprunes.finds hfound)
          · rename_i hunmarked
            refine hpass (Bool.eq_false_iff.mpr fun hfound => ?_) h
            obtain ⟨-, other, hother, hgenerated⟩ := finds_iff.mp hfound
            obtain rfl := Option.some.inj (htext.symm.trans hother)
            exact hunmarked hgenerated

/-- Files none of which is found are all left alone. -/
theorem perform_removeStale_of_fresh
    (h : ∀ names ∈ below, permissions.finds artifacts output store names = false) :
    permissions.guard.perform
      (artifacts.removeStale output (below.map (Text.joinText '/'))) (store, ())
        = (.ok [], store, ()) := by
  induction below with
  | nil => rfl
  | cons names below ih =>
      obtain ⟨hfresh, hrest⟩ := List.forall_mem_cons.mp h
      have hrest := ih hrest
      rw [List.map_cons, Artifacts.removeStale]
      split
      · exact hrest
      · rename_i hnew
        refine Guard.perform_bind_eq_ok.mpr ⟨_, _, perform_readable _, ?_⟩
        cases htext : permissions.text? store (FilePath.join output (Text.joinText '/' names)) with
        | none => exact hrest
        | some text =>
            have hunmarked : ¬ isGenerated text = true := fun hgenerated =>
              Bool.eq_false_iff.mp hfresh
                (finds_iff.mpr ⟨Bool.eq_false_iff.mpr hnew, text, htext, hgenerated⟩)
            dsimp only
            rw [if_neg hunmarked]
            exact hrest

end Remove

/-- A directory that may be listed and is there is brought in line by writing its files, when none is
    found after that. -/
theorem perform_write_of_fresh {artifacts : Artifacts} {written unchanged : List String}
    (hinner : artifacts.checkInner = .ok ()) (hkind : permissions.refuses (.kind output) = none)
    (hlist : permissions.refuses (.list output) = none) (hbase : store.locate output = .ok base)
    (hfolder : store.entry? base = some .folder)
    (hfilled : permissions.guard.perform (Artifacts.writeFiles output artifacts.files) (store, ())
      = (.ok (written, unchanged), next, ())) (hkeeps : store.KeepsFolders next)
    (hfresh : ∀ names ∈ next.filesIn base, permissions.finds artifacts output next names = false) :
    permissions.guard.perform (artifacts.write output) (store, ())
      = (.ok ⟨written, unchanged, []⟩, next, ()) := by
  have hlisted : permissions.guard.perform
      (permissions.guard.passOr (fun _ store => store) (.list output) (Store.ask (·.filesBelow output)))
        (next, ()) = (.ok ((next.filesIn base).map (Text.joinText '/')), next, ()) := by
    rw [perform_passOr _ _ hlist, show next.perform (Store.ask (·.filesBelow output))
      = (next.filesBelow output, next) from rfl,
      Store.filesBelow_eq (hkeeps.locate hbase) (hkeeps.folders base hfolder)]
  unfold Artifacts.write
  refine Guard.perform_bind_eq_ok.mpr ⟨(), (store, ()), congrArg (·, store, ()) hinner, ?_⟩
  refine Guard.perform_bind_eq_ok.mpr ⟨(), (store, ()), Guard.perform_adapt_eq_ok.mpr
    (perform_createFolders_of_folder hkind hbase hfolder), ?_⟩
  refine Guard.perform_bind_eq_ok.mpr ⟨_, (next, ()), hfilled, ?_⟩
  refine Guard.perform_bind_eq_ok.mpr ⟨_, (next, ()), Guard.perform_adapt_eq_ok.mpr hlisted, ?_⟩
  exact Guard.perform_bind_eq_ok.mpr ⟨[], (next, ()), perform_removeStale_of_fresh hfresh, rfl⟩

/-- The two passes of a write under permissions that has succeeded: directories are made, the store
    is filled, and files are taken away from it. -/
structure Passes (permissions : Permissions) (artifacts : Artifacts) (output : String)
    (base : Location) (before made filled after : Store) : Prop where
  named : output ≠ ""
  inner : artifacts.checkInner = .ok ()
  shown : permissions.refuses (.kind output) = none
  listed : permissions.refuses (.list output) = none
  adds : before.Adds made
  located : made.locate output = .ok base
  folder : made.entry? base = some .folder
  keeps : made.KeepsFolders filled
  consistent : filled.Consistent
  written : ∃ lists, permissions.guard.perform (Artifacts.writeFiles output artifacts.files) (made, ())
    = (.ok lists, filled, ())
  removed : ∃ gone, permissions.guard.perform
    (artifacts.removeStale output ((filled.filesIn base).map (Text.joinText '/'))) (filled, ())
      = (.ok gone, after, ())

/-- A write that succeeds consists of these. -/
theorem exists_passes {artifacts : Artifacts} {changes : Changes} (hstore : store.Consistent)
    (h : permissions.guard.perform (artifacts.write output) (store, ()) = (.ok changes, next, ())) :
    ∃ base made filled, permissions.Passes artifacts output base store made filled next := by
  unfold Artifacts.write at h
  obtain ⟨⟨⟩, same, hcheck, h⟩ := Guard.perform_bind_eq_ok.mp h
  obtain ⟨hinner, rfl⟩ := Prod.mk.inj hcheck
  obtain ⟨⟨⟩, ⟨made, ⟨⟩⟩, hmade, h⟩ := Guard.perform_bind_eq_ok.mp h
  obtain ⟨lists, ⟨filled, ⟨⟩⟩, hfilled, h⟩ := Guard.perform_bind_eq_ok.mp h
  obtain ⟨below, ⟨listed, ⟨⟩⟩, hlisted, h⟩ := Guard.perform_bind_eq_ok.mp h
  obtain ⟨removed, last, hremoved, h⟩ := Guard.perform_bind_eq_ok.mp h
  obtain rfl : last = (next, ()) := (Prod.mk.inj h).2
  have hmade := Guard.perform_adapt_eq_ok.mp hmade
  obtain ⟨hsame, hbelow⟩ := Guard.of_ask (Guard.perform_adapt_eq_ok.mp hlisted)
  obtain rfl : listed = filled := hsame
  obtain ⟨hbelow, hpermitted⟩ := hbelow below rfl
  have houtput : output ≠ "" := by
    rintro rfl
    cases hbelow
  obtain ⟨hadds, hfolder⟩ := Guard.of_createFolders hmade
  obtain ⟨base, hbase, hfolder⟩ := hfolder rfl houtput
  have halters := (Artifacts.touches_writeFiles (Artifacts.isInner_of_checkInner hinner)
    (.inr hbase)).alters (hadds.consistent hstore) hfilled
  obtain rfl : (listed.filesIn base).map (Text.joinText '/') = below :=
    Except.ok.inj ((Store.filesBelow_eq (halters.keeps.locate hbase)
      (halters.keeps.folders base hfolder)).symm.trans hbelow)
  exact ⟨base, made, listed, houtput, hinner, kind_of_createFolders houtput hmade,
    judge_eq_none.mp hpermitted, hadds, hbase, hfolder, halters.keeps, halters.consistent,
    ⟨lists, hfilled⟩, removed, hremoved⟩

end Permissions

namespace Artifacts

/-- Files of a set that are one file below a directory have the same text. -/
def Agree (artifacts : Artifacts) (store : Store) (base : Location) : Prop :=
  ∀ file ∈ artifacts.files, ∀ other ∈ artifacts.files,
    store.SameFile (base ++ file.names) (base ++ other.names) → file.contents = other.contents

instance (artifacts : Artifacts) (store : Store) (base : Location) :
    Decidable (artifacts.Agree store base) :=
  inferInstanceAs (Decidable (∀ file ∈ artifacts.files, ∀ other ∈ artifacts.files,
    store.SameFile (base ++ file.names) (base ++ other.names) → file.contents = other.contents))

variable {files : List (String × String)} {output : String} {base : Location} {store next : Store}

/-- **A SECOND WRITE**, under the same permissions and behind one that succeeded, succeeds too when
    the files of the set agree: it removes nothing, writes those files again that may not be read,
    finds the others unchanged, and leaves the store as it is. -/
theorem Spelled.write_again {permissions : Permissions} {changes : Changes} (h : Spelled files)
    (hstore : store.Consistent)
    (hagree : ∀ base, next.locate output = .ok base → (ofFiles files).Agree store base)
    (hwrite : permissions.guard.perform ((ofFiles files).write output) (store, ())
      = (.ok changes, next, ())) :
    permissions.guard.perform ((ofFiles files).write output) (next, ())
      = (.ok ⟨((ofFiles files).files.filter (permissions.hides output)).map (·.path),
        ((ofFiles files).files.filter (!permissions.hides output ·)).map (·.path), []⟩, next, ()) := by
  obtain ⟨base, made, filled, hpasses⟩ := Permissions.exists_passes hstore hwrite
  have hinner := isInner_of_checkInner hpasses.inner
  have hmade := hpasses.adds.consistent hstore
  have hfilledBase := hpasses.keeps.locate hpasses.located
  have hfilledFolder := hpasses.keeps.folders base hpasses.folder
  obtain ⟨gone, hremoved⟩ := hpasses.removed
  obtain ⟨hprunes, hfresh⟩ := Permissions.of_removeStale hpasses.named
    (fun _ => Store.ordinary_of_mem_filesIn hpasses.consistent.toPlaced hfilledFolder)
    hpasses.consistent hfilledBase hremoved
  have hnextBase := hprunes.keeps.locate hfilledBase
  obtain ⟨lists, hfilled⟩ := hpasses.written
  have hmadeAgree : (ofFiles files).Agree made base := fun file hfile other hother hsame => by
    rw [Store.SameFile, hpasses.adds.numbers] at hsame
    exact hagree base hnextBase file hfile other hother hsame
  obtain ⟨-, -, hwrote⟩ := Permissions.of_writeFiles hinner hpasses.named hmade hpasses.located
    hmadeAgree hfilled
  refine Permissions.perform_write_of_fresh hpasses.inner hpasses.shown hpasses.listed hnextBase
    (hprunes.keeps.folders base hfilledFolder)
    (Permissions.perform_writeFiles_again fun file hfile => ?_) (.refl next) fun names hmem => ?_
  · -- the file is there still, as it is one of the set
    obtain ⟨hthere, before, after, wrote, hbefore, hperform, hkeeps⟩ := hwrote file hfile
    refine Permissions.perform_write_again hbefore hpasses.named (hinner file hfile) hperform
      (hkeeps.trans hprunes.keeps) hprunes.consistent hnextBase ?_
    rw [hprunes.kept, hthere]
    have hspells := h.spells hfile
    rw [← hspells.text, contains_ofFiles_iff]
    exact ⟨file, hfile, rfl⟩
  · -- what is in the directory now was there when stale files were looked for
    obtain ⟨contents, hcontents⟩ := (Store.mem_filesIn hprunes.consistent.toPlaced).mp hmem
    exact hfresh names ((Store.mem_filesIn hpasses.consistent.toPlaced).mpr
      ⟨contents, hprunes.files _ _ hcontents⟩)

/-- Where everything is permitted nothing is removed from a directory without marked files. -/
theorem Spelled.perform_write_of_unmarked (h : Spelled files) {written unchanged : List String}
    (hinner : (ofFiles files).checkInner = .ok ()) (hstore : store.Unshared base)
    (hbase : store.locate output = .ok base) (hfolder : store.entry? base = some .folder)
    (hunmarked : ∀ names contents, store.file? (base ++ names) = some contents →
      contents.isMarked = false)
    (hfilled : store.perform (writeFiles output (ofFiles files).files)
      = (.ok (written, unchanged), next)) :
    store.perform ((ofFiles files).write output) = (.ok ⟨written, unchanged, []⟩, next) := by
  have houtput : output ≠ "" := (Store.checkPath_eq_ok.mp (Store.checkPath_of_locate hbase)).2.1
  have hpaths := isInner_of_checkInner hinner
  obtain ⟨hreceives, -, -⟩ := of_writeFiles_eq_ok houtput hpaths h.nodup hstore hbase hfilled
  have hfresh : ∀ names ∈ next.filesIn base,
      Permissions.all.finds (ofFiles files) output next names = false := by
    intro names hmem
    by_contra hstale
    rw [Bool.not_eq_false] at hstale
    obtain ⟨hnone, -, text, hfile, hmarked⟩ := (mem_stale_iff houtput hpaths
      (fun file hfile hstart => absurd hstart (Bool.eq_false_iff.mp (h.spells hfile).startsHere))
      hreceives (hreceives.keeps.locate hbase) (hreceives.keeps.folders base hfolder)).mp
        (List.mem_filter.mpr ⟨hmem, hstale⟩)
    rw [hreceives.others _ fun file hfile heq =>
      hnone file hfile (List.append_cancel_left heq).symm] at hfile
    exact Bool.eq_false_iff.mp (hunmarked names _ hfile) hmarked
  have hguarded : Permissions.all.guard.perform (writeFiles output (ofFiles files).files) (store, ())
      = (.ok (written, unchanged), next, ()) := by
    refine (follows_writeFiles output (ofFiles files).files store ()).trans ?_
    rw [hfilled]
  have hwrite := Permissions.perform_write_of_fresh hinner rfl rfl hbase hfolder hguarded
    hreceives.keeps hfresh
  have hlax := (perform_write_lax (ofFiles files) output store ()).symm.trans hwrite
  obtain ⟨hresult, hlast⟩ := Prod.mk.inj hlax
  exact Prod.ext hresult (Prod.mk.inj hlast).1

end Artifacts

end Bindery
