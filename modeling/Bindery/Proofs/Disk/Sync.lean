import Bindery.Proofs.Disk.Written
import Bindery.Proofs.Files.Kept

/-! # A directory in line — what writing a set of files comes to

    Two passes act on one directory: the first puts the files of a set where
    their paths lead, the second removes what is marked as generated and is not
    found in the set under the path that the directory lists it by.  A listed
    path never starts with a dot (`contains_spelled_iff`), so the passes agree on
    what belongs to the set as long as no marked file has a path that does
    (`mem_stale_iff`, `exists_passes`); then the directory is in line with the set
    afterwards (`write_inLine`).  A marked file whose path starts with a dot is removed by
    the run that has written it (`exists_written_removed`). -/

namespace Bindery

open Store (perform_bind_eq_ok perform_pure_eq_ok perform_adapt_eq_ok)

namespace Artifacts

variable {artifacts : Artifacts} {output : String} {base : Location} {store next : Store}

/-- What a directory at a location is after it has been brought in line with a set of files, and
    what is reported about it; `gone` are the files that were removed from it. -/
structure InLine (artifacts : Artifacts) (output : String) (base : Location)
    (gone : List Location) (before after : Store) (changes : Changes) : Prop where
  located : after.locate output = .ok base
  keeps : before.KeepsFolders after
  unshared : after.Unshared base
  present : ∀ file ∈ artifacts.files,
    after.file? (base ++ file.names) = some (.text file.contents)
  listed : (changes.written ++ changes.unchanged).Perm (artifacts.files.map (·.path))
  unchanged : ∀ file ∈ artifacts.files, file.path ∈ changes.unchanged
    ↔ before.file? (base ++ file.names) = some (.text file.contents)
  removed : changes.removed = gone.map (Text.joinText '/')
  nodup : gone.Nodup
  -- bytes that are no text, and a file whose path is too long, cannot be read and stay
  mem_gone : ∀ names, names ∈ gone ↔ (∀ file ∈ artifacts.files, file.names ≠ names)
    ∧ (listedPath output names).utf8ByteSize ≤ Store.pathLimit
    ∧ ∃ text, before.file? (base ++ names) = some (.text text) ∧ isGenerated text = true
  absent : ∀ names ∈ gone, after.file? (base ++ names) = none
  others : ∀ location, (∀ file ∈ artifacts.files, location ≠ base ++ file.names) →
    (∀ names ∈ gone, location ≠ base ++ names) → after.file? location = before.file? location

/-- The work of bringing a directory in line, step by step. -/
theorem of_write_eq_ok {changes : Changes}
    (h : store.perform (artifacts.write output) = (.ok changes, next)) :
    artifacts.checkInner = .ok () ∧ ∃ made written below,
      store.perform (Store.createFolders output) = (.ok (), made)
      ∧ made.perform (writeFiles output artifacts.files)
        = (.ok (changes.written, changes.unchanged), written)
      ∧ written.filesBelow output = .ok below
      ∧ written.perform (artifacts.removeStale output below) = (.ok changes.removed, next) := by
  unfold write at h
  obtain ⟨⟨⟩, same, hcheck, h⟩ := perform_bind_eq_ok.mp h
  obtain ⟨⟨⟩, made, hmade, h⟩ := perform_bind_eq_ok.mp h
  obtain ⟨⟨written, unchanged⟩, filled, hfilled, h⟩ := perform_bind_eq_ok.mp h
  obtain ⟨below, listed, hlisted, h⟩ := perform_bind_eq_ok.mp h
  obtain ⟨removed, last, hremoved, h⟩ := perform_bind_eq_ok.mp h
  obtain ⟨rfl, rfl⟩ := perform_pure_eq_ok.mp h
  obtain ⟨hbelow, rfl⟩ := Store.perform_ask_eq_ok.mp (perform_adapt_eq_ok.mp hlisted)
  obtain ⟨hinner, rfl⟩ := Prod.mk.inj hcheck
  exact ⟨hinner, made, filled, below, perform_adapt_eq_ok.mp hmade, hfilled, hbelow, hremoved⟩

/-- A set that is let through has inner paths only. -/
theorem isInner_of_checkInner (h : artifacts.checkInner = .ok ()) :
    ∀ file ∈ artifacts.files, FilePath.isInner file.path = true := by
  unfold checkInner at h
  split at h
  · rename_i hnone
    intro file hfile
    have hinner := List.find?_eq_none.mp hnone file hfile
    rwa [Bool.not_eq_true, Bool.not_eq_false'] at hinner
  · cases h

/-- A set has the steps of its files. -/
theorem contains_ofFiles_iff {files : List (String × String)} {steps : List FilePath.Step} :
    (ofFiles files).contains steps = true
      ↔ ∃ file ∈ (ofFiles files).files, FilePath.steps file.path = steps := by
  rw [SortedMap.contains_iff]
  constructor
  · rintro ⟨file, hfile⟩
    exact ⟨file, List.mem_map_of_mem (SortedMap.get?_eq_some_iff.mp hfile),
      steps_of_get?_ofFiles hfile⟩
  · rintro ⟨file, hfile, rfl⟩
    obtain ⟨⟨key, found⟩, hmem, rfl⟩ := List.mem_map.mp hfile
    have hget := SortedMap.get?_eq_some_iff.mpr hmem
    exact ⟨found, (steps_of_get?_ofFiles hget) ▸ hget⟩

/-- A set has a path that is spelled by names when a file of it has these names, and a path that
    does not start with a dot. -/
theorem contains_spelled_iff {files : List (String × String)}
    (hinner : ∀ file ∈ (ofFiles files).files, FilePath.isInner file.path = true)
    {path : String} {names : List String} (hspells : FilePath.Spells path names) :
    (ofFiles files).contains (FilePath.steps path) = true
      ↔ ∃ file ∈ (ofFiles files).files, FilePath.startsHere file.path = false
        ∧ file.names = names := by
  rw [contains_ofFiles_iff]
  refine exists_congr fun file => and_congr_right fun hfile => ?_
  rw [hspells.steps]
  constructor
  · intro hsteps
    have hnames : file.names = names := by
      rw [Artifact.names, FilePath.names, hsteps, ← hspells.steps]
      exact hspells.names_path
    refine ⟨?_, hnames⟩
    rw [FilePath.startsHere, hsteps, ← hspells.steps]
    exact hspells.startsHere
  · rintro ⟨hstart, rfl⟩
    rw [FilePath.steps_of_isInner (hinner file hfile), hstart]
    rfl

/-- A listed file can be read when it is a text and its path is not too long. -/
theorem read_listedPath {text : String} {names : List String} (houtput : output ≠ "")
    (hstore : store.Placed) (hbase : store.locate output = .ok base)
    (hne : names ≠ []) (hnames : ∀ name ∈ names, Store.ProperName name) :
    store.read (listedPath output names) = .ok text
      ↔ (listedPath output names).utf8ByteSize ≤ Store.pathLimit
        ∧ store.file? (base ++ names) = some (.text text) := by
  have hspells := spells_listed hnames
  have hinner := hspells.isInner hne
  rw [Store.read_eq_ok]
  constructor
  · rintro ⟨location, hlocate, hfile, -⟩
    obtain rfl := eq_of_locate_listedPath houtput hbase hne hnames hlocate
    exact ⟨(Store.checkPath_eq_ok.mp (Store.checkPath_of_locate hlocate)).2.2, hfile⟩
  · rintro ⟨hshort, hfile⟩
    have hcheck := (checkPath_listedPath (Store.checkPath_of_locate hbase) hne hnames).mpr hshort
    have hlast : (Store.pieces (Text.joinText '/' names)).getLast? = some (names.getLast hne) := by
      rw [hspells.pieces hne]
      exact List.getLast?_eq_some_getLast hne
    have hdots := (hnames _ (List.getLast_mem hne)).ordinary.isDots
    have hentry := Store.file?_eq_some.mp hfile
    rw [← hspells.names_path] at hentry hfile
    refine ⟨_, hstore.locate_join houtput hinner hbase hcheck hlast hdots hentry, hfile, ?_⟩
    have hpath : Text.joinText '/' names ≠ "" := fun hempty =>
      hne ((congrArg FilePath.names hempty ▸ hspells.names_path).symm)
    rw [listedPath, FilePath.endsInSlash_join houtput (FilePath.isAbsolute_of_isInner hinner) hpath]
    exact decide_eq_false hspells.getLast?_ne

/-- **WHAT IS STALE** once the files of a set are there: none of these, but any other text that is
    marked as generated and whose path is not too long. -/
theorem mem_stale_iff {files : List (String × String)} {filled : Store} {names : List String}
    (houtput : output ≠ "")
    (hinner : ∀ file ∈ (ofFiles files).files, FilePath.isInner file.path = true)
    (hdotted : ∀ file ∈ (ofFiles files).files, FilePath.startsHere file.path = true →
      isGenerated file.contents = false)
    (hreceives : store.Receives base (ofFiles files).files filled)
    (hbase : filled.locate output = .ok base) (hfolder : filled.entry? base = some .folder) :
    names ∈ (filled.filesIn base).filter ((ofFiles files).isStale output filled)
      ↔ (∀ file ∈ (ofFiles files).files, file.names ≠ names)
        ∧ (listedPath output names).utf8ByteSize ≤ Store.pathLimit
        ∧ ∃ text, filled.file? (base ++ names) = some (.text text) ∧ isGenerated text = true := by
  have hstore := hreceives.unshared.toPlaced
  rw [List.mem_filter, isStale_iff]
  constructor
  · rintro ⟨hmem, hnew, text, htext, hgenerated⟩
    obtain ⟨hne, hnames⟩ := Store.ordinary_of_mem_filesIn hstore hfolder hmem
    obtain ⟨hshort, hfile⟩ := (read_listedPath houtput hstore hbase hne hnames).mp htext
    refine ⟨fun file hset hsame => ?_, hshort, text, hfile, hgenerated⟩
    have hpresent := hreceives.present file hset
    rw [hsame, hfile] at hpresent
    obtain rfl : text = file.contents := Contents.text.inj (Option.some.inj hpresent)
    -- a file of the set that is not found in it starts with a dot
    cases hstart : FilePath.startsHere file.path with
    | true => exact Bool.false_ne_true ((hdotted file hset hstart).symm.trans hgenerated)
    | false =>
        have hold := (contains_spelled_iff hinner (spells_listed hnames)).mpr
          ⟨file, hset, hstart, hsame⟩
        exact Bool.false_ne_true (hnew.symm.trans hold)
  · rintro ⟨hothers, hshort, text, hfile, hgenerated⟩
    have hmem := (Store.mem_filesIn hstore).mpr ⟨_, hfile⟩
    obtain ⟨hne, hnames⟩ := Store.ordinary_of_mem_filesIn hstore hfolder hmem
    have hread := (read_listedPath houtput hstore hbase hne hnames).mpr ⟨hshort, hfile⟩
    refine ⟨hmem, Bool.eq_false_iff.mpr fun hold => ?_, text, hread, hgenerated⟩
    obtain ⟨file, hset, -, hsame⟩ :=
      (contains_spelled_iff hinner (spells_listed hnames)).mp hold
    exact hothers file hset hsame

/-- Paths that are written are taken by the system. -/
theorem checkPath_of_writeFiles_eq_ok : ∀ {files : List Artifact} {store next : Store}
    {lists : List String × List String},
    store.perform (writeFiles output files) = (.ok lists, next) →
      ∀ file ∈ files, Store.checkPath (FilePath.join output file.path) = .ok () := by
  intro files
  induction files with
  | nil => exact fun _ file hfile => (nomatch hfile)
  | cons file files ih =>
      intro store next lists h
      obtain ⟨wrote, middle, hwrite, h⟩ := perform_bind_eq_ok.mp h
      refine List.forall_mem_cons.mpr ⟨?_, ?_⟩
      · rcases Artifact.cases_of_write_eq_ok hwrite with
          ⟨-, hread, -⟩ | ⟨-, -, made, -, hput⟩
        · obtain ⟨location, hlocate, -⟩ := Store.read_eq_ok.mp hread
          exact Store.checkPath_of_locate hlocate
        · obtain ⟨folder, name, hlocate, -⟩ := Store.of_write_eq_ok hput
          exact Store.checkPath_of_locate hlocate
      · split at h
        all_goals
          obtain ⟨_, last, hrun, -⟩ := perform_bind_eq_ok.mp h
          exact ih hrun

/-- The two passes of writing a set of files: between them a store is filled, and the second one
    removes files from it. -/
structure Passes (artifacts : Artifacts) (output : String) (base : Location) (filled : Store)
    (gone : List Location) (before after : Store) (changes : Changes) : Prop where
  named : output ≠ ""
  inner : artifacts.checkInner = .ok ()
  taken : ∀ file ∈ artifacts.files, Store.checkPath (FilePath.join output file.path) = .ok ()
  located : filled.locate output = .ok base
  folder : filled.entry? base = some .folder
  receives : before.Receives base artifacts.files filled
  listed : (changes.written ++ changes.unchanged).Perm (artifacts.files.map (·.path))
  unchanged : ∀ file ∈ artifacts.files, file.path ∈ changes.unchanged
    ↔ before.file? (base ++ file.names) = some (.text file.contents)
  removed : changes.removed = gone.map (Text.joinText '/')
  nodup : gone.Nodup
  mem_gone : ∀ names, names ∈ gone ↔ (∀ file ∈ artifacts.files, file.names ≠ names)
    ∧ (listedPath output names).utf8ByteSize ≤ Store.pathLimit
    ∧ ∃ text, filled.file? (base ++ names) = some (.text text) ∧ isGenerated text = true
  loses : filled.Loses base gone after

/-- What the first pass puts the second one does not remove. -/
theorem Passes.present {filled : Store} {gone : List Location} {changes : Changes}
    (h : artifacts.Passes output base filled gone store next changes) :
    ∀ file ∈ artifacts.files, next.file? (base ++ file.names) = some (.text file.contents) := by
  intro file hfile
  rw [h.loses.others, h.receives.present file hfile]
  intro names hnames heq
  exact ((h.mem_gone names).mp hnames).1 file hfile (List.append_cancel_left heq)

/-- **TWO PASSES** are what a write comes to that succeeds, where no two files of the set lead to one
    place, and none whose path starts with a dot is marked as generated. -/
theorem exists_passes {files : List (String × String)} {changes : Changes}
    (hstore : store.SharesNone output)
    (hapart : ((ofFiles files).files.map Artifact.names).Nodup)
    (hdotted : ∀ file ∈ (ofFiles files).files, FilePath.startsHere file.path = true →
      isGenerated file.contents = false)
    (h : store.perform ((ofFiles files).write output) = (.ok changes, next)) :
    ∃ base filled gone, (ofFiles files).Passes output base filled gone store next changes := by
  obtain ⟨hcheck, made, filled, below, hmade, hfilled, hbelow, hremoved⟩ := of_write_eq_ok h
  have hinner := isInner_of_checkInner hcheck
  obtain ⟨hadds, hfolder⟩ := Store.of_createFolders_eq_ok hmade
  have houtput : output ≠ "" := by
    rintro rfl
    cases hbelow
  obtain ⟨base, hbase, hfolder⟩ := hfolder houtput
  obtain ⟨hreceives, hlisted, hunchanged⟩ := of_writeFiles_eq_ok houtput hinner hapart
    (hadds.unshared (hstore made base hmade hbase)) hbase hfilled
  have hfilledBase := hreceives.keeps.locate hbase
  have hfilledFolder := hreceives.keeps.folders base hfolder
  obtain rfl : (filled.filesIn base).map (Text.joinText '/') = below :=
    Except.ok.inj ((Store.filesBelow_eq hfilledBase hfilledFolder).symm.trans hbelow)
  obtain ⟨hlist, hloses⟩ := of_removeStale_eq_ok houtput (filled.nodup_filesIn base)
    (fun _ => Store.ordinary_of_mem_filesIn hreceives.unshared.toPlaced hfilledFolder)
    hreceives.unshared hfilledBase hremoved
  refine ⟨base, filled, _, houtput, hcheck, checkPath_of_writeFiles_eq_ok hfilled, hfilledBase,
    hfilledFolder, ⟨hadds.keeps.trans hreceives.keeps, hreceives.unshared, hreceives.present,
      fun location hother => (hreceives.others location hother).trans (hadds.files location)⟩,
    hlisted, fun file hfile => ?_, hlist, (filled.nodup_filesIn base).filter _, fun names =>
      mem_stale_iff houtput hinner hdotted hreceives hfilledBase hfilledFolder, hloses⟩
  rw [hunchanged file hfile, hadds.files]

/-- **IN LINE**: where no two files of a set lead to one place, and none whose path starts with a
    dot is marked as generated, writing them brings the directory in line. -/
theorem write_inLine {files : List (String × String)} {changes : Changes}
    (hstore : store.SharesNone output)
    (hapart : ((ofFiles files).files.map Artifact.names).Nodup)
    (hdotted : ∀ file ∈ (ofFiles files).files, FilePath.startsHere file.path = true →
      isGenerated file.contents = false)
    (h : store.perform ((ofFiles files).write output) = (.ok changes, next)) :
    ∃ base gone, (ofFiles files).InLine output base gone store next changes := by
  obtain ⟨base, filled, gone, hpasses⟩ := exists_passes hstore hapart hdotted h
  have hreceives := hpasses.receives
  have hloses := hpasses.loses
  refine ⟨base, gone, hloses.keeps.locate hpasses.located, hreceives.keeps.trans hloses.keeps,
    hloses.unshared, hpasses.present, hpasses.listed, hpasses.unchanged, hpasses.removed,
    hpasses.nodup, fun names => ?_, hloses.absent, fun location hother hkept => ?_⟩
  · rw [hpasses.mem_gone]
    refine and_congr_right fun hother => ?_
    rw [hreceives.others]
    intro file hfile heq
    exact hother file hfile (List.append_cancel_left heq).symm
  · rw [hloses.others location hkept, hreceives.others location hother]

/-- A directory that holds an up-to-date file of a set, an outdated one, a file written by hand and
    one that was generated once. -/
def shelf : Store where
  entries := ⟨[(["work"], .folder), (["work", "out"], .folder),
    (["work", "out", "kept.rs"], .file (.text "// kept")),
    (["work", "out", "new"], .folder),
    (["work", "out", "new", "part.rs"], .file (.text "// outdated")),
    (["work", "out", "notes.md"], .file (.text "by hand")),
    (["work", "out", "old.rs"],
      .file (.text "// This code was AUTOGENERATED using the idlforge library.\n"))],
    by decide +kernel⟩
  workingFolder := ["work"]

theorem write_inLine_shelf : ∃ base gone,
    (ofFiles [("new/part.rs", "// part"), ("kept.rs", "// kept")]).InLine "out" base gone shelf
      ((shelf.put ["work", "out", "new", "part.rs"] (.file (.text "// part"))).without
        ["work", "out", "old.rs"])
      ⟨["new/part.rs"], ["kept.rs"], ["old.rs"]⟩ :=
  have hstore : shelf.WellFormed := by decide +kernel
  write_inLine (hstore.sharesNone "out") (by decide +kernel) (by decide +kernel) (by decide +kernel)

/-- A file whose path starts with a dot is removed in the same run when it is marked as generated:
    the paths of the directory do not start with one. -/
theorem exists_written_removed : ∃ next,
    (Store.empty ["work"]).perform
        ((ofFiles [("./a.rs", "// This code was AUTOGENERATED using the idlforge library.\n")]).write
          "out")
      = (.ok ⟨["./a.rs"], [], ["a.rs"]⟩, next)
      ∧ next.file? ["work", "out", "a.rs"] = none := by
  refine ⟨(Store.empty ["work"]).put ["work", "out"] .folder, ?_, ?_⟩
  all_goals decide +kernel

end Artifacts

end Bindery
