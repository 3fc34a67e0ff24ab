import Bindery.Artifacts
import Bindery.Proofs.Disk.Runs

/-! # Written and stale files — what a directory receives, and what it loses

    A file is left alone when it has its contents already, and written otherwise;
    either way it is there afterwards under its names, and no other file has
    changed (`Artifact.of_write_eq_ok`).  Files of different names do not get in
    each other's way, so that all of them are there in the end
    (`Artifacts.of_writeFiles_eq_ok`).

    The files of a directory are listed by the names that lead to them from it
    (`Store.filesIn`).  Those that are not in a set of generated files, can be
    read, and are marked as generated are stale (`Artifacts.isStale`); removing
    them leaves all other files and all directories
    (`Artifacts.of_removeStale_eq_ok`). -/

namespace Bindery

open Store (perform_bind_eq_ok perform_pure_eq_ok perform_adapt_eq_ok
  perform_attempt_eq_ok)

/-- The names that lead to a file in its directory. -/
def Artifact.names (file : Artifact) : List String := FilePath.names file.path

variable {store next : Store} {output : String} {base : Location}

/-- A store in which files have been put below a location, and no other file is changed. -/
structure Store.Receives (base : Location) (files : List Artifact) (before after : Store) :
    Prop where
  keeps : before.KeepsFolders after
  unshared : after.Unshared base
  present : ∀ file ∈ files, after.file? (base ++ file.names) = some (.text file.contents)
  others : ∀ location, (∀ file ∈ files, location ≠ base ++ file.names) →
    after.file? location = before.file? location

/-- Asking for a text leaves the store as it is. -/
theorem perform_readable (store : Store) (path : String) :
    store.perform (liftM (readable? (m := StateM Store) path) :
        ExceptT RenderError (StateM Store) (Option String))
      = (.ok (store.read path).toOption, store) := by
  cases h : store.read path
  all_goals
    simp only [Store.perform, readable?, FileSystem.read, Store.ask, h, ExceptT.run, ExceptT.mk,
      bind, StateT.bind, StateT.run, liftM, monadLift, MonadLift.monadLift, ExceptT.lift,
      Functor.map, StateT.map]
    rfl

namespace Artifact

variable {file : Artifact}

/-- A file is left alone, or written once there is a directory for it. -/
theorem cases_of_write_eq_ok {wrote : Bool}
    (h : store.perform (file.write output) = (.ok wrote, next)) :
    (wrote = false ∧ store.read (FilePath.join output file.path) = .ok file.contents ∧ next = store)
      ∨ (wrote = true ∧ store.read (FilePath.join output file.path) ≠ .ok file.contents
        ∧ ∃ middle, store.Adds middle
          ∧ middle.write (FilePath.join output file.path) (.text file.contents) = .ok next) := by
  unfold write at h
  dsimp only at h
  obtain ⟨found, same, hread, h⟩ := perform_bind_eq_ok.mp h
  rw [perform_readable] at hread
  obtain ⟨hfound, rfl⟩ := Prod.mk.inj hread
  obtain rfl := Except.ok.inj hfound
  split at h
  · rename_i hsame
    obtain ⟨rfl, rfl⟩ := perform_pure_eq_ok.mp h
    exact .inl ⟨rfl, toOption_eq_some.mp hsame, rfl⟩
  · rename_i hdiffers
    have hwrite : ∃ middle, store.Adds middle
        ∧ middle.perform (do
            (FileSystem.write (FilePath.join output file.path) file.contents).adapt
              (RenderError.unwritable (FilePath.join output file.path))
            return true) = (.ok wrote, next) := by
      split at h
      · obtain ⟨⟨⟩, middle, hfolder, h⟩ := perform_bind_eq_ok.mp h
        exact ⟨middle, (Store.of_createFolders_eq_ok (perform_adapt_eq_ok.mp hfolder)).1, h⟩
      · exact ⟨store, .refl _, h⟩
    obtain ⟨middle, hadds, h⟩ := hwrite
    obtain ⟨⟨⟩, written, hwrite, h⟩ := perform_bind_eq_ok.mp h
    obtain ⟨rfl, rfl⟩ := perform_pure_eq_ok.mp h
    exact .inr ⟨rfl, fun hread => hdiffers (toOption_eq_some.mpr hread), middle, hadds,
      perform_attempt_eq_ok.mp (perform_adapt_eq_ok.mp hwrite)⟩

/-- **A FILE IS WRITTEN** unless it has its contents already; it is there afterwards, and no other
    file is changed. -/
theorem of_write_eq_ok {wrote : Bool} (hinner : FilePath.isInner file.path = true)
    (houtput : output ≠ "") (hstore : store.Unshared base) (hbase : store.locate output = .ok base)
    (h : store.perform (file.write output) = (.ok wrote, next)) :
    store.Receives base [file] next
      ∧ (wrote = false ↔ store.file? (base ++ file.names) = some (.text file.contents)) := by
  rcases cases_of_write_eq_ok h with ⟨rfl, hread, rfl⟩ | ⟨rfl, hread, middle, hadds, hwrite⟩
  · obtain ⟨location, hlocate, hfile, -⟩ := Store.read_eq_ok.mp hread
    obtain rfl := Store.eq_of_locate_join houtput hinner hbase hlocate
    exact ⟨⟨.refl _, hstore, List.forall_mem_singleton.mpr hfile, fun _ _ => rfl⟩,
      iff_of_true rfl hfile⟩
  · obtain ⟨folder, name, hlocate, hfolder, hname, hlast, hdots, hslash, hover, rfl⟩ :=
      Store.of_write_eq_ok hwrite
    have hlocation : folder ++ [name] = base ++ file.names :=
      Store.eq_of_locate_join houtput hinner (hadds.keeps.locate hbase) hlocate
    have hbelow : base <+: folder ++ [name] := hlocation ▸ List.prefix_append _ _
    have hmiddle := hadds.unshared hstore
    have hne := Store.concat_ne_nil folder name
    have hput := fun location => @Store.file?_put middle _ (.text file.contents) hne location
    rw [hmiddle.fill_eq_put hbelow]
    refine ⟨⟨hadds.keeps.trans (Store.keepsFolders_put hne hover),
      hmiddle.put hfolder hname hover hbelow, ?_, fun location hother => ?_⟩,
      iff_of_false Bool.noConfusion fun hfile => hread ?_⟩
    · refine List.forall_mem_singleton.mpr ?_
      rw [hput, if_pos hlocation.symm]
    · rw [hput, if_neg (hlocation ▸ hother file List.mem_cons_self), hadds.files]
    · -- what is there already could have been read
      rw [FilePath.getLast?_pieces_join houtput hinner] at hlast
      exact Store.read_eq_ok.mpr ⟨_, hstore.locate_join houtput hinner hbase
        (Store.checkPath_of_locate hlocate) hlast hdots (Store.file?_eq_some.mp hfile),
        hfile, hslash⟩

end Artifact

/-- Files that are put one after another have all been put. -/
theorem Store.Receives.cons {middle : Store} {file : Artifact} {files : List Artifact}
    (hfirst : store.Receives base [file] middle) (hrest : middle.Receives base files next)
    (hnames : file.names ∉ files.map Artifact.names) :
    store.Receives base (file :: files) next := by
  have hapart : ∀ other ∈ files, base ++ file.names ≠ base ++ other.names := fun other hother heq =>
    hnames (List.append_cancel_left heq ▸ List.mem_map_of_mem hother)
  refine ⟨hfirst.keeps.trans hrest.keeps, hrest.unshared,
    List.forall_mem_cons.mpr ⟨?_, hrest.present⟩, fun location hother => ?_⟩
  · rw [hrest.others _ hapart]
    exact hfirst.present file List.mem_cons_self
  · obtain ⟨hother, hothers⟩ := List.forall_mem_cons.mp hother
    rw [hrest.others location hothers]
    exact hfirst.others location (List.forall_mem_singleton.mpr hother)

namespace Artifacts

/-- **THE FILES OF A SET** are all there afterwards, each listed once: those that had their contents
    at the start as unchanged, the rest as written. -/
theorem of_writeFiles_eq_ok (houtput : output ≠ "") : ∀ {files : List Artifact}
    {store next : Store} {written unchanged : List String},
    (∀ file ∈ files, FilePath.isInner file.path = true) → (files.map Artifact.names).Nodup →
    store.Unshared base → store.locate output = .ok base →
    store.perform (writeFiles output files) = (.ok (written, unchanged), next) →
      store.Receives base files next ∧ (written ++ unchanged).Perm (files.map (·.path))
        ∧ ∀ file ∈ files, file.path ∈ unchanged
          ↔ store.file? (base ++ file.names) = some (.text file.contents) := by
  intro files
  induction files with
  | nil =>
      intro store next written unchanged _ _ hstore _ h
      obtain ⟨hlists, rfl⟩ := perform_pure_eq_ok.mp h
      obtain ⟨rfl, rfl⟩ := Prod.mk.inj hlists
      exact ⟨⟨.refl _, hstore, List.forall_mem_nil _, fun _ _ => rfl⟩, .refl _,
        List.forall_mem_nil _⟩
  | cons file files ih =>
      intro store next written unchanged hinner hnames hstore hbase h
      obtain ⟨hfileInner, hinner⟩ := List.forall_mem_cons.mp hinner
      obtain ⟨hname, hnames⟩ := List.nodup_cons.mp hnames
      obtain ⟨wrote, middle, hwrite, h⟩ := perform_bind_eq_ok.mp h
      obtain ⟨hfirst, hwrote⟩ := Artifact.of_write_eq_ok hfileInner houtput hstore hbase hwrite
      have hpath : file.path ∉ files.map (·.path) := fun hmem => by
        obtain ⟨other, hother, heq⟩ := List.mem_map.mp hmem
        exact hname (List.mem_map.mpr ⟨other, hother, congrArg FilePath.names heq⟩)
      -- what the files held at the start they hold until their turn comes
      have hstart : ∀ other ∈ files, middle.file? (base ++ other.names)
          = store.file? (base ++ other.names) := fun other hother =>
        hfirst.others _ (List.forall_mem_singleton.mpr fun heq =>
          hname (List.append_cancel_left heq ▸ List.mem_map_of_mem hother))
      cases wrote with
      | true =>
          obtain ⟨⟨written', unchanged'⟩, last, hrun, h⟩ := perform_bind_eq_ok.mp h
          obtain ⟨hlists, rfl⟩ := perform_pure_eq_ok.mp h
          obtain ⟨rfl, rfl⟩ := Prod.mk.inj hlists
          obtain ⟨hrest, hlisted, hunchanged⟩ := ih hinner hnames hfirst.unshared
            (hfirst.keeps.locate hbase) hrun
          refine ⟨hfirst.cons hrest hname, hlisted.cons file.path,
            List.forall_mem_cons.mpr ⟨?_, fun other hother => ?_⟩⟩
          · refine iff_of_false (fun hmem => hpath ?_) fun hfile => nomatch hwrote.mpr hfile
            exact hlisted.mem_iff.mp (List.mem_append_right _ hmem)
          · rw [hunchanged other hother, hstart other hother]
      | false =>
          obtain ⟨⟨written', unchanged'⟩, last, hrun, h⟩ := perform_bind_eq_ok.mp h
          obtain ⟨hlists, rfl⟩ := perform_pure_eq_ok.mp h
          obtain ⟨rfl, rfl⟩ := Prod.mk.inj hlists
          obtain ⟨hrest, hlisted, hunchanged⟩ := ih hinner hnames hfirst.unshared
            (hfirst.keeps.locate hbase) hrun
          refine ⟨hfirst.cons hrest hname, List.perm_middle.trans (hlisted.cons file.path),
            List.forall_mem_cons.mpr ⟨?_, fun other hother => ?_⟩⟩
          · exact iff_of_true List.mem_cons_self (hwrote.mp rfl)
          · have hne : other.path ≠ file.path := fun heq =>
              hpath (heq ▸ List.mem_map_of_mem hother)
            rw [List.mem_cons, or_iff_right hne, hunchanged other hother, hstart other hother]

end Artifacts

end Bindery

/-! ## Stale files -/

namespace Bindery

namespace Store

variable {store next : Store} {base location : Location} {names : List String}
  {contents : Contents} {path text : String}

/-! ## Files below a directory -/

/-- What is below a location is behind it. -/
theorem below?_eq_some : ∀ {above location rest : Location},
    below? above location = some rest ↔ location = above ++ rest := by
  intro above
  induction above with
  | nil => exact fun {_ _} => Option.some_inj
  | cons first above ih =>
      intro location rest
      cases location with
      | nil => exact iff_of_false (by simp [below?]) (by simp)
      | cons name location =>
          rw [below?, List.cons_append]
          split
          · rename_i hname
            rw [ih, List.cons.injEq]
            exact (and_iff_right hname.symm).symm
          · rename_i hname
            exact iff_of_false (by simp) fun heq => hname (List.cons.inj heq).1.symm

/-- The files below a location, by the names that lead to them from there. -/
def filesIn (store : Store) (base : Location) : List Location :=
  store.entries.entries.filterMap fun (location, entry) =>
    match entry with
    | .folder => none
    | .file _ => below? base location

/-- The files of a directory are listed by their paths. -/
theorem filesBelow_eq (hlocate : store.locate path = .ok base)
    (hfolder : store.entry? base = some .folder) :
    store.filesBelow path = .ok ((store.filesIn base).map (Text.joinText '/')) := by
  have hfind : store.find path = .ok (base, .folder) := by
    refine bind_eq_ok.mpr ⟨base, hlocate, ?_⟩
    rw [hfolder]
  refine bind_eq_ok.mpr ⟨(base, .folder), hfind, congrArg Except.ok ?_⟩
  rw [filesIn, List.map_filterMap]
  refine List.filterMap_congr fun e _ => ?_
  obtain ⟨location, _ | contents⟩ := e <;> rfl

/-- These are the files that are there. -/
theorem mem_filesIn (hstore : store.Placed) :
    names ∈ store.filesIn base ↔ ∃ contents, store.file? (base ++ names) = some contents := by
  rw [filesIn, List.mem_filterMap]
  constructor
  · rintro ⟨⟨location, _ | contents⟩, hmem, hbelow⟩
    · exact nomatch hbelow
    · obtain rfl := below?_eq_some.mp hbelow
      exact ⟨contents, file?_eq_some.mpr ((entry?_eq_some (hstore.named _ hmem).1).mpr hmem)⟩
  · rintro ⟨contents, hfile⟩
    exact ⟨(base ++ names, .file contents),
      (entry?_eq_some (ne_nil_of_file? hfile)).mp (file?_eq_some.mp hfile),
      below?_eq_some.mpr rfl⟩

/-- No file is listed twice. -/
theorem nodup_filesIn (store : Store) (base : Location) : (store.filesIn base).Nodup := by
  have hkeys := List.pairwise_map.mp (SortedMap.nodup_keys store.entries)
  refine List.Pairwise.filterMap _ ?_ hkeys
  rintro ⟨location, _ | contents⟩ ⟨location', _ | contents'⟩ hne rest hrest rest' hrest' heq
  · cases hrest
  · cases hrest
  · cases hrest'
  · obtain rfl := below?_eq_some.mp hrest
    obtain rfl := below?_eq_some.mp hrest'
    exact hne (congrArg (base ++ ·) heq)

/-- Files of a directory have names of their own, all of them ordinary. -/
theorem ordinary_of_mem_filesIn (hstore : store.Placed)
    (hfolder : store.entry? base = some .folder) (h : names ∈ store.filesIn base) :
    names ≠ [] ∧ ∀ name ∈ names, ProperName name := by
  obtain ⟨contents, hfile⟩ := (mem_filesIn hstore).mp h
  have hentry := file?_eq_some.mp hfile
  refine ⟨?_, fun name hname => hstore.proper hentry name (List.mem_append_right _ hname)⟩
  rintro rfl
  rw [List.append_nil, hfolder] at hentry
  exact nomatch hentry

/-! ## Taking files away -/

/-- A path leads to the same location when a file has been taken away. -/
theorem locate_without (h : store.file? location = some contents) {other : Location} :
    (store.without location).locate path = .ok other ↔ store.locate path = .ok other := by
  have hback : KeepsFolders (store.without location) store :=
    ⟨rfl, fun _ => (folder_without_iff h).mp⟩
  have hforth : KeepsFolders store (store.without location) :=
    ⟨rfl, fun _ => (folder_without_iff h).mpr⟩
  exact ⟨hback.locate, hforth.locate⟩

/-- What is read elsewhere is the same when a file has been taken away. -/
theorem read_without (h : store.file? location = some contents)
    (hother : store.locate path ≠ .ok location) :
    (store.without location).read path = .ok text ↔ store.read path = .ok text := by
  rw [read_eq_ok, read_eq_ok]
  refine exists_congr fun found => ?_
  rw [locate_without h]
  refine and_congr_right fun hlocate => ?_
  have hne : found ≠ location := fun heq => hother (heq ▸ hlocate)
  rw [file?_without h, if_neg hne]

/-- A store from which files below a location have been taken away, and no other file. -/
structure Loses (base : Location) (gone : List Location) (before after : Store) : Prop where
  keeps : before.KeepsFolders after
  unshared : after.Unshared base
  absent : ∀ names ∈ gone, after.file? (base ++ names) = none
  others : ∀ location, (∀ names ∈ gone, location ≠ base ++ names) →
    after.file? location = before.file? location

/-- Files that are taken away one after another are all gone. -/
theorem Loses.cons {middle : Store} {gone : List Location}
    (hfirst : store.Loses base [names] middle) (hrest : middle.Loses base gone next) :
    store.Loses base (names :: gone) next := by
  refine ⟨hfirst.keeps.trans hrest.keeps, hrest.unshared,
    List.forall_mem_cons.mpr ⟨?_, hrest.absent⟩, fun location hother => ?_⟩
  · by_cases hgone : names ∈ gone
    · exact hrest.absent names hgone
    · have hkept : ∀ other ∈ gone, base ++ names ≠ base ++ other := by
        intro other hother heq
        obtain rfl := List.append_cancel_left heq
        exact hgone hother
      rw [hrest.others _ hkept]
      exact hfirst.absent names List.mem_cons_self
  · obtain ⟨hother, hothers⟩ := List.forall_mem_cons.mp hother
    rw [hrest.others location hothers]
    exact hfirst.others location (List.forall_mem_singleton.mpr hother)

end Store

open Store (perform_bind_eq_ok perform_pure_eq_ok perform_adapt_eq_ok perform_attempt_eq_ok)

namespace FilePath

/-- The pieces of a path that is spelled by names are these. -/
theorem Spells.pieces {path : String} {ordered : List String} (h : Spells path ordered)
    (hne : ordered ≠ []) : Store.pieces path = ordered := by
  obtain ⟨rfl, hordinary⟩ := h
  rw [Store.pieces, Text.splitText_joinText (fun name hname => (hordinary name hname).unslashed) hne]
  exact List.filter_eq_self.mpr fun name hname => decide_eq_true (hordinary name hname).nonempty

end FilePath

namespace Artifacts

variable {artifacts : Artifacts} {output : String} {base : Location} {names : List String}

/-- The path of a file below a directory, as it is listed. -/
def listedPath (output : String) (names : List String) : String :=
  FilePath.join output (Text.joinText '/' names)

/-- Whether a file of a directory is none of a set, but can be read and is marked as generated. -/
def isStale (artifacts : Artifacts) (output : String) (store : Store) (names : List String) :
    Bool :=
  !artifacts.contains (FilePath.steps (Text.joinText '/' names))
    && (store.read (listedPath output names)).toOption.any isGenerated

theorem isStale_iff {store : Store} : artifacts.isStale output store names = true
    ↔ artifacts.contains (FilePath.steps (Text.joinText '/' names)) = false
      ∧ ∃ text, store.read (listedPath output names) = .ok text ∧ isGenerated text = true := by
  rw [isStale, Bool.and_eq_true_iff, Bool.not_eq_true', Option.any_eq_true]
  simp only [toOption_eq_some]

/-- Proper names spell the path under which they are listed. -/
theorem spells_listed (hnames : ∀ name ∈ names, Store.ProperName name) :
    FilePath.Spells (Text.joinText '/' names) names :=
  ⟨rfl, fun name hname => (hnames name hname).ordinary⟩

/-- A listed path leads to its file, if anywhere. -/
theorem eq_of_locate_listedPath {store : Store} {location : Location} (houtput : output ≠ "")
    (hbase : store.locate output = .ok base) (hne : names ≠ [])
    (hnames : ∀ name ∈ names, Store.ProperName name)
    (h : store.locate (listedPath output names) = .ok location) : location = base ++ names := by
  have hspells := spells_listed hnames
  rw [Store.eq_of_locate_join houtput (hspells.isInner hne) hbase h, hspells.names_path]

/-- A system takes a listed path unless it is too long. -/
theorem checkPath_listedPath (hcheck : Store.checkPath output = .ok ()) (hne : names ≠ [])
    (hnames : ∀ name ∈ names, Store.ProperName name) :
    Store.checkPath (listedPath output names) = .ok ()
      ↔ (listedPath output names).utf8ByteSize ≤ Store.pathLimit := by
  obtain ⟨hnul, houtput, -⟩ := Store.checkPath_eq_ok.mp hcheck
  have habsolute := FilePath.isAbsolute_of_isInner ((spells_listed hnames).isInner hne)
  obtain ⟨front, hjoin, hfront⟩ := FilePath.exists_join houtput habsolute
  have hfrontNul : ∀ c ∈ front, c.toNat ≠ 0 := fun c hc => hnul c (by
    rcases hfront with hfront | hfront
    · exact hfront ▸ hc
    · exact hfront ▸ List.mem_append_left _ hc)
  have hslash : '/'.toNat ≠ 0 := by decide
  rw [Store.checkPath_eq_ok]
  refine ⟨fun h => h.2.2, fun hshort => ⟨fun c hc => ?_, fun hempty => ?_, hshort⟩⟩
  · rw [listedPath, hjoin] at hc
    rcases List.mem_append.mp hc with hc | hc
    · exact hfrontNul c hc
    · rcases List.mem_cons.mp hc with rfl | hc
      · exact hslash
      · rw [Text.joinText, String.toList_ofList] at hc
        rcases Text.of_mem_joinAt hc with rfl | ⟨chars, hchars, hc⟩
        · exact hslash
        · obtain ⟨name, hname, rfl⟩ := List.mem_map.mp hchars
          exact (hnames name hname).withoutNul c hc
  · rw [listedPath, ← String.toList_inj, hjoin] at hempty
    exact List.append_ne_nil_of_right_ne_nil _ (List.cons_ne_nil _ _) hempty

/-- A file that is taken away is gone, and the others are as stale as before. -/
theorem loses_of_remove {store next : Store} (houtput : output ≠ "") (hstore : store.Unshared base)
    (hbase : store.locate output = .ok base) (hne : names ≠ [])
    (hnames : ∀ name ∈ names, Store.ProperName name)
    (h : store.remove (listedPath output names) = .ok next) :
    store.Loses base [names] next ∧ ∀ {other : List String},
      (other ≠ [] ∧ ∀ name ∈ other, Store.ProperName name) → other ≠ names →
        artifacts.isStale output next other = artifacts.isStale output store other := by
  obtain ⟨location, contents, hlocate, hfile, rfl⟩ := Store.of_remove_eq_ok h
  obtain rfl := eq_of_locate_listedPath houtput hbase hne hnames hlocate
  refine ⟨⟨⟨rfl, fun _ => (Store.folder_without_iff hfile).mpr⟩, hstore.without hfile, ?_,
    fun location hother => ?_⟩, fun {other} hproper hother => ?_⟩
  · refine List.forall_mem_singleton.mpr ?_
    rw [Store.file?_without hfile, if_pos rfl]
  · rw [Store.file?_without hfile, if_neg (hother names List.mem_cons_self)]
  · have helsewhere : store.locate (listedPath output other) ≠ .ok (base ++ names) := fun hsame =>
      hother (List.append_cancel_left
        (eq_of_locate_listedPath houtput hbase hproper.1 hproper.2 hsame)).symm
    rw [Bool.eq_iff_iff, isStale_iff, isStale_iff]
    simp only [Store.read_without hfile helsewhere]

/-- A listed file is passed over, or it is stale and taken away. -/
theorem cases_of_removeStale_cons {store next : Store} {others removed : List String}
    (h : store.perform (artifacts.removeStale output (Text.joinText '/' names :: others))
      = (.ok removed, next)) :
    (artifacts.isStale output store names = false
        ∧ store.perform (artifacts.removeStale output others) = (.ok removed, next))
      ∨ (artifacts.isStale output store names = true
        ∧ ∃ middle removed', store.remove (listedPath output names) = .ok middle
          ∧ middle.perform (artifacts.removeStale output others) = (.ok removed', next)
          ∧ removed = Text.joinText '/' names :: removed') := by
  rw [removeStale] at h
  split at h
  · rename_i hcontains
    refine .inl ⟨?_, h⟩
    rw [isStale, hcontains]
    rfl
  · rename_i hcontains
    obtain ⟨found, same, hread, h⟩ := perform_bind_eq_ok.mp h
    rw [perform_readable] at hread
    obtain ⟨hfound, rfl⟩ := Prod.mk.inj hread
    obtain rfl := Except.ok.inj hfound
    have hstale : artifacts.isStale output store names
        = (store.read (listedPath output names)).toOption.any isGenerated := by
      rw [isStale, Bool.eq_false_iff.mpr hcontains]
      rfl
    rw [hstale]
    split at h
    · rename_i hnone
      refine .inl ⟨?_, h⟩
      rw [listedPath, hnone]
      rfl
    · rename_i text htext
      rw [listedPath, htext]
      split at h
      · rename_i hgenerated
        obtain ⟨⟨⟩, middle, hremove, h⟩ := perform_bind_eq_ok.mp h
        obtain ⟨removed', last, hrest, h⟩ := perform_bind_eq_ok.mp h
        obtain ⟨rfl, rfl⟩ := perform_pure_eq_ok.mp h
        exact .inr ⟨hgenerated, middle, removed',
          perform_attempt_eq_ok.mp (perform_adapt_eq_ok.mp hremove), hrest, rfl⟩
      · rename_i hgenerated
        exact .inl ⟨Bool.eq_false_iff.mpr hgenerated, h⟩

/-- **STALE FILES** are removed, all of them and nothing else. -/
theorem of_removeStale_eq_ok (houtput : output ≠ "") : ∀ {below : List Location}
    {store next : Store} {removed : List String},
    below.Nodup → (∀ names ∈ below, names ≠ [] ∧ ∀ name ∈ names, Store.ProperName name) →
    store.Unshared base → store.locate output = .ok base →
    store.perform (artifacts.removeStale output (below.map (Text.joinText '/')))
      = (.ok removed, next) →
      removed = (below.filter (artifacts.isStale output store)).map (Text.joinText '/')
        ∧ store.Loses base (below.filter (artifacts.isStale output store)) next := by
  intro below
  induction below with
  | nil =>
      intro store next removed _ _ hstore _ h
      obtain ⟨rfl, rfl⟩ := perform_pure_eq_ok.mp h
      exact ⟨rfl, .refl _, hstore, List.forall_mem_nil _, fun _ _ => rfl⟩
  | cons names below ih =>
      intro store next removed hnodup hproper hstore hbase h
      obtain ⟨hname, hnodup⟩ := List.nodup_cons.mp hnodup
      obtain ⟨⟨hne, hnames⟩, hproper⟩ := List.forall_mem_cons.mp hproper
      rcases cases_of_removeStale_cons h with
        ⟨hfresh, hrest⟩ | ⟨hstale, middle, removed', hremove, hrest, rfl⟩
      · rw [List.filter_cons_of_neg (Bool.eq_false_iff.mp hfresh)]
        exact ih hnodup hproper hstore hbase hrest
      · obtain ⟨hfirst, hstales⟩ := loses_of_remove houtput hstore hbase hne hnames hremove
        -- the other files are as stale as before
        have hsame : below.filter (artifacts.isStale output middle)
            = below.filter (artifacts.isStale output store) :=
          List.filter_congr fun other hother => hstales (hproper other hother)
            fun heq => hname (heq ▸ hother)
        obtain ⟨rfl, hlosesRest⟩ := ih hnodup hproper hfirst.unshared
          (hfirst.keeps.locate hbase) hrest
        rw [hsame] at hlosesRest ⊢
        rw [List.filter_cons_of_pos hstale]
        refine ⟨rfl, hfirst.cons hlosesRest⟩

end Artifacts

end Bindery
