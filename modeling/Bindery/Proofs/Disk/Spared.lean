import Bindery.Proofs.Disk.Guarded
import Bindery.Proofs.Disk.Sync

/-! # Spared files — what a write leaves alone, however it ends

    Work alters files at some places when all others are the same after it,
    whether it succeeds or fails, no directory is gone, and no file has got
    another location (`Store.Alters`).  Of guarded work this is told for every
    guard (`Guard.Touches`): it holds of work that is put together from steps if
    it holds of each step (`Touches.bind`), of asking at no place at all, and of
    writing at all locations of the file that the path leads to (`Store.LedTo`),
    also when the write breaks off (`touches_write`).

    Files are written below the home of an output directory, which is where its
    path leads (`Store.Home`); an inner path stays below it
    (`Home.eq_of_locate_join`).

    A write of generated files may end at any point: a path leads through a file,
    a disk is full, a request is refused.  Whatever it has done by then, it has
    changed files at two kinds of places only: those of the files of the set, by
    whatever names a link has given them, and those of files in the directory that
    are marked as generated and can be read (`Artifacts.Spares`).  Both passes are
    followed request by request (`touches_writeFiles`, `touches_removeStale`); a
    file that neither pass of the set has reached is marked in the second one only
    if it was at the start.

    Every change is below the directory because the paths of the set are checked
    before the first request: a set that does not pass makes none
    (`write_spares`). -/

namespace Bindery

namespace Store

variable {store next last : Store} {output path : String} {base base' location : Location}
  {places places' : Location → Prop} {contents : Contents}

/-- The location of a directory that files are written into: where its path leads, and where relative
    paths start from if it has none. -/
def Home (store : Store) (output : String) (base : Location) : Prop :=
  output = "" ∧ base = store.workingFolder ∨ store.locate output = .ok base

/-- A location that names lead to from another one. -/
def Below (base : Location) (names : List String) (location : Location) : Prop :=
  names ≠ [] ∧ location = base ++ names

/-- A location of the file that names lead to from another one: there, or wherever else it is. -/
def LedTo (store : Store) (base : Location) (names : List String) (location : Location) : Prop :=
  names ≠ [] ∧ store.SameFile (base ++ names) location

/-- Whether the file at a location is marked as generated. -/
def IsMarked (store : Store) (location : Location) : Prop :=
  ∃ text, store.file? location = some (.text text) ∧ isGenerated text = true

/-- A store in which files have changed at some places only, and no file is at a location of another
    one. -/
structure Alters (places : Location → Prop) (before after : Store) : Prop where
  keeps : before.KeepsFolders after
  consistent : after.Consistent
  shares : ∀ location other, after.SameFile location other → before.SameFile location other
  others : ∀ location, ¬ places location → after.file? location = before.file? location

theorem Alters.refl (hstore : store.Consistent) : Alters places store store :=
  ⟨.refl store, hstore, fun _ _ => id, fun _ _ => rfl⟩

theorem Alters.trans (h : Alters places store next) (h' : Alters places next last) :
    Alters places store last :=
  ⟨h.keeps.trans h'.keeps, h'.consistent, fun location other hsame =>
    h.shares location other (h'.shares location other hsame), fun location hother =>
    (h'.others location hother).trans (h.others location hother)⟩

theorem Alters.mono (h : Alters places store next)
    (hmore : ∀ location, places location → places' location) : Alters places' store next :=
  ⟨h.keeps, h.consistent, h.shares, fun location hother => h.others location (hother ∘ hmore location)⟩

/-- Names lead to no more locations than before. -/
theorem Alters.ledTo {names : List String} (h : Alters places store next)
    (hled : next.LedTo base names location) : store.LedTo base names location :=
  ⟨hled.1, h.shares _ _ hled.2⟩

/-- Directories that are added alter no file. -/
theorem Adds.alters (h : store.Adds next) (hstore : store.Consistent) : store.Alters places next where
  keeps := h.keeps
  consistent := h.consistent hstore
  shares location other hsame := by
    rwa [SameFile, h.numbers] at hsame
  others location _ := h.files location

/-- A directory stays where it is as long as all directories do. -/
theorem KeepsFolders.home (h : store.KeepsFolders next) (hhome : store.Home output base) :
    next.Home output base := by
  rcases hhome with ⟨houtput, rfl⟩ | hbase
  · exact .inl ⟨houtput, h.workingFolder.symm⟩
  · exact .inr (h.locate hbase)

/-- It is in one place. -/
theorem Home.unique (h : store.Home output base) (h' : store.Home output base') : base = base' := by
  have hnone : ∀ location, store.locate "" ≠ .ok location := fun location hlocate => nomatch hlocate
  rcases h with ⟨rfl, rfl⟩ | hbase <;> rcases h' with ⟨houtput, rfl⟩ | hbase'
  · rfl
  · exact absurd hbase' (hnone base')
  · exact absurd (houtput ▸ hbase) (hnone base)
  · exact Except.ok.inj (hbase.symm.trans hbase')

/-- An inner path leads to a location below it. -/
theorem Home.eq_of_locate_join (h : store.Home output base) (hinner : FilePath.isInner path = true)
    (hlocate : store.locate (FilePath.join output path) = .ok location) :
    location = base ++ FilePath.names path := by
  by_cases houtput : output = ""
  · subst houtput
    obtain ⟨-, rfl⟩ := h.resolve_right fun hbase => nomatch hbase
    have hjoin : FilePath.join "" path = path := if_pos (.inr rfl)
    rw [hjoin] at hlocate
    obtain ⟨⟨⟩, -, hfollow⟩ := bind_eq_ok.mp hlocate
    unfold follow at hfollow
    rw [FilePath.isAbsolute_of_isInner hinner] at hfollow
    rw [eq_of_foldlM_step (FilePath.notMem_above hinner) hfollow, FilePath.names_eq]
    rfl
  · exact Store.eq_of_locate_join houtput hinner (h.resolve_left fun h => houtput h.1) hlocate

/-- Writing alters the file that its path leads to. -/
theorem Home.alters_of_write (h : store.Home output base) (hstore : store.Consistent)
    (hinner : FilePath.isInner path = true)
    (hwrite : store.write (FilePath.join output path) contents = .ok next) :
    store.Alters (store.LedTo base (FilePath.names path)) next := by
  obtain ⟨folder, name, hlocate, hfolder, hname, hlast, hdots, -, hover, rfl⟩ :=
    of_write_eq_ok hwrite
  have hlocation := h.eq_of_locate_join hinner hlocate
  -- the path ends in the name of the file
  have hnames : FilePath.names path ≠ [] := by
    have hmem : name ∈ pieces path := by
      by_cases houtput : output = ""
      · rw [houtput, FilePath.join, if_pos (.inr rfl)] at hlast
        exact List.mem_of_getLast? hlast
      · rw [FilePath.getLast?_pieces_join houtput hinner] at hlast
        exact List.mem_of_getLast? hlast
    rw [FilePath.names_eq]
    exact List.ne_nil_of_mem (List.mem_filter.mpr ⟨hmem, by rw [hdots]; rfl⟩)
  refine ⟨hstore.keepsFolders_fill hover, hstore.fill hfolder hname hover, fun _ _ => id,
    fun location hother => ?_⟩
  rw [hstore.file?_fill hover, if_neg fun hsame => hother ⟨hnames, hlocation ▸ hsame⟩]

/-- A write that breaks off alters nothing else. -/
theorem Home.alters_of_spoil (h : store.Home output base) (hstore : store.Consistent)
    (hinner : FilePath.isInner path = true) (failure : Failure) :
    store.Alters (store.LedTo base (FilePath.names path))
      (Guard.spoil (FilePath.join output path) failure store) := by
  unfold Guard.spoil
  split
  · exact .refl hstore
  · rename_i left _
    cases hwrite : store.write (FilePath.join output path) left with
    | ok next => exact h.alters_of_write hstore hinner hwrite
    | error fault => exact .refl hstore

/-- Taking a file away alters its location only. -/
theorem alters_of_without (hstore : store.Consistent) (hfile : store.file? location = some contents) :
    store.Alters (· = location) (store.without location) := by
  refine ⟨⟨rfl, fun _ => (folder_without_iff hfile).mpr⟩, hstore.without hfile,
    fun place other => ?_, fun other hother => ?_⟩
  · refine Or.imp_right fun ⟨number, hplace, hnumber⟩ => ⟨number, ?_, ?_⟩
    · rw [without, SortedMap.get?_erase] at hplace
      exact (Option.ite_none_left_eq_some.mp hplace).2
    · rw [without, SortedMap.get?_erase] at hnumber
      exact (Option.ite_none_left_eq_some.mp hnumber).2
  · rw [file?_without hfile, if_neg hother]

end Store

namespace Guard

variable {σ ε ε' α β : Type} {guard : Guard σ} {state : Store × σ} {path : String}
  {places : Location → Prop} {work : ExceptT ε (Guarded guard) α}

/-- Work that alters files at some places of a consistent store only, however it ends. -/
def Touches (guard : Guard σ) (places : Location → Prop) (work : ExceptT ε (Guarded guard) α)
    (state : Store × σ) : Prop :=
  state.1.Consistent → state.1.Alters places (guard.perform work state).2.1

/-- Whether a path is never read: it is too long, or the guard does not let it be. -/
def Hides (guard : Guard σ) (path : String) : Prop :=
  Store.pathLimit < path.utf8ByteSize
    ∨ ∀ state, ∃ failure, (guard.judge (.read path) state).1 = some failure

/-! ## Work that is put together -/

theorem touches_pure (a : α) :
    guard.Touches places (pure a : ExceptT ε (Guarded guard) α) state :=
  .refl

theorem Touches.mono {places' : Location → Prop} (h : guard.Touches places work state)
    (hmore : ∀ location, places location → places' location) : guard.Touches places' work state :=
  fun hstore => (h hstore).mono hmore

/-- Other words for a failure do not matter. -/
theorem Touches.adapt (h : guard.Touches places work state) (word : ε → ε') :
    guard.Touches places (work.adapt word) state :=
  h

/-- What work leaves is altered at its places. -/
theorem Touches.alters {result : Except ε α} {next : Store × σ} (h : guard.Touches places work state)
    (hstore : state.1.Consistent) (hwork : guard.perform work state = (result, next)) :
    state.1.Alters places next.1 := by
  have halters := h hstore
  rwa [hwork] at halters

/-- **STEP BY STEP**: what follows starts from where the first part has left off, if this succeeds. -/
theorem Touches.bind {further : α → ExceptT ε (Guarded guard) β} (h : guard.Touches places work state)
    (hfurther : ∀ a next, guard.perform work state = (.ok a, next) → state.1.Alters places next.1 →
      guard.Touches places (further a) next) : guard.Touches places (work >>= further) state := by
  intro hstore
  rw [perform_bind]
  split
  · rename_i a next hwork
    have hdone := h.alters hstore hwork
    exact hdone.trans (hfurther a next hwork hdone hdone.consistent)
  · rename_i e next hwork
    exact h.alters hstore hwork

/-! ## Requests -/

/-- Asking alters nothing. -/
theorem touches_ask (request : Request) (query : Store → Except FileFault α) :
    guard.Touches places (guard.pass request (Store.ask query)) state := by
  obtain ⟨result, last, hasked⟩ : ∃ result last,
      guard.perform (guard.pass request (Store.ask query)) state = (result, last) := ⟨_, _, rfl⟩
  intro hstore
  rw [hasked, (of_ask hasked).1]
  exact .refl hstore

/-- Work that asks for a text goes on where nothing has changed; what it was told is there and not
    hidden. -/
theorem touches_readable_bind {further : Option String → ExceptT ε (Guarded guard) α}
    (hfurther : ∀ found asked, asked.1 = state.1 →
      (∀ text, found = some text → state.1.read path = .ok text ∧ ¬ guard.Hides path) →
        guard.Touches places (further found) asked) :
    guard.Touches places (liftM (readable? (m := Guarded guard) path) >>= further) state := by
  obtain ⟨answer, asked, hread⟩ : ∃ answer asked,
      guard.perform (guard.pass (.read path) (Store.ask (·.read path))) state = (answer, asked) :=
    ⟨_, _, rfl⟩
  obtain ⟨hstore, hanswer⟩ := of_ask hread
  intro hconsistent
  have hsame : guard.perform (FileSystem.read path) state = (answer, asked) := hread
  rw [← hstore] at hconsistent
  rw [perform_bind, perform_readable, hsame, ← hstore]
  refine hfurther answer.toOption asked hstore (fun text htext => ?_) hconsistent
  obtain ⟨hfound, hjudge⟩ := hanswer text (toOption_eq_some.mp htext)
  refine ⟨hfound, ?_⟩
  rintro (hlong | hrefused)
  · obtain ⟨location, hlocate, -⟩ := Store.read_eq_ok.mp hfound
    exact absurd (Store.checkPath_eq_ok.mp (Store.checkPath_of_locate hlocate)).2.2 (by omega)
  · obtain ⟨failure, hfailure⟩ := hrefused state
    rw [hjudge] at hfailure
    exact nomatch hfailure

/-- Making directories alters no file. -/
theorem touches_createFolders :
    guard.Touches places (FileSystem.createFolders path) state :=
  (of_createFolders rfl).1.alters

/-- Writing a file below a directory alters that file only. -/
theorem touches_write {output : String} {base : Location} (contents : String)
    (hinner : FilePath.isInner path = true) (hhome : state.1.Home output base) :
    guard.Touches (state.1.LedTo base (FilePath.names path))
      (FileSystem.write (FilePath.join output path) contents) state := by
  intro hstore
  obtain ⟨result, last, hwrite⟩ : ∃ result last,
      guard.perform (FileSystem.write (FilePath.join output path) contents) state
        = (result, last) := ⟨_, _, rfl⟩
  rw [hwrite]
  rcases cases_of_attempt hwrite with ⟨-, hdone⟩ | ⟨-, hsame | ⟨failure, hbroken⟩⟩
  · exact hhome.alters_of_write hstore hinner hdone
  · rw [hsame]
    exact .refl hstore
  · rw [hbroken]
    exact hhome.alters_of_spoil hstore hinner failure

/-- A request to take a file away is done or leaves all as it is. -/
theorem cases_of_remove {result : Except FileFault Unit} {last : Store × σ}
    (h : guard.perform (FileSystem.remove path) state = (result, last)) :
    last.1 = state.1 ∨ state.1.remove path = .ok last.1 := by
  have hattempt : guard.perform (guard.pass (.remove path) (Store.attempt (·.remove path))) state
    = (result, last) := h
  rcases cases_of_attempt hattempt with ⟨-, hdone⟩ | ⟨-, hsame | ⟨failure, hsame⟩⟩
  · exact .inr hdone
  · exact .inl hsame
  · exact .inl hsame

end Guard

end Bindery

/-! ## What a write alters -/

namespace Bindery

open Guard (touches_pure touches_ask touches_readable_bind touches_createFolders cases_of_remove
  of_ask of_createFolders cases_of_bind perform_bind perform_adapt_eq_ok)

variable {σ : Type} {guard : Guard σ} {state : Store × σ} {output : String} {base : Location}

namespace Artifact

variable {file : Artifact}

/-- Writing a file of a set alters that file only. -/
theorem touches_write (hinner : FilePath.isInner file.path = true)
    (hhome : state.1.Home output base) :
    guard.Touches (state.1.LedTo base file.names) (file.write output) state := by
  have hput : ∀ {made : Store × σ}, made.1.Home output base →
      guard.Touches (made.1.LedTo base file.names) (do
        (FileSystem.write (FilePath.join output file.path) file.contents).adapt
          (RenderError.unwritable (FilePath.join output file.path))
        return true) made := fun hhome =>
    ((Guard.touches_write file.contents hinner hhome).adapt _).bind fun _ _ _ _ => touches_pure true
  unfold write
  dsimp only
  refine touches_readable_bind fun found asked hstore _ => ?_
  rw [← hstore] at hhome ⊢
  split
  · exact touches_pure false
  · split
    · exact (touches_createFolders.adapt _).bind fun _ made _ hmade =>
        (hput (hmade.keeps.home hhome)).mono fun _ => hmade.ledTo
    · exact hput hhome

end Artifact

namespace Artifacts

variable {artifacts : Artifacts} {store next : Store} {hidden hidden' : σ}

/-- Writing the files of a set alters these only. -/
theorem touches_writeFiles {files : List Artifact}
    (hinner : ∀ file ∈ files, FilePath.isInner file.path = true) (hhome : state.1.Home output base) :
    guard.Touches (fun location => ∃ file ∈ files, state.1.LedTo base file.names location)
      (writeFiles output files) state := by
  induction files generalizing state with
  | nil => exact touches_pure _
  | cons file files ih =>
      obtain ⟨hfile, hinner⟩ := List.forall_mem_cons.mp hinner
      rw [writeFiles]
      refine ((Artifact.touches_write hfile hhome).mono fun location hplace =>
        ⟨file, List.mem_cons_self, hplace⟩).bind fun wrote next _ halters => ?_
      have hrest : guard.Touches
          (fun location => ∃ other ∈ file :: files, state.1.LedTo base other.names location)
          (writeFiles output files) next :=
        (ih hinner (halters.keeps.home hhome)).mono fun location hplace =>
          hplace.imp fun other hled => hled.imp (List.mem_cons_of_mem _) halters.ledTo
      split
      all_goals exact hrest.bind fun _ _ _ _ => touches_pure _

/-- The places of files that are marked as generated, and can be read. -/
def Prunable (guard : Guard σ) (output : String) (base : Location) (store : Store)
    (location : Location) : Prop :=
  ∃ names, Store.Below base names location ∧ store.IsMarked location
    ∧ ¬ guard.Hides (listedPath output names)

/-- Taking a marked file away alters its place, and marks no other file. -/
theorem prunes_of_remove {store next : Store} {names : List String} {text : String}
    (hstore : store.Consistent) (houtput : output ≠ "") (hbase : store.locate output = .ok base)
    (hne : names ≠ []) (hnames : ∀ name ∈ names, Store.ProperName name)
    (hread : store.read (listedPath output names) = .ok text) (hgenerated : isGenerated text = true)
    (hshown : ¬ guard.Hides (listedPath output names))
    (hremove : store.remove (listedPath output names) = .ok next) :
    store.Alters (Prunable guard output base store) next
      ∧ ∀ location, next.IsMarked location → store.IsMarked location := by
  obtain ⟨location, contents, hlocate, hfile, rfl⟩ := Store.of_remove_eq_ok hremove
  obtain rfl := eq_of_locate_listedPath houtput hbase hne hnames hlocate
  have hmarked : store.IsMarked (base ++ names) := by
    obtain ⟨location, hfound, hthere, -⟩ := Store.read_eq_ok.mp hread
    obtain rfl := Except.ok.inj (hfound.symm.trans hlocate)
    exact ⟨text, hthere, hgenerated⟩
  refine ⟨(Store.alters_of_without hstore hfile).mono fun location hlocation => ?_,
    fun location => ?_⟩
  · subst hlocation
    exact ⟨names, ⟨hne, rfl⟩, hmarked, hshown⟩
  · rintro ⟨found, hfound, hmark⟩
    rw [Store.file?_without hfile] at hfound
    split at hfound
    · exact nomatch hfound
    · exact ⟨found, hfound, hmark⟩

/-- Removing stale files alters the places of marked files that can be read only. -/
theorem touches_removeStale (houtput : output ≠ "") {below : List Location}
    (hproper : ∀ names ∈ below, names ≠ [] ∧ ∀ name ∈ names, Store.ProperName name)
    (hbase : state.1.locate output = .ok base) :
    guard.Touches (Prunable guard output base state.1)
      (removeStale artifacts output (below.map (Text.joinText '/'))) state := by
  induction below generalizing state with
  | nil => exact touches_pure _
  | cons names below ih =>
      obtain ⟨⟨hne, hnames⟩, hproper⟩ := List.forall_mem_cons.mp hproper
      rw [List.map_cons, removeStale]
      split
      · exact ih hproper hbase
      · refine touches_readable_bind fun found asked hstore hfound => ?_
        rw [← hstore] at hbase hfound ⊢
        split
        · exact ih hproper hbase
        · rename_i text
          split
          · rename_i hgenerated
            obtain ⟨hread, hshown⟩ := hfound text rfl
            -- the file is gone or, if its removal failed, nothing has changed
            have hgone : ∀ result next, asked.1.Consistent →
                guard.perform (FileSystem.remove (listedPath output names)) asked
                  = (result, next) →
                asked.1.Alters (Prunable guard output base asked.1) next.1
                  ∧ ∀ location, next.1.IsMarked location → asked.1.IsMarked location := by
              intro result next hconsistent hperform
              rcases cases_of_remove hperform with hsame | hremove
              · rw [hsame]
                exact ⟨.refl hconsistent, fun _ => id⟩
              · exact prunes_of_remove hconsistent houtput hbase hne hnames hread hgenerated hshown
                  hremove
            have hremove : guard.Touches (Prunable guard output base asked.1)
                (FileSystem.remove (listedPath output names)) asked :=
              fun hconsistent => (hgone _ _ hconsistent rfl).1
            intro hconsistent
            refine (hremove.adapt _).bind (fun _ next hperform halters => ?_) hconsistent
            have hmarks := (hgone _ next hconsistent (perform_adapt_eq_ok.mp hperform)).2
            refine Guard.Touches.bind ((ih hproper (halters.keeps.locate hbase)).mono ?_)
              fun _ _ _ _ => touches_pure _
            rintro location ⟨other, hplace, hmark, hshown⟩
            exact ⟨other, hplace, hmarks location hmark, hshown⟩
          · exact ih hproper hbase

/-- What a write may change: the files of the set, and those it may remove. -/
def Reaches (artifacts : Artifacts) (guard : Guard σ) (output : String) (base : Location)
    (store : Store) (location : Location) : Prop :=
  (∃ file ∈ artifacts.files, store.LedTo base file.names location)
    ∨ Prunable guard output base store location

/-- Both passes over a directory that is there alter files within reach only. -/
theorem touches_passes (hinner : ∀ file ∈ artifacts.files, FilePath.isInner file.path = true)
    (hhome : state.1.Home output base)
    (hfolder : output ≠ "" → Store.entry? state.1 base = some .folder) :
    guard.Touches (artifacts.Reaches guard output base state.1) (do
      let (written, unchanged) ← writeFiles output artifacts.files
      let below ← (FileSystem.filesBelow output).adapt (RenderError.unlisted output)
      let removed ← artifacts.removeStale output below
      return (⟨written, unchanged, removed⟩ : Changes)) state := by
  intro hstore
  have hwrite : guard.Touches _ (writeFiles output artifacts.files) state :=
    touches_writeFiles hinner hhome
  refine (hwrite.mono fun location => .inl).bind (fun lists filled hfilled _ => ?_) hstore
  have halters := hwrite.alters hstore hfilled
  refine ((touches_ask (.list output) (·.filesBelow output)).adapt _).bind
    fun below listed hbelow _ => ?_
  obtain ⟨hsame, hbelow⟩ := of_ask (perform_adapt_eq_ok.mp hbelow)
  obtain ⟨hbelow, -⟩ := hbelow below rfl
  have houtput : output ≠ "" := by
    rintro rfl
    cases hbelow
  have hbase := hhome.resolve_left fun h => houtput h.1
  have hfilledBase := halters.keeps.locate hbase
  have hfilledFolder := halters.keeps.folders base (hfolder houtput)
  obtain rfl : (filled.1.filesIn base).map (Text.joinText '/') = below :=
    Except.ok.inj ((Store.filesBelow_eq hfilledBase hfilledFolder).symm.trans hbelow)
  have hremove : guard.Touches (Prunable guard output base listed.1)
      (artifacts.removeStale output ((filled.1.filesIn base).map (Text.joinText '/'))) listed :=
    touches_removeStale houtput
      (fun _ => Store.ordinary_of_mem_filesIn halters.consistent.toPlaced hfilledFolder)
      (hsame ▸ hfilledBase)
  refine (hremove.mono ?_).bind fun _ _ _ _ => touches_pure _
  -- what is none of the set is marked now only if it was at the start
  rintro location ⟨names, hplace, ⟨text, htext, hgenerated⟩, hshown⟩
  by_cases hset : ∃ file ∈ artifacts.files, state.1.LedTo base file.names location
  · exact .inl hset
  · rw [hsame, halters.others location hset] at htext
    exact .inr ⟨names, hplace, ⟨text, htext, hgenerated⟩, hshown⟩

/-- A set that is refused makes no request. -/
theorem perform_write_of_refused {e : RenderError} (hcheck : artifacts.checkInner = .error e)
    (state : Store × σ) : guard.perform (artifacts.write output) state = (.error e, state) := by
  rw [write, hcheck]
  rfl

/-- A write makes directories only, or finds its directory and alters files within reach. -/
theorem adds_or_alters_of_write (hcheck : artifacts.checkInner = .ok ()) (hstore : state.1.Consistent)
    {result : Except RenderError Changes} {last : Store × σ}
    (h : guard.perform (artifacts.write output) state = (result, last)) :
    state.1.Adds last.1 ∨ ∃ base, last.1.Home output base
      ∧ state.1.Alters (artifacts.Reaches guard output base state.1) last.1 := by
  rw [write, hcheck, perform_bind] at h
  have h : guard.perform _ state = (result, last) := h
  rcases cases_of_bind h with ⟨e, hmade, -⟩ | ⟨⟨⟩, made, hmade, h⟩
  · have hlast : (guard.perform (FileSystem.createFolders output) state).2 = last :=
      congrArg Prod.snd hmade
    exact .inl (hlast ▸ (of_createFolders rfl).1)
  · obtain ⟨hadds, hmade⟩ := of_createFolders (perform_adapt_eq_ok.mp hmade)
    obtain ⟨base, hhome, hfolder⟩ : ∃ base, made.1.Home output base
        ∧ (output ≠ "" → Store.entry? made.1 base = some .folder) := by
      by_cases houtput : output = ""
      · exact ⟨made.1.workingFolder, .inl ⟨houtput, rfl⟩, fun hne => absurd houtput hne⟩
      · obtain ⟨base, hbase, hfolder⟩ := hmade rfl houtput
        exact ⟨base, .inr hbase, fun _ => hfolder⟩
    have halters := (touches_passes (isInner_of_checkInner hcheck) hhome hfolder).alters
      (hadds.consistent hstore) h
    have hmade : state.1.Alters (artifacts.Reaches guard output base state.1) made.1 :=
      hadds.alters hstore
    refine .inr ⟨base, halters.keeps.home hhome, hmade.trans (halters.mono ?_)⟩
    -- the files of the set are where they were, and the marked files are those of the start
    rintro location (⟨file, hfile, hled⟩ | ⟨names, hplace, ⟨text, htext, hgenerated⟩, hshown⟩)
    · exact .inl ⟨file, hfile, hmade.ledTo hled⟩
    · rw [hadds.files] at htext
      exact .inr ⟨names, hplace, ⟨text, htext, hgenerated⟩, hshown⟩

/-- Files that a write leaves alone under a guard: all those outside its directory, and those inside
    that are none of the set, unless they are marked as generated and can be read.  A file of the
    set is one of it by whatever name it has. -/
structure Spares (artifacts : Artifacts) (guard : Guard σ) (output : String) (before after : Store) :
    Prop where
  outside : ∀ location, (∀ base, after.Home output base →
    (∀ names, ¬ Store.Below base names location)
      ∧ ∀ file ∈ artifacts.files, ¬ before.LedTo base file.names location) →
    after.file? location = before.file? location
  inside : ∀ base names, after.Home output base →
    (∀ file ∈ artifacts.files, ¬ before.LedTo base file.names (base ++ names)) →
    (before.IsMarked (base ++ names) → guard.Hides (listedPath output names)) →
      after.file? (base ++ names) = before.file? (base ++ names)

/-- **A WRITE SPARES** all other files, wherever and however it ends; a set with a path that is empty,
    absolute or leads upwards is refused before the first request. -/
theorem write_spares (hstore : store.Consistent) {result : Except RenderError Changes}
    (h : guard.perform (artifacts.write output) (store, hidden) = (result, next, hidden')) :
    artifacts.Spares guard output store next
      ∧ ((∃ file ∈ artifacts.files, file.path = "" ∨ FilePath.isAbsolute file.path = true
          ∨ ".." ∈ Store.pieces file.path) →
        next = store ∧ hidden' = hidden
          ∧ ∃ file ∈ artifacts.files, result = .error (.unwritable file.path .outsideOutput)) := by
  cases hcheck : artifacts.checkInner with
  | error e =>
      rw [perform_write_of_refused hcheck] at h
      obtain ⟨rfl, hstate⟩ := Prod.mk.inj h
      obtain ⟨rfl, rfl⟩ := Prod.mk.inj hstate
      refine ⟨⟨fun _ _ => rfl, fun _ _ _ _ _ => rfl⟩, fun _ => ⟨rfl, rfl, ?_⟩⟩
      unfold checkInner at hcheck
      split at hcheck
      · exact nomatch hcheck
      · rename_i file hfind
        exact ⟨file, List.mem_of_find?_eq_some hfind, congrArg _ (Except.error.inj hcheck).symm⟩
  | ok =>
      refine ⟨?_, fun ⟨file, hfile, hpath⟩ => ?_⟩
      · rcases adds_or_alters_of_write hcheck hstore h with hadds | ⟨base, hhome, halters⟩
        · exact ⟨fun location _ => hadds.files location, fun base names _ _ _ => hadds.files _⟩
        · refine ⟨fun location hother => halters.others location ?_, fun base' names hhome' hset
            hhides => halters.others _ ?_⟩
          · rintro (⟨file, hfile, hled⟩ | ⟨names, hplace, -⟩)
            · exact (hother base hhome).2 file hfile hled
            · exact (hother base hhome).1 names hplace
          · obtain rfl := hhome.unique hhome'
            rintro (⟨file, hfile, hled⟩ | ⟨others, ⟨-, hplace⟩, hmarked, hshown⟩)
            · exact hset file hfile hled
            · obtain rfl := List.append_cancel_left hplace
              exact hshown (hhides hmarked)
      · have hinner := isInner_of_checkInner hcheck file hfile
        rcases hpath with hempty | habsolute | habove
        · rw [hempty] at hinner
          exact nomatch hinner
        · rw [FilePath.isAbsolute_of_isInner hinner] at habsolute
          exact nomatch habsolute
        · exact absurd habove (FilePath.notMem_above hinner)

/-- A directory with a file that is no text, one written by hand, and three that were generated once;
    another one is outside, and one of the three is there as well. -/
def cabinet : Store where
  entries := ⟨[(["work"], .folder),
    (["work", "kept.rs"],
      .file (.text "// This code was AUTOGENERATED using the idlforge library.\n")),
    (["work", "notes.rs"],
      .file (.text "// This code was AUTOGENERATED using the idlforge library.\n")),
    (["work", "out"], .folder),
    (["work", "out", "data.rs"], .file (.binary [255])),
    (["work", "out", "locked.rs"],
      .file (.text "// This code was AUTOGENERATED using the idlforge library.\n")),
    (["work", "out", "notes.md"], .file (.text "by hand")),
    (["work", "out", "old.rs"],
      .file (.text "// This code was AUTOGENERATED using the idlforge library.\n")),
    (["work", "out", "older.rs"],
      .file (.text "// This code was AUTOGENERATED using the idlforge library.\n"))],
    by decide +kernel⟩
  workingFolder := ["work"]
  numbers := ⟨[(["work", "kept.rs"], 0), (["work", "out", "old.rs"], 0)], by decide +kernel⟩

/-- A guard that counts the requests, and keeps one file from being read and another from being
    removed. -/
def locks : Guard Nat where
  judge request state :=
    (if request = .read "out/locked.rs" ∨ request = .remove "out/older.rs" then
      some ⟨.permissionDenied, none⟩ else none, state.2 + 1)

/-- What is left of the files when a write fails after it has removed the first of two. -/
def cabinetLeft : Store :=
  (cabinet.put ["work", "out", "new.rs"] (.file (.text "// new"))).without ["work", "out", "old.rs"]

theorem write_spares_cabinet :
    locks.perform ((ofFiles [("new.rs", "// new")]).write "out") (cabinet, 0)
        = (.error (.unwritable "out/older.rs" .permissionDenied), cabinetLeft, 14)
      ∧ (ofFiles [("new.rs", "// new")]).Spares locks "out" cabinet cabinetLeft
      ∧ (locks.perform ((ofFiles [("new.rs", "// new"), ("a/../../b.rs", "// b")]).write "out")
        (cabinet, 0)).2 = (cabinet, 0) := by
  have hstore : cabinet.Consistent := by decide +kernel
  have hfails : locks.perform ((ofFiles [("new.rs", "// new")]).write "out") (cabinet, 0)
      = (.error (.unwritable "out/older.rs" .permissionDenied), cabinetLeft, 14) := by decide +kernel
  obtain ⟨result, next, hidden, hrefused⟩ : ∃ result next hidden,
      locks.perform ((ofFiles [("new.rs", "// new"), ("a/../../b.rs", "// b")]).write "out")
        (cabinet, 0) = (result, next, hidden) := ⟨_, _, _, rfl⟩
  obtain ⟨rfl, rfl, -⟩ := (write_spares hstore hrefused).2
    ⟨⟨"a/../../b.rs", "// b"⟩, by decide +kernel, .inr (.inr (by decide +kernel))⟩
  exact ⟨hfails, (write_spares hstore hfails).1, congrArg Prod.snd hrefused⟩

end Artifacts

end Bindery
