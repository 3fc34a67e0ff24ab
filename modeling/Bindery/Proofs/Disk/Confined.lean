import Bindery.Proofs.Disk.Sync
import Bindery.Proofs.Disk.Ways

/-! # Confined work — what depends on one directory and changes nothing else

    Work on a directory is confined to it when it comes to the same on all stores
    that have the same there, leaves them the same there, and changes nothing
    elsewhere (`Store.Confined`).  Work that consists of confined steps is confined
    (`Confined.bind`); reading, writing and removing files behind inner paths are
    (`confined_write` and its like), making the directory of a path that ends in a
    name is (`confined_createFolders`), and so is all that is done with the files of
    a set once their directory is there (`Artifacts.confined_fill`). -/

namespace Bindery

namespace FilePath

variable {path directory : String}

/-- Whether a path ends in a name. -/
def endsInName (path : String) : Bool := (Store.pieces path).getLast?.any (!Store.isDots ·)

theorem endsInName_iff : endsInName path = true
    ↔ ∃ init last, Store.pieces path = init ++ [last] ∧ Store.isDots last = false := by
  rw [endsInName, Option.any_eq_true]
  constructor
  · rintro ⟨last, hlast, hname⟩
    obtain ⟨init, hinit⟩ := List.getLast?_eq_some_iff.mp hlast
    exact ⟨init, last, hinit, by simpa using hname⟩
  · rintro ⟨init, last, hpieces, hname⟩
    refine ⟨last, ?_, by rw [hname]; rfl⟩
    rw [hpieces, List.getLast?_concat]

/-- A path ends in a name when it ends in more letters than dots have. -/
theorem endsInName_append {ending : String} (hslash : '/' ∉ ending.toList)
    (hlong : 2 < ending.toList.length) (path : String) : endsInName (path ++ ending) = true := by
  obtain ⟨init, last, -, hsplit⟩ := Text.exists_splitAt_append hslash path.toList
  have hlength : 2 < (String.ofList (last ++ ending.toList)).toList.length := by
    rw [String.toList_ofList, List.length_append]
    omega
  have hne : ∀ short : String, short.toList.length ≤ 2 →
      String.ofList (last ++ ending.toList) ≠ short := fun short hshort heq => by
    rw [heq] at hlength
    omega
  refine endsInName_iff.mpr ⟨(init.map String.ofList).filter (· ≠ ""),
    String.ofList (last ++ ending.toList), ?_, ?_⟩
  · rw [Store.pieces, Text.splitText, String.toList_append, hsplit, List.map_append,
      List.filter_append, List.map_singleton]
    exact congrArg _ (List.filter_eq_self.mpr (List.forall_mem_singleton.mpr
      (decide_eq_true (hne "" (by decide)))))
  · rw [Store.isDots, decide_eq_false (hne "." (by decide)), decide_eq_false (hne ".." (by decide))]
    rfl

/-- A path that names spell ends in the last one. -/
theorem Spells.endsInName {ordered : List String} (h : Spells path ordered) (hne : ordered ≠ []) :
    endsInName path = true := by
  refine endsInName_iff.mpr ⟨ordered.dropLast, ordered.getLast hne, ?_, ?_⟩
  · rw [h.pieces hne, List.dropLast_append_getLast]
  · exact (h.2 _ (List.getLast_mem hne)).isDots

end FilePath

namespace Store

variable {ε ε' α β : Type} {store other next next' last : Store} {output path : String}
  {base : Location} {names parts : List String} {entry : FileEntry}

/-- A store with a directory that a path leads to. -/
structure Site (store : Store) (output : String) (base : Location) : Prop where
  wellFormed : store.WellFormed
  located : store.locate output = .ok base
  folder : store.entry? base = some .folder

/-- Two stores with the same entries at a location and below. -/
structure Alike (base : Location) (store other : Store) : Prop where
  workingFolder : other.workingFolder = store.workingFolder
  entries : ∀ names, other.entry? (base ++ names) = store.entry? (base ++ names)

/-- A store that is changed at a location and below only. -/
structure Within (base : Location) (before after : Store) : Prop where
  keeps : before.KeepsFolders after
  wellFormed : after.WellFormed
  others : ∀ location, ¬ base <+: location → after.entry? location = before.entry? location

/-- Work that depends on one directory and changes nothing else. -/
def Confined (output : String) (base : Location) (work : ExceptT ε (StateM Store) α) : Prop :=
  ∀ ⦃store other : Store⦄, store.Site output base → other.Site output base →
    Alike base store other → ∃ result next next', store.perform work = (result, next)
      ∧ other.perform work = (result, next') ∧ Alike base next next'
      ∧ Within base store next ∧ Within base other next'

/-! ## Steps -/

theorem Within.refl (hstore : store.WellFormed) : Within base store store :=
  ⟨.refl store, hstore, fun _ _ => rfl⟩

theorem Within.trans (h : Within base store next) (h' : Within base next last) :
    Within base store last :=
  ⟨h.keeps.trans h'.keeps, h'.wellFormed, fun location hother =>
    (h'.others location hother).trans (h.others location hother)⟩

/-- The directory is there still. -/
theorem Within.site (h : Within base store next) (hsite : store.Site output base) :
    next.Site output base :=
  ⟨h.wellFormed, h.keeps.locate hsite.located, h.keeps.folders base hsite.folder⟩

/-- A result is confined. -/
theorem confined_pure (a : α) : Confined output base (pure a : ExceptT ε (StateM Store) α) :=
  fun store other hsite hother halike => ⟨.ok a, store, other, rfl, rfl, halike,
    .refl hsite.wellFormed, .refl hother.wellFormed⟩

/-- So is one that is there already. -/
theorem confined_lift (x : Except ε α) :
    Confined output base (liftM x : ExceptT ε (StateM Store) α) :=
  fun store other hsite hother halike => ⟨x, store, other, rfl, rfl, halike,
    .refl hsite.wellFormed, .refl hother.wellFormed⟩

/-- What follows confined work is confined if it is on every result that this comes to. -/
theorem Confined.bind {work : ExceptT ε (StateM Store) α}
    {further : α → ExceptT ε (StateM Store) β} (h : Confined output base work)
    (hfurther : ∀ a, (∃ store next : Store, store.Site output base
      ∧ store.perform work = (.ok a, next)) →
      Confined output base (further a)) : Confined output base (work >>= further) := by
  intro store other hsite hother halike
  obtain ⟨result, next, next', hwork, hwork', halikeNext, hwithin, hwithin'⟩ :=
    h hsite hother halike
  cases result with
  | error e =>
      exact ⟨.error e, next, next', perform_bind_of_error hwork, perform_bind_of_error hwork',
        halikeNext, hwithin, hwithin'⟩
  | ok a =>
      obtain ⟨result, last, last', hrun, hrun', halikeLast, hrest, hrest'⟩ :=
        hfurther a ⟨store, next, hsite, hwork⟩ (hwithin.site hsite) (hwithin'.site hother) halikeNext
      exact ⟨result, last, last', (perform_bind_of_ok hwork).trans hrun,
        (perform_bind_of_ok hwork').trans hrun', halikeLast, hwithin.trans hrest,
        hwithin'.trans hrest'⟩

/-- Other words for a failure do not matter. -/
theorem Confined.adapt {work : ExceptT ε (StateM Store) α} (h : Confined output base work)
    (word : ε → ε') : Confined output base (work.adapt word) := by
  intro store other hsite hother halike
  obtain ⟨result, next, next', hwork, hwork', hrest⟩ := h hsite hother halike
  have hadapt : ∀ store : Store, store.perform (work.adapt word)
      = ((store.perform work).1.mapError word, (store.perform work).2) := fun _ => rfl
  exact ⟨result.mapError word, next, next', by rw [hadapt, hwork], by rw [hadapt, hwork'], hrest⟩

/-- A question with the same answer on all such stores is confined. -/
theorem confined_ask {query : Store → Except FileFault α}
    (h : ∀ ⦃store other : Store⦄, store.Site output base → other.Site output base →
      Alike base store other → query other = query store) : Confined output base (ask query) :=
  fun store other hsite hother halike => ⟨query store, store, other, rfl,
    congrArg (·, other) (h hsite hother halike), halike, .refl hsite.wellFormed,
    .refl hother.wellFormed⟩

/-- An operation is confined that fails alike, and changes the same below the directory only. -/
theorem confined_attempt {operation : Store → Except FileFault Store}
    (hfails : ∀ ⦃store other : Store⦄, store.Site output base → other.Site output base →
      Alike base store other → ∀ fault, operation other = .error fault
        ↔ operation store = .error fault)
    (hwithin : ∀ ⦃store next : Store⦄, store.Site output base → operation store = .ok next →
      Within base store next)
    (halikes : ∀ ⦃store other next next' : Store⦄, store.Site output base → other.Site output base →
      Alike base store other → operation store = .ok next → operation other = .ok next' →
        Alike base next next') : Confined output base (attempt operation) := by
  intro store other hsite hother halike
  have hsame := hfails hsite hother halike
  cases hdone : operation store with
  | error fault =>
      exact ⟨.error fault, store, other, perform_attempt_of_error _ hdone,
        perform_attempt_of_error _ ((hsame fault).mpr hdone), halike, .refl hsite.wellFormed,
        .refl hother.wellFormed⟩
  | ok next =>
      cases hdone' : operation other with
      | error fault => exact absurd ((hsame fault).mp hdone') (by rw [hdone]; nofun)
      | ok next' =>
          exact ⟨.ok (), next, next', perform_attempt_of_ok _ hdone,
            perform_attempt_of_ok _ hdone', halikes hsite hother halike hdone hdone',
            hwithin hsite hdone, hwithin hother hdone'⟩

/-! ## Paths below the directory -/

/-- The path of a site is no empty text. -/
theorem Site.named (h : store.Site output base) : output ≠ "" :=
  (checkPath_eq_ok.mp (checkPath_of_locate h.located)).2.1

/-- Below the directory all such stores take the same step. -/
theorem Alike.step (h : Alike base store other) (names : Location) (piece : String) :
    other.step (base ++ names) piece = store.step (base ++ names) piece := by
  unfold Store.step
  rw [h.entries]

/-- And the same way. -/
theorem Alike.foldlM_step (h : Alike base store other) (habove : ".." ∉ parts) (names : Location) :
    parts.foldlM other.step (base ++ names) = parts.foldlM store.step (base ++ names) := by
  induction parts generalizing names with
  | nil => rfl
  | cons piece parts ih =>
      rw [List.foldlM_cons, List.foldlM_cons, h.step]
      cases hstep : store.step (base ++ names) piece with
      | error fault => rfl
      | ok reached =>
          have hone : [piece].foldlM store.step (base ++ names) = .ok reached := by
            rw [List.foldlM_cons, hstep]
            rfl
          have hreached := eq_of_foldlM_step
            (fun hmem => habove (List.mem_singleton.mp hmem ▸ List.mem_cons_self)) hone
          rw [List.append_assoc] at hreached
          subst hreached
          exact ih (List.not_mem_of_not_mem_cons habove) _

section Paths

variable (hinner : FilePath.isInner path = true) (hsite : store.Site output base)
  (hother : other.Site output base) (halike : Alike base store other)

include hinner hsite

/-- Pieces behind those of the directory are followed from there. -/
theorem Site.follow_join (parts : List String) :
    store.follow (FilePath.join output path) (pieces output ++ parts)
      = parts.foldlM store.step base := by
  obtain ⟨⟨⟩, -, hbase⟩ := bind_eq_ok.mp hsite.located
  unfold follow at hbase ⊢
  rw [FilePath.isAbsolute_join hsite.named (FilePath.isAbsolute_of_isInner hinner),
    List.foldlM_append, hbase]
  rfl

include hother halike

/-- An inner path leads to the same location in all such stores. -/
theorem locate_alike :
    other.locate (FilePath.join output path) = store.locate (FilePath.join output path) := by
  have hfold := halike.foldlM_step (FilePath.notMem_above hinner) []
  rw [List.append_nil] at hfold
  unfold locate
  rw [FilePath.pieces_join hsite.named (FilePath.isAbsolute_of_isInner hinner),
    hsite.follow_join hinner, hother.follow_join hinner, hfold]

/-- And names the same entry. -/
theorem place_alike :
    other.place (FilePath.join output path) = store.place (FilePath.join output path) := by
  have hne := FilePath.pieces_ne_nil hinner
  have habove : ".." ∉ (pieces path).dropLast := fun hmem =>
    FilePath.notMem_above hinner (List.dropLast_subset _ hmem)
  have hfold := halike.foldlM_step habove []
  rw [List.append_nil] at hfold
  unfold place
  rw [FilePath.getLast?_pieces_join hsite.named hinner,
    FilePath.pieces_join hsite.named (FilePath.isAbsolute_of_isInner hinner),
    List.dropLast_append_of_ne_nil hne, hsite.follow_join hinner, hother.follow_join hinner, hfold]
  cases (pieces path).getLast? with
  | none => rfl
  | some last =>
      cases hfollow : (pieces path).dropLast.foldlM store.step base with
      | error fault => rfl
      | ok folder =>
          obtain rfl := eq_of_foldlM_step habove hfollow
          show (checkPath _ >>= fun _ => other.step _ last >>= _)
            = (checkPath _ >>= fun _ => store.step _ last >>= _)
          rw [halike.step]

/-- What is done at the place of an inner path fails alike when it does so below the directory. -/
theorem fails_alike {act act' : Option Location → Except FileFault Store} {fault : FileFault}
    (hnone : act' none = act none)
    (hsome : act' (some (base ++ FilePath.names path)) = .error fault
      ↔ act (some (base ++ FilePath.names path)) = .error fault) :
    (other.place (FilePath.join output path) >>= act') = .error fault
      ↔ (store.place (FilePath.join output path) >>= act) = .error fault := by
  rw [place_alike hinner hsite hother halike]
  cases hplace : store.place (FilePath.join output path) with
  | error fault => exact Iff.rfl
  | ok found =>
      cases found with
      | none =>
          show act' none = _ ↔ act none = _
          rw [hnone]
      | some location =>
          obtain rfl := eq_of_locate_join hsite.named hinner hsite.located (of_place_eq_ok hplace).1
          exact hsome

/-- And what it leads to is the same. -/
theorem find_alike :
    other.find (FilePath.join output path) = store.find (FilePath.join output path) := by
  unfold find
  rw [locate_alike hinner hsite hother halike]
  cases hlocate : store.locate (FilePath.join output path) with
  | error fault => rfl
  | ok location =>
      obtain rfl := eq_of_locate_join hsite.named hinner hsite.located hlocate
      simp only [bind, Except.bind, halike.entries]

end Paths

/-! ## Changes below the directory -/

/-- The same is put into stores that are alike. -/
theorem Alike.put (h : Alike base store other) (hne : base ++ names ≠ []) :
    Alike base (store.put (base ++ names) entry) (other.put (base ++ names) entry) := by
  refine ⟨h.workingFolder, fun others => ?_⟩
  rw [entry?_put hne, entry?_put hne, h.entries]

/-- The same is taken away from stores that are alike. -/
theorem Alike.without (h : Alike base store other) (hne : base ++ names ≠ []) :
    Alike base (store.without (base ++ names)) (other.without (base ++ names)) := by
  refine ⟨h.workingFolder, fun others => ?_⟩
  rw [entry?_without hne, entry?_without hne, h.entries]

/-- Where something is below the directory no other location is. -/
theorem ne_of_not_below {location : Location} (h : ¬ base <+: location) :
    location ≠ base ++ names := by
  rintro rfl
  exact h (List.prefix_append _ _)

section Paths

variable (hinner : FilePath.isInner path = true)

include hinner

/-- Reading is the same on all stores that are alike. -/
theorem confined_readable : Confined output base
    (liftM (readable? (m := StateM Store) (FilePath.join output path)) :
      ExceptT RenderError (StateM Store) (Option String)) := by
  intro store other hsite hother halike
  refine ⟨_, store, other, perform_readable store _, ?_, halike, .refl hsite.wellFormed,
    .refl hother.wellFormed⟩
  rw [perform_readable, read, read, find_alike hinner hsite hother halike]

/-- Writing a file is confined. -/
theorem confined_write (contents : Contents) :
    Confined output base (attempt (·.write (FilePath.join output path) contents)) := by
  have hdone : ∀ {store next : Store}, store.Site output base →
      store.write (FilePath.join output path) contents = .ok next →
        base ++ FilePath.names path ≠ [] ∧ Within base store next
          ∧ next = store.put (base ++ FilePath.names path) (.file contents) := by
    intro store next hsite hwrite
    obtain ⟨folder, name, hlocate, hfolder, hname, -, -, -, hover, rfl⟩ := of_write_eq_ok hwrite
    have hne := concat_ne_nil folder name
    rw [(hsite.wellFormed.unshared []).fill_eq_put List.nil_prefix]
    have hput : (store.put (folder ++ [name]) (.file contents)).WellFormed :=
      hsite.wellFormed.put hfolder hname hover
    have hkeeps : store.KeepsFolders (store.put (folder ++ [name]) (.file contents)) :=
      keepsFolders_put hne hover
    rw [eq_of_locate_join hsite.named hinner hsite.located hlocate] at hne hput hkeeps ⊢
    refine ⟨hne, ⟨hkeeps, hput, fun location hother => ?_⟩, rfl⟩
    rw [entry?_put hne, if_neg (ne_of_not_below hother)]
  refine confined_attempt (fun store other hsite hother halike fault => ?_)
    (fun store next hsite hwrite => (hdone hsite hwrite).2.1)
    fun store other next next' hsite hother halike hwrite hwrite' => ?_
  · unfold write
    refine fails_alike hinner hsite hother halike rfl ?_
    dsimp only
    rw [halike.entries]
    split
    · exact Iff.rfl
    · exact iff_of_false nofun nofun
  · obtain ⟨hne, -, rfl⟩ := hdone hsite hwrite
    obtain ⟨-, -, rfl⟩ := hdone hother hwrite'
    exact halike.put hne

/-- Taking a file away is confined. -/
theorem confined_remove :
    Confined output base (attempt (·.remove (FilePath.join output path))) := by
  have hdone : ∀ {store next : Store}, store.Site output base →
      store.remove (FilePath.join output path) = .ok next →
        base ++ FilePath.names path ≠ [] ∧ Within base store next
          ∧ next = store.without (base ++ FilePath.names path) := by
    intro store next hsite hremove
    obtain ⟨location, contents, hlocate, hfile, rfl⟩ := of_remove_eq_ok hremove
    obtain rfl := eq_of_locate_join hsite.named hinner hsite.located hlocate
    have hne := ne_nil_of_file? hfile
    refine ⟨hne, ⟨⟨rfl, fun _ => (folder_without_iff hfile).mpr⟩, hsite.wellFormed.without hfile,
      fun location hother => ?_⟩, rfl⟩
    rw [entry?_without hne, if_neg (ne_of_not_below hother)]
  refine confined_attempt (fun store other hsite hother halike fault => ?_)
    (fun store next hsite hremove => (hdone hsite hremove).2.1)
    fun store other next next' hsite hother halike hremove hremove' => ?_
  · unfold remove
    refine fails_alike hinner hsite hother halike rfl ?_
    dsimp only
    rw [halike.entries]
    rcases store.entry? (base ++ FilePath.names path) with _ | _ | contents
    · exact Iff.rfl
    · exact Iff.rfl
    · dsimp only
      split
      · exact Iff.rfl
      · exact iff_of_false nofun nofun
  · obtain ⟨hne, -, rfl⟩ := hdone hsite hremove
    obtain ⟨-, -, rfl⟩ := hdone hother hremove'
    exact halike.without hne

end Paths

/-! ## Listing -/

/-- Stores that are alike list the same files. -/
theorem Alike.filesIn (h : Alike base store other) (hstore : store.WellFormed)
    (hother : other.WellFormed) : other.filesIn base = store.filesIn base := by
  -- of the entries only those below the directory are listed
  have hbelow : ∀ store : Store, store.filesIn base
      = (store.entries.entries.filter fun e => (below? base e.1).isSome).filterMap fun e =>
        if e.2 = .folder then none else below? base e.1 := by
    intro store
    rw [List.filterMap_filter]
    refine List.filterMap_congr fun e _ => ?_
    obtain ⟨location, _ | contents⟩ := e
    · exact (ite_self _).symm
    · cases hrest : below? base location <;> simp [hrest]
  rw [hbelow, hbelow, SortedMap.filter_entries_eq]
  rintro ⟨location, entry⟩ hkept
  obtain ⟨rest, hrest⟩ := Option.isSome_iff_exists.mp hkept
  obtain rfl := below?_eq_some.mp hrest
  by_cases hne : base ++ rest = []
  · refine iff_of_false (fun hmem => (hother.named _ hmem).1 hne) fun hmem =>
      (hstore.named _ hmem).1 hne
  · rw [← entry?_eq_some hne, ← entry?_eq_some hne, h.entries]

/-- Listing the files of the directory is confined. -/
theorem confined_filesBelow : Confined output base (ask (·.filesBelow output)) := by
  refine confined_ask fun store other hsite hother halike => ?_
  rw [filesBelow_eq hsite.located hsite.folder, filesBelow_eq hother.located hother.folder,
    halike.filesIn hsite.wellFormed hother.wellFormed]

/-! ## Making directories -/

/-- What no system takes is not made. -/
theorem perform_createFolders_of_refused {fault : FileFault} (hpath : path ≠ "")
    (h : checkPath path = .error fault) :
    store.perform (createFolders path) = (.error fault, store) := by
  have hmake : store.makeFolder path = .error fault := by
    unfold makeFolder place
    rw [h]
    rfl
  have hfolder : store.isFolder path = false := by
    unfold isFolder find locate
    rw [h]
    rfl
  have hensure : store.perform (ensureFolder path) = (.error fault, store) := by
    rw [perform_ensureFolder, hmake]
    dsimp only
    rw [if_neg (by rw [hfolder]; exact Bool.false_ne_true)]
  rw [createFolders, createFoldersUpTo, if_neg hpath, perform_tryCatch_of_error hensure]
  split
  · -- a path that is no empty text is not refused as one
    unfold checkPath at h
    rw [if_neg hpath] at h
    split at h
    · cases h
    · split at h <;> cases h
  · rfl

/-- The same directories are opened in stores that are alike. -/
theorem Alike.opens {deep : Location} (h : Alike base store other) (hopens : store.Opens deep next)
    (hopens' : other.Opens deep next') : Alike base next next' := by
  refine ⟨hopens'.workingFolder.trans (h.workingFolder.trans hopens.workingFolder.symm),
    fun names => ?_⟩
  rw [hopens.entries, hopens'.entries, h.entries]

/-- Directories can be made equally far below the directory in stores that are alike. -/
theorem Alike.reaches {done rest : List String} (h : Alike base store other)
    (hreaches : store.Reaches base names done rest) : other.Reaches base names done rest := by
  refine ⟨hreaches.split, hreaches.short, fun front hfront => ?_, fun name more hrest => ?_⟩
  · rw [h.entries]
    exact hreaches.clear front hfront
  · rw [h.entries]
    exact hreaches.blocked name more hrest

/-- Opening directories below the directory changes nothing else. -/
theorem Opens.within {done : List String} (hstore : store.WellFormed)
    (hfolder : store.entry? base = some .folder) (h : store.Opens (base ++ done) next) :
    Within base store next := by
  refine ⟨h.keeps, h.wellFormed, fun location hother => ?_⟩
  rw [h.entries]
  split
  · rename_i hway
    have habove := (List.prefix_or_prefix_of_prefix hway (List.prefix_append base done)).resolve_right
      hother
    exact (hstore.folder_of_above habove hfolder).symm
  · rfl

/-- Making directories is confined when the path leads on from the directory. -/
theorem confined_createFolders (hpath : path ≠ "")
    (hleads : ∀ store : Store, store.Site output base → store.Leads path base names) :
    Confined output base (createFolders path) := by
  intro store other hsite hother halike
  cases hcheck : checkPath path with
  | error fault =>
      exact ⟨_, store, other, perform_createFolders_of_refused hpath hcheck,
        perform_createFolders_of_refused hpath hcheck, halike, .refl hsite.wellFormed,
        .refl hother.wellFormed⟩
  | ok done =>
      obtain ⟨done, rest, hreaches⟩ := exists_reaches hsite.folder names
      obtain ⟨next, hnext, hopens⟩ := perform_createFolders hsite.wellFormed
        ⟨hleads store hsite, hcheck⟩ hreaches
      obtain ⟨next', hnext', hopens'⟩ := perform_createFolders hother.wellFormed
        ⟨hleads other hother, hcheck⟩ (halike.reaches hreaches)
      exact ⟨_, next, next', hnext, hnext', halike.opens hopens hopens',
        hopens.within hsite.wellFormed hsite.folder, hopens'.within hother.wellFormed hother.folder⟩

/-- An inner path leads on from the directory. -/
theorem Site.leads_join (hsite : store.Site output base) (hinner : FilePath.isInner path = true)
    {init : List String} {last : String} (hpieces : pieces path = init ++ [last])
    (hlast : isDots last = false) :
    store.Leads (FilePath.join output path) base (init.filter (!isDots ·) ++ [last]) := by
  refine ⟨hsite.folder, pieces output, pieces path,
    FilePath.pieces_join hsite.named (FilePath.isAbsolute_of_isInner hinner), ?_,
    FilePath.notMem_above hinner, ?_, ?_⟩
  · have hbase := hsite.follow_join hinner []
    rwa [List.append_nil] at hbase
  · rw [hpieces, List.getLast?_concat]
    exact fun heq => Bool.eq_false_iff.mp hlast (Option.some.inj heq ▸ rfl)
  · rw [hpieces, List.filter_append, List.filter_cons_of_pos (by simp [hlast]), List.filter_nil]

/-- The directory of a path that ends in a name is the directory itself or leads on from it. -/
theorem exists_parent_join (houtput : output ≠ "") (hinner : FilePath.isInner path = true)
    (hname : FilePath.endsInName path = true) : ∃ above names,
      FilePath.parent? (FilePath.join output path) = some above ∧ above ≠ ""
        ∧ ∀ store : Store, ∀ base, store.Site output base → store.Leads above base names := by
  obtain ⟨init, last, hpieces, hlast⟩ := FilePath.endsInName_iff.mp hname
  have habsolute := FilePath.isAbsolute_of_isInner hinner
  have hjoin : pieces (FilePath.join output path) = pieces output ++ init ++ [last] := by
    rw [FilePath.pieces_join houtput habsolute, hpieces, List.append_assoc]
  have hlastDot : last ≠ "." := fun heq => Bool.eq_false_iff.mp hlast (heq ▸ rfl)
  have hfar : FilePath.isAbsolute (FilePath.join output path) = true ∨ pieces output ++ init ≠ [] := by
    rw [FilePath.isAbsolute_join houtput habsolute, or_iff_not_imp_left, Bool.not_eq_true]
    exact fun hrelative => List.append_ne_nil_of_left_ne_nil
      (FilePath.pieces_ne_nil_of_relative houtput hrelative) _
  obtain ⟨above, hparent⟩ := FilePath.exists_isParent hjoin hlastDot hfar
  refine ⟨above, init.filter (!isDots ·), hparent.parent, hparent.nonempty,
    fun store base hsite => ?_⟩
  have hleads := hsite.leads_join hinner hpieces hlast
  obtain ⟨parent, front, hsame, hleadsAbove⟩ := hleads.exists_isParent (hfar.imp_right fun hne heq =>
    hne (List.append_left_eq_self.mp (hjoin.symm.trans heq)))
  obtain rfl := Option.some.inj (hparent.parent.symm.trans hsame.parent)
  exact hleadsAbove

end Store

/-! ## The files of a set -/

open Store (Confined confined_pure)

/-- Writing a file of a set is confined when its path ends in a name. -/
theorem Artifact.confined_write {file : Artifact} {output : String} {base : Location}
    (hinner : FilePath.isInner file.path = true) (hname : FilePath.endsInName file.path = true) :
    Confined output base (file.write (m := StateM Store) output) := by
  -- no store has a directory without a path
  by_cases houtput : output = ""
  · exact fun store _ hsite => absurd houtput hsite.named
  obtain ⟨above, names, hparent, hnonempty, hleads⟩ :=
    Store.exists_parent_join houtput hinner hname
  unfold write
  dsimp only
  refine (Store.confined_readable hinner).bind fun found _ => ?_
  split
  · exact confined_pure false
  · rw [hparent]
    refine ((Store.confined_createFolders hnonempty fun store => hleads store base).adapt _).bind
      fun _ _ => ?_
    exact ((Store.confined_write hinner _).adapt _).bind fun _ _ => confined_pure true

namespace Artifacts

variable {artifacts : Artifacts} {output : String} {base : Location}

/-- Bring a directory that is there in line with the generated files. -/
def fill (artifacts : Artifacts) (output : String) :
    ExceptT RenderError (StateM Store) Changes := do
  let (written, unchanged) ← writeFiles output artifacts.files
  let below ← (FileSystem.filesBelow output).adapt (RenderError.unlisted output)
  let removed ← artifacts.removeStale output below
  return ⟨written, unchanged, removed⟩

/-- So the files are written once their directory has been made. -/
theorem write_eq_fill (artifacts : Artifacts) (output : String) :
    artifacts.write (m := StateM Store) output = (do
      artifacts.checkInner
      (Store.createFolders output).adapt (RenderError.unwritable output)
      artifacts.fill output) := rfl

/-- Writing the files of a set is confined. -/
theorem confined_writeFiles {files : List Artifact}
    (hinner : ∀ file ∈ files, FilePath.isInner file.path = true)
    (hnames : ∀ file ∈ files, FilePath.endsInName file.path = true) :
    Confined output base (writeFiles (m := StateM Store) output files) := by
  induction files with
  | nil => exact confined_pure _
  | cons file files ih =>
      obtain ⟨hfileInner, hinner⟩ := List.forall_mem_cons.mp hinner
      obtain ⟨hfileName, hnames⟩ := List.forall_mem_cons.mp hnames
      rw [writeFiles]
      refine (Artifact.confined_write hfileInner hfileName).bind fun wrote _ => ?_
      split
      · exact (ih hinner hnames).bind fun lists _ => confined_pure _
      · exact (ih hinner hnames).bind fun lists _ => confined_pure _

/-- Removing what is stale of files behind inner paths is confined. -/
theorem confined_removeStale {below : List String}
    (hinner : ∀ relative ∈ below, FilePath.isInner relative = true) :
    Confined output base (artifacts.removeStale (m := StateM Store) output below) := by
  induction below with
  | nil => exact confined_pure _
  | cons relative below ih =>
      obtain ⟨hfirst, hrest⟩ := List.forall_mem_cons.mp hinner
      rw [removeStale]
      split
      · exact ih hrest
      · refine (Store.confined_readable hfirst).bind fun found _ => ?_
        cases found with
        | none => exact ih hrest
        | some contents =>
            dsimp only
            split
            · refine ((Store.confined_remove hfirst).adapt _).bind fun _ _ => ?_
              exact (ih hrest).bind fun others _ => confined_pure _
            · exact ih hrest

/-- **ONCE THEIR DIRECTORY IS THERE** all that is done with the files of a set is confined to it. -/
theorem confined_fill (hinner : artifacts.checkInner = .ok ())
    (hnames : ∀ file ∈ artifacts.files, FilePath.endsInName file.path = true) :
    Confined output base (artifacts.fill output) := by
  unfold fill
  refine (confined_writeFiles (isInner_of_checkInner hinner) hnames).bind fun lists _ => ?_
  refine (Store.confined_filesBelow.adapt _).bind fun below hbelow => ?_
  refine (confined_removeStale fun relative hrelative => ?_).bind fun removed _ => confined_pure _
  -- what is listed has proper names
  obtain ⟨store, next, hsite, hlisted⟩ := hbelow
  obtain ⟨hlisted, -⟩ := Store.perform_ask_eq_ok.mp (Store.perform_adapt_eq_ok.mp hlisted)
  obtain rfl := Except.ok.inj
    ((Store.filesBelow_eq hsite.located hsite.folder).symm.trans hlisted)
  obtain ⟨names, hmem, rfl⟩ := List.mem_map.mp hrelative
  obtain ⟨hne, hproper⟩ := Store.ordinary_of_mem_filesIn hsite.wellFormed.toPlaced hsite.folder hmem
  exact (spells_listed hproper).isInner hne

/-! ## Removing never fails -/

open Store (perform_adapt_eq_ok perform_bind_eq_ok)

/-- A file that can be read can be taken away. -/
theorem exists_remove {store : Store} {path text : String} (hsite : store.Site output base)
    (hinner : FilePath.isInner path = true) (hname : FilePath.endsInName path = true)
    (hread : store.read (FilePath.join output path) = .ok text) :
    ∃ next, store.remove (FilePath.join output path) = .ok next := by
  obtain ⟨init, last, hpieces, hlast⟩ := FilePath.endsInName_iff.mp hname
  obtain ⟨location, hlocate, hfile, hslash⟩ := Store.read_eq_ok.mp hread
  have hroute : store.Route (FilePath.join output path) base _ :=
    ⟨hsite.leads_join hinner hpieces hlast, Store.checkPath_of_locate hlocate⟩
  have hplace : store.place (FilePath.join output path) = .ok (some location) := by
    rw [hroute.place, hlocate]
    rfl
  refine ⟨store.without location, bind_eq_ok.mpr ⟨_, hplace, ?_⟩⟩
  dsimp only
  rw [Store.file?_eq_some.mp hfile, hslash]
  rfl

/-- So removing what is stale never fails. -/
theorem exists_removeStale {below : List String} {store : Store} (hsite : store.Site output base)
    (hinner : ∀ relative ∈ below, FilePath.isInner relative = true)
    (hnames : ∀ relative ∈ below, FilePath.endsInName relative = true) :
    ∃ removed next, store.perform (artifacts.removeStale output below) = (.ok removed, next) := by
  induction below generalizing store with
  | nil => exact ⟨[], store, rfl⟩
  | cons relative below ih =>
      obtain ⟨hfirst, hinner⟩ := List.forall_mem_cons.mp hinner
      obtain ⟨hname, hnames⟩ := List.forall_mem_cons.mp hnames
      rw [removeStale]
      split
      · exact ih hsite hinner hnames
      · rw [Store.perform_bind_of_ok (perform_readable store _)]
        cases hread : store.read (FilePath.join output relative) with
        | error fault => exact ih hsite hinner hnames
        | ok contents =>
            simp only [Except.toOption]
            split
            · obtain ⟨next, hremove⟩ := exists_remove hsite hfirst hname hread
              have hremoved := Store.perform_attempt_of_ok (·.remove (FilePath.join output relative)) hremove
              obtain ⟨_, _, _, hsame, -, -, hwithin, -⟩ :=
                Store.confined_remove hfirst hsite hsite ⟨rfl, fun _ => rfl⟩
              obtain rfl := (Prod.mk.inj (hremoved.symm.trans hsame)).2
              obtain ⟨removed, last, hrest⟩ := ih (hwithin.site hsite) hinner hnames
              refine ⟨relative :: removed, last, perform_bind_eq_ok.mpr
                ⟨(), next, perform_adapt_eq_ok.mpr hremoved, ?_⟩⟩
              exact perform_bind_eq_ok.mpr ⟨removed, last, hrest, rfl⟩
            · exact ih hsite hinner hnames

/-- **A WRITE SUCCEEDS** when its directory is there and the files are written. -/
theorem exists_write {store filled : Store} {written unchanged : List String}
    (hsite : store.Site output base) (hinner : artifacts.checkInner = .ok ())
    (hnames : ∀ file ∈ artifacts.files, FilePath.endsInName file.path = true)
    (hfilled : store.perform (writeFiles output artifacts.files)
      = (.ok (written, unchanged), filled)) :
    ∃ changes next, store.perform (artifacts.write output) = (.ok changes, next) := by
  obtain ⟨_, _, _, hsame, -, -, hwithin, -⟩ := confined_writeFiles
    (isInner_of_checkInner hinner) hnames hsite hsite ⟨rfl, fun _ => rfl⟩
  obtain rfl := (Prod.mk.inj (hfilled.symm.trans hsame)).2
  have hfilledSite := hwithin.site hsite
  have hlisted : ∀ relative ∈ (filled.filesIn base).map (Text.joinText '/'),
      FilePath.isInner relative = true ∧ FilePath.endsInName relative = true := by
    refine List.forall_mem_map.mpr fun names hmem => ?_
    obtain ⟨hne, hproper⟩ := Store.ordinary_of_mem_filesIn hfilledSite.wellFormed.toPlaced
      hfilledSite.folder hmem
    exact ⟨(spells_listed hproper).isInner hne, (spells_listed hproper).endsInName hne⟩
  obtain ⟨removed, next, hremoved⟩ := @exists_removeStale artifacts _ _ _ _ hfilledSite
    (fun relative hmem => (hlisted relative hmem).1) fun relative hmem => (hlisted relative hmem).2
  refine ⟨⟨written, unchanged, removed⟩, next, ?_⟩
  rw [write_eq_fill]
  refine perform_bind_eq_ok.mpr ⟨(), store, Store.perform_lift_eq_ok.mpr ⟨hinner, rfl⟩, ?_⟩
  refine perform_bind_eq_ok.mpr ⟨(), store, perform_adapt_eq_ok.mpr
    (Store.perform_createFolders_of_folder hsite.located hsite.folder), ?_⟩
  refine perform_bind_eq_ok.mpr ⟨_, filled, hfilled, ?_⟩
  refine perform_bind_eq_ok.mpr ⟨_, filled, perform_adapt_eq_ok.mpr (Store.perform_ask_eq_ok.mpr
    ⟨Store.filesBelow_eq hfilledSite.located hfilledSite.folder, rfl⟩), ?_⟩
  exact perform_bind_eq_ok.mpr ⟨removed, next, hremoved, rfl⟩

end Artifacts

end Bindery
