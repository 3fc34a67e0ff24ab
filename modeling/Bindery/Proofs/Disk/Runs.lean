import Bindery.Proofs.Disk.Files

/-! # Runs on a store — work on files, one step after another

    Work on files is performed on a store (`Store.perform`) and leaves another.
    Making directories is the one operation that does several things and goes on
    after a failure; all it leaves behind is further directories (`Adds`), and
    when it succeeds its path leads to one (`of_createFolders_eq_ok`). -/

namespace Bindery.Store

variable {ε ε' α β : Type} {store next last : Store} {path : String}

/-- What work on files comes to on a store, and the store it leaves. -/
def perform (store : Store) (work : ExceptT ε (StateM Store) α) : Except ε α × Store :=
  work.run.run store

/-! ## Steps -/

/-- A failure is no success. -/
theorem error_ne_ok {e : ε} {a : α} :
    ((Except.error e, store) : Except ε α × Store) ≠ (.ok a, next) := by
  intro h
  cases (Prod.mk.inj h).1

theorem perform_pure_eq_ok {a b : α} :
    store.perform (pure a : ExceptT ε (StateM Store) α) = (.ok b, last) ↔ a = b ∧ store = last := by
  show ((Except.ok a, store) : Except ε α × Store) = _ ↔ _
  rw [Prod.mk.injEq, Except.ok.injEq]

/-- Work with a result comes to it and to some store. -/
theorem perform_eq_of_fst {work : ExceptT ε (StateM Store) α} {result : Except ε α}
    (h : (store.perform work).1 = result) : ∃ last, store.perform work = (result, last) :=
  ⟨_, Prod.ext h rfl⟩

/-- A result that is there already leaves the store as it is. -/
theorem perform_lift_eq_ok {x : Except ε α} {a : α} :
    store.perform (liftM x : ExceptT ε (StateM Store) α) = (.ok a, last) ↔ x = .ok a ∧ store = last :=
  Prod.mk.injEq _ _ _ _ ▸ Iff.rfl

section Steps

variable {work : ExceptT ε (StateM Store) α} {further : α → ExceptT ε (StateM Store) β}
  {handle : ε → ExceptT ε (StateM Store) α}

theorem perform_bind_of_ok {a : α} (h : store.perform work = (.ok a, next)) :
    store.perform (work >>= further) = next.perform (further a) := by
  have h' : (work : StateM Store (Except ε α)) store = (.ok a, next) := h
  show (ExceptT.bind work further : StateM Store (Except ε β)) store = _
  simp only [ExceptT.bind, ExceptT.mk, bind, StateT.bind, h', ExceptT.bindCont]
  rfl

theorem perform_bind_of_error {e : ε} (h : store.perform work = (.error e, next)) :
    store.perform (work >>= further) = (.error e, next) := by
  have h' : (work : StateM Store (Except ε α)) store = (.error e, next) := h
  show (ExceptT.bind work further : StateM Store (Except ε β)) store = _
  simp only [ExceptT.bind, ExceptT.mk, bind, StateT.bind, h', ExceptT.bindCont]
  rfl

/-- Work goes on with what came before it, on the store that this left. -/
theorem perform_bind_eq_ok {b : β} : store.perform (work >>= further) = (.ok b, last)
    ↔ ∃ a next, store.perform work = (.ok a, next) ∧ next.perform (further a) = (.ok b, last) := by
  constructor
  · intro h
    obtain ⟨result, next, hwork⟩ : ∃ result next, store.perform work = (result, next) :=
      ⟨_, _, rfl⟩
    cases result with
    | error e =>
        rw [perform_bind_of_error hwork] at h
        exact absurd h error_ne_ok
    | ok a =>
        rw [perform_bind_of_ok hwork] at h
        exact ⟨a, next, hwork, h⟩
  · rintro ⟨a, next, hwork, h⟩
    rw [perform_bind_of_ok hwork, h]

theorem perform_tryCatch_of_ok {a : α} (h : store.perform work = (.ok a, next)) :
    store.perform (tryCatch work handle) = (.ok a, next) := by
  have h' : (work : StateM Store (Except ε α)) store = (.ok a, next) := h
  show (ExceptT.tryCatch work handle : StateM Store (Except ε α)) store = _
  simp only [ExceptT.tryCatch, ExceptT.mk, bind, StateT.bind, h']
  rfl

theorem perform_tryCatch_of_error {e : ε} (h : store.perform work = (.error e, next)) :
    store.perform (tryCatch work handle) = next.perform (handle e) := by
  have h' : (work : StateM Store (Except ε α)) store = (.error e, next) := h
  show (ExceptT.tryCatch work handle : StateM Store (Except ε α)) store = _
  simp only [ExceptT.tryCatch, ExceptT.mk, bind, StateT.bind, h']
  rfl

/-- Work that is caught succeeds by itself, or through what is done about its failure. -/
theorem perform_tryCatch_eq_ok {a : α} : store.perform (tryCatch work handle) = (.ok a, last)
    ↔ store.perform work = (.ok a, last)
      ∨ ∃ e next, store.perform work = (.error e, next)
        ∧ next.perform (handle e) = (.ok a, last) := by
  obtain ⟨result, next, hwork⟩ : ∃ result next, store.perform work = (result, next) := ⟨_, _, rfl⟩
  cases result with
  | ok b =>
      rw [perform_tryCatch_of_ok hwork, hwork]
      refine (or_iff_left ?_).symm
      rintro ⟨e, next, h, -⟩
      exact error_ne_ok h.symm
  | error e =>
      rw [perform_tryCatch_of_error hwork, hwork]
      constructor
      · intro h
        exact .inr ⟨e, next, rfl, h⟩
      · rintro (h | ⟨e', next', h, h'⟩)
        · exact absurd h error_ne_ok
        · obtain ⟨he, rfl⟩ := Prod.mk.inj h
          obtain rfl := Except.error.inj he
          exact h'

/-- Work whose failures are worded anew succeeds as before. -/
theorem perform_adapt_eq_ok {word : ε → ε'} {a : α} :
    store.perform (work.adapt word) = (.ok a, last) ↔ store.perform work = (.ok a, last) := by
  have hadapt : store.perform (work.adapt word)
      = ((store.perform work).1.mapError word, (store.perform work).2) := rfl
  rw [hadapt, Prod.ext_iff, Prod.ext_iff]
  exact and_congr_left' mapError_eq_ok

theorem perform_attempt_of_ok (operation : Store → Except FileFault Store)
    (h : operation store = .ok next) : store.perform (attempt operation) = (.ok (), next) := by
  simp only [perform, attempt, ExceptT.run, ExceptT.mk, StateT.run, h]

theorem perform_attempt_of_error (operation : Store → Except FileFault Store) {fault : FileFault}
    (h : operation store = .error fault) :
    store.perform (attempt operation) = (.error fault, store) := by
  simp only [perform, attempt, ExceptT.run, ExceptT.mk, StateT.run, h]

/-- An operation succeeds with the store that it makes. -/
theorem perform_attempt_eq_ok {operation : Store → Except FileFault Store} {done : Unit} :
    store.perform (attempt operation) = (.ok done, last) ↔ operation store = .ok last := by
  cases hoperation : operation store with
  | ok next =>
      rw [perform_attempt_of_ok operation hoperation, Prod.mk.injEq, Except.ok.injEq, Except.ok.injEq]
      exact and_iff_right rfl
  | error fault =>
      rw [perform_attempt_of_error operation hoperation]
      exact iff_of_false error_ne_ok (by simp)

/-- Asking leaves the store as it is. -/
theorem perform_ask_eq_ok {query : Store → Except FileFault α} {a : α} :
    store.perform (ask query) = (.ok a, last) ↔ query store = .ok a ∧ store = last :=
  Prod.mk.injEq _ _ _ _ ▸ Iff.rfl

end Steps

/-! ## Making directories -/

/-- A store with further directories: no file is another, and all else is there still. -/
structure Adds (before after : Store) : Prop where
  keeps : before.KeepsFolders after
  files : ∀ location, after.file? location = before.file? location
  numbers : after.numbers = before.numbers
  consistent : before.Consistent → after.Consistent

namespace Adds

theorem refl (store : Store) : Adds store store := ⟨.refl store, fun _ => rfl, rfl, id⟩

theorem trans (h : Adds store next) (h' : Adds next last) : Adds store last :=
  ⟨h.keeps.trans h'.keeps, fun location => (h'.files location).trans (h.files location),
    h'.numbers.trans h.numbers, h'.consistent ∘ h.consistent⟩

theorem unshared {base : Location} (h : Adds store next) (hstore : store.Unshared base) :
    next.Unshared base where
  toConsistent := h.consistent hstore.toConsistent
  alone := h.numbers ▸ hstore.alone

end Adds

/-- Making a directory adds it. -/
theorem adds_of_makeFolder (h : store.makeFolder path = .ok next) :
    Adds store next ∧ ∃ base, next.locate path = .ok base ∧ next.entry? base = some .folder := by
  obtain ⟨folder, name, hlocate, hfolder, hname, hnew, rfl⟩ := of_makeFolder_eq_ok h
  have hne := concat_ne_nil folder name
  have hover : store.entry? (folder ++ [name]) ≠ some .folder := by
    rw [hnew]
    simp
  have hkeeps : store.KeepsFolders (store.put (folder ++ [name]) .folder) :=
    keepsFolders_put hne hover
  refine ⟨⟨hkeeps, file?_putFolder hne hnew, rfl, fun hstore => hstore.putFolder hfolder hname hnew⟩,
    folder ++ [name], hkeeps.locate hlocate, ?_⟩
  rw [entry?_put hne, if_pos rfl]

/-- A path that leads to a directory. -/
theorem exists_of_isFolder (h : store.isFolder path = true) :
    ∃ base, store.locate path = .ok base ∧ store.entry? base = some .folder := by
  unfold isFolder at h
  split at h
  · rename_i base hfind
    obtain ⟨location, hlocate, hfind⟩ := bind_eq_ok.mp hfind
    split at hfind
    · exact nomatch hfind
    · rename_i hentry
      obtain ⟨rfl, -⟩ := Prod.mk.inj (Except.ok.inj hfind)
      exact ⟨location, hlocate, hentry⟩
    · split at hfind
      · exact nomatch hfind
      · exact nomatch (Prod.mk.inj (Except.ok.inj hfind)).2
  · exact nomatch h

/-- A path that leads to a directory finds it. -/
theorem find_of_folder {base : Location} (hbase : store.locate path = .ok base)
    (hfolder : store.entry? base = some .folder) : store.find path = .ok (base, .folder) := by
  refine bind_eq_ok.mpr ⟨base, hbase, ?_⟩
  rw [hfolder]

/-- A directory is made, unless it is there already. -/
theorem perform_ensureFolder (store : Store) (path : String) :
    store.perform (ensureFolder path) = match store.makeFolder path with
      | .ok next => (.ok (), next)
      | .error fault => if store.isFolder path then (.ok (), store) else (.error fault, store) := by
  unfold ensureFolder
  cases hmake : store.makeFolder path with
  | ok next =>
      have hmade := perform_attempt_of_ok (·.makeFolder path) hmake
      exact (perform_bind_of_ok (perform_tryCatch_of_ok ((perform_bind_of_ok hmade).trans rfl))).trans
        rfl
  | error fault =>
      have hfailed := perform_attempt_of_error (·.makeFolder path) hmake
      have hasked : store.perform (get : ExceptT FileFault (StateM Store) Store)
          = (.ok store, store) := rfl
      -- the failure is caught, and the store is asked whether the directory is there
      dsimp only
      split
      · rename_i hfolder
        refine Eq.trans (perform_bind_of_ok (a := Except.error ()) (show store.perform _
          = (_, store) from (perform_tryCatch_of_error (perform_bind_of_error hfailed)).trans
            ((perform_bind_of_ok hasked).trans ?_))) rfl
        rw [if_pos hfolder]
        rfl
      · rename_i hfolder
        refine perform_bind_of_error ((perform_tryCatch_of_error
          (perform_bind_of_error hfailed)).trans ((perform_bind_of_ok hasked).trans ?_))
        rw [if_neg hfolder]
        rfl

theorem of_ensureFolder_eq_ok (h : store.perform (ensureFolder path) = (.ok (), next)) :
    Adds store next ∧ ∃ base, next.locate path = .ok base ∧ next.entry? base = some .folder := by
  rw [perform_ensureFolder] at h
  split at h
  · rename_i hmake
    obtain rfl := (Prod.mk.inj h).2
    exact adds_of_makeFolder hmake
  · split at h
    · rename_i hfolder
      obtain rfl := (Prod.mk.inj h).2
      exact ⟨.refl _, exists_of_isFolder hfolder⟩
    · exact absurd h error_ne_ok

/-- A directory that cannot be made leaves the store as it is. -/
theorem of_ensureFolder_eq_error {fault : FileFault}
    (h : store.perform (ensureFolder path) = (.error fault, next)) : next = store := by
  rw [perform_ensureFolder] at h
  split at h
  · exact absurd h.symm error_ne_ok
  · split at h
    · exact absurd h.symm error_ne_ok
    · exact (Prod.mk.inj h).2.symm

/-- Directories that were made are there, and no file is another. -/
theorem of_createFoldersUpTo_eq_ok : ∀ {fuel : Nat} {path : String} {store next : Store},
    store.perform (createFoldersUpTo fuel path) = (.ok (), next) →
      Adds store next ∧ (path ≠ "" → ∃ base, next.locate path = .ok base
        ∧ next.entry? base = some .folder) := by
  intro fuel
  induction fuel with
  | zero => exact fun h => absurd h error_ne_ok
  | succ fuel ih =>
      intro path store next h
      rw [createFoldersUpTo] at h
      split at h
      · rename_i hempty
        obtain ⟨-, rfl⟩ := perform_pure_eq_ok.mp h
        exact ⟨.refl _, fun hne => absurd hempty hne⟩
      · rcases perform_tryCatch_eq_ok.mp h with hmade | ⟨fault, same, herror, hhandled⟩
        · obtain ⟨hadds, hfolder⟩ := of_ensureFolder_eq_ok hmade
          exact ⟨hadds, fun _ => hfolder⟩
        · obtain rfl := of_ensureFolder_eq_error herror
          split at hhandled
          · -- the directories above are made first
            obtain ⟨⟨⟩, middle, habove, hmade⟩ := perform_bind_eq_ok.mp hhandled
            obtain ⟨hadds, hfolder⟩ := of_ensureFolder_eq_ok hmade
            exact ⟨(ih habove).1.trans hadds, fun _ => hfolder⟩
          · exact absurd hhandled error_ne_ok

/-- **DIRECTORIES** that were made are there, and no file is another. -/
theorem of_createFolders_eq_ok (h : store.perform (createFolders path) = (.ok (), next)) :
    Adds store next ∧ (path ≠ "" → ∃ base, next.locate path = .ok base
      ∧ next.entry? base = some .folder) :=
  of_createFoldersUpTo_eq_ok h

/-- A directory that is there is left as it is. -/
theorem perform_ensureFolder_of_folder {base : Location} (hbase : store.locate path = .ok base)
    (hfolder : store.entry? base = some .folder) :
    store.perform (ensureFolder path) = (.ok (), store) := by
  rw [perform_ensureFolder]
  cases hmake : store.makeFolder path with
  | ok next =>
      obtain ⟨folder, name, hlocate, -, -, hnew, -⟩ := of_makeFolder_eq_ok hmake
      obtain rfl := Except.ok.inj (hbase.symm.trans hlocate)
      rw [hfolder] at hnew
      exact nomatch hnew
  | error fault =>
      dsimp only
      rw [if_pos]
      rw [isFolder, find_of_folder hbase hfolder]

/-- The directories on the way to one that is there are left as they are. -/
theorem perform_createFolders_of_folder {base : Location} (hbase : store.locate path = .ok base)
    (hfolder : store.entry? base = some .folder) :
    store.perform (createFolders path) = (.ok (), store) := by
  have hpath : path ≠ "" := (checkPath_eq_ok.mp (checkPath_of_locate hbase)).2.1
  rw [createFolders, createFoldersUpTo, if_neg hpath]
  exact perform_tryCatch_of_ok (perform_ensureFolder_of_folder hbase hfolder)

/-- A store in which no file of a directory is elsewhere too, wherever the directory is once it has
    been made. -/
def SharesNone (store : Store) (path : String) : Prop :=
  ∀ made base, store.perform (createFolders path) = (.ok (), made) →
    made.locate path = .ok base → store.Unshared base

theorem WellFormed.sharesNone (h : store.WellFormed) (path : String) : store.SharesNone path :=
  fun _ base _ _ => h.unshared base

/-- A directory that has a location has it still once it has been made. -/
theorem Unshared.sharesNone {base : Location} (h : store.Unshared base)
    (hbase : store.locate path = .ok base) : store.SharesNone path := by
  intro made found hmade hfound
  have hkept := (of_createFolders_eq_ok hmade).1.keeps.locate hbase
  exact Except.ok.inj (hkept.symm.trans hfound) ▸ h

end Bindery.Store
