import Bindery.Artifacts
import Bindery.Proofs.Disk.Runs
import Bindery.Proofs.Disk.Written

/-! # Guarded stores — files that can be refused at any moment

    A disk can be full, a file can be closed to its reader, and a write can break
    off in the middle.  A guard decides on every single request whether it fails
    in such a way (`Guard.judge`), from the request, the files, and a state of its
    own, so that it can count requests, follow a list of faults, or change its
    mind.  Work on a guarded store does what the store does wherever the guard
    lets it (`Guard.pass`); making directories asks for each of them alone.

    Every request ends as it does on the store or fails (`cases_of_passOr`), and
    making directories leaves further directories behind and nothing else,
    however it ends (`of_createFolders`).

    Where nothing is refused, guarded work comes to the same as work on a store
    (`Guard.Follows`).  This is so of each request, of what is put together from
    such work, and so of a whole write (`Artifacts.perform_write_lax`): what is
    proved of writes under every guard is proved of writes. -/

namespace Bindery

/-- What is asked of a file system. -/
inductive Request where
  | kind (path : String)
  | read (path : String)
  | write (path : String)
  | remove (path : String)
  | removeFolder (path : String)
  | makeFolder (path : String)
  | rename (source target : String)
  | link (source target : String)
  | list (path : String)
deriving DecidableEq

/-- How a request fails: by a fault, and with what a write that breaks off has left in its file. -/
structure Failure where
  fault : FileFault
  left : Option Contents

/-- What decides on each request whether it fails, with a state of its own. -/
structure Guard (σ : Type) where
  judge : Request → Store × σ → Option Failure × σ

/-- Work on files whose requests a guard decides on: a result, the store that is left, and the
    state of the guard. -/
structure Guarded {σ : Type} (guard : Guard σ) (α : Type) where
  run : Store × σ → α × Store × σ

namespace Guard

variable {σ ε ε' α β : Type}

instance (guard : Guard σ) : Monad (Guarded guard) where
  pure a := ⟨fun state => (a, state)⟩
  bind work further := ⟨fun state => (further (work.run state).1).run (work.run state).2⟩

instance (guard : Guard σ) : LawfulMonad (Guarded guard) :=
  LawfulMonad.mk' _ (fun _ => rfl) (fun _ _ => rfl) (fun _ _ _ => rfl)

/-- What guarded work comes to on a store. -/
def perform (guard : Guard σ) (work : ExceptT ε (Guarded guard) α) (state : Store × σ) :
    Except ε α × Store × σ :=
  work.run.run state

/-- Do work on the store unless its request fails, which leaves the store that is told. -/
def passOr (guard : Guard σ) (failed : Failure → Store → Store) (request : Request)
    (work : ExceptT FileFault (StateM Store) α) : ExceptT FileFault (Guarded guard) α :=
  ExceptT.mk ⟨fun state =>
    match guard.judge request state with
    | (none, hidden) =>
        let (result, next) := state.1.perform work
        (result, next, hidden)
    | (some failure, hidden) => (.error failure.fault, failed failure state.1, hidden)⟩

/-- Do work on the store unless its request fails, which changes nothing. -/
abbrev pass (guard : Guard σ) : Request → ExceptT FileFault (StateM Store) α →
    ExceptT FileFault (Guarded guard) α :=
  guard.passOr fun _ store => store

/-- A store in which a write has broken off. -/
def spoil (path : String) (failure : Failure) (store : Store) : Store :=
  match failure.left with
  | none => store
  | some contents => (store.write path contents).toOption.getD store

/-- Whether a path is seen to lead to a directory. -/
def seesFolder (guard : Guard σ) (path : String) : ExceptT FileFault (Guarded guard) Bool :=
  tryCatch (guard.pass (.kind path) (Store.ask fun store => .ok (store.isFolder path)))
    fun _ => return false

/-- Make one directory, unless it is there already. -/
def ensureFolder (guard : Guard σ) (path : String) : ExceptT FileFault (Guarded guard) Unit :=
  tryCatch (guard.pass (.makeFolder path) (Store.attempt (·.makeFolder path))) fun fault => do
    if ← guard.seesFolder path then return else throw fault

/-- Make a directory and those above it that are missing; `fuel` bounds their number. -/
def createFoldersUpTo (guard : Guard σ) :
    (fuel : Nat) → (path : String) → ExceptT FileFault (Guarded guard) Unit
  | 0, _ => throw .notFound
  | fuel + 1, path =>
    if path = "" then return
    else tryCatch (guard.ensureFolder path) fun fault =>
      match fault, FilePath.parent? path with
      | .notFound, some above => do
        guard.createFoldersUpTo fuel above
        guard.ensureFolder path
      | fault, _ => throw fault

instance (guard : Guard σ) : FileSystem (Guarded guard) where
  here := ⟨fun state => ((FileSystem.here (m := StateM Store) state.1).1, state)⟩
  kind path := guard.pass (.kind path) (FileSystem.kind path)
  read path := guard.pass (.read path) (FileSystem.read path)
  readBytes path := guard.pass (.read path) (FileSystem.readBytes path)
  write path contents := guard.passOr (spoil path) (.write path) (FileSystem.write path contents)
  writeBytes path contents :=
    guard.passOr (spoil path) (.write path) (FileSystem.writeBytes path contents)
  remove path := guard.pass (.remove path) (FileSystem.remove path)
  removeFolder path := guard.pass (.removeFolder path) (FileSystem.removeFolder path)
  createFolder path := guard.pass (.makeFolder path) (FileSystem.createFolder path)
  createFolders path := guard.createFoldersUpTo (path.length + 1) path
  rename source target := guard.pass (.rename source target) (FileSystem.rename source target)
  link source target := guard.pass (.link source target) (FileSystem.link source target)
  names path := guard.pass (.list path) (FileSystem.names path)
  filesBelow path := guard.pass (.list path) (FileSystem.filesBelow path)

/-! ## Steps -/

variable {guard : Guard σ} {state last : Store × σ}

section Steps

variable {work : ExceptT ε (Guarded guard) α}

/-- What comes of work and then of what follows it. -/
theorem perform_bind {further : α → ExceptT ε (Guarded guard) β} :
    guard.perform (work >>= further) state = match guard.perform work state with
      | (.ok a, next) => guard.perform (further a) next
      | (.error e, next) => (.error e, next) := by
  unfold perform ExceptT.run
  simp only [bind, ExceptT.bind, ExceptT.mk, ExceptT.bindCont]
  cases Guarded.run work state with
  | mk result next => cases result <;> rfl

/-- Work fails in its first part, or goes on from where this has left off. -/
theorem cases_of_bind {further : α → ExceptT ε (Guarded guard) β} {result : Except ε β}
    (h : guard.perform (work >>= further) state = (result, last)) :
    (∃ e, guard.perform work state = (.error e, last) ∧ result = .error e)
      ∨ ∃ a next, guard.perform work state = (.ok a, next)
        ∧ guard.perform (further a) next = (result, last) := by
  rw [perform_bind] at h
  split at h
  · rename_i a next hwork
    exact .inr ⟨a, next, hwork, h⟩
  · rename_i e next hwork
    obtain ⟨rfl, rfl⟩ := Prod.mk.inj h
    exact .inl ⟨e, hwork, rfl⟩

/-- Work that succeeds has gone on from where its first part left off. -/
theorem perform_bind_eq_ok {further : α → ExceptT ε (Guarded guard) β} {b : β} :
    guard.perform (work >>= further) state = (.ok b, last)
      ↔ ∃ a next, guard.perform work state = (.ok a, next)
        ∧ guard.perform (further a) next = (.ok b, last) := by
  constructor
  · intro h
    rcases cases_of_bind h with ⟨e, -, he⟩ | hgoes
    · cases he
    · exact hgoes
  · rintro ⟨a, next, hwork, h⟩
    rw [perform_bind, hwork]
    exact h

/-- Work whose failure is caught goes on with what is done about it. -/
theorem perform_tryCatch {handle : ε → ExceptT ε (Guarded guard) α} :
    guard.perform (tryCatch work handle) state = match guard.perform work state with
      | (.ok a, next) => (.ok a, next)
      | (.error e, next) => guard.perform (handle e) next := by
  unfold perform ExceptT.run
  simp only [tryCatch, tryCatchThe, MonadExceptOf.tryCatch, ExceptT.tryCatch, ExceptT.mk, bind]
  cases Guarded.run work state with
  | mk result next => cases result <;> rfl

/-- A failure is worded anew. -/
theorem perform_adapt {word : ε → ε'} : guard.perform (work.adapt word) state
    = ((guard.perform work state).1.mapError word, (guard.perform work state).2) :=
  rfl

theorem perform_adapt_eq_ok {word : ε → ε'} {a : α} :
    guard.perform (work.adapt word) state = (.ok a, last)
      ↔ guard.perform work state = (.ok a, last) := by
  rw [perform_adapt, Prod.mk.injEq, mapError_eq_ok]
  exact ⟨fun h => Prod.ext h.1 h.2, Prod.mk.inj⟩

/-- A request that is not refused ends as on the store. -/
theorem cases_of_passOr {failed : Failure → Store → Store} {request : Request}
    {work : ExceptT FileFault (StateM Store) α} {result : Except FileFault α}
    (h : guard.perform (guard.passOr failed request work) state = (result, last)) :
    ((guard.judge request state).1 = none ∧ state.1.perform work = (result, last.1))
      ∨ ∃ failure, result = .error failure.fault ∧ last.1 = failed failure state.1 := by
  have h' : (match guard.judge request state with
      | (none, hidden) => ((state.1.perform work).1, (state.1.perform work).2, hidden)
      | (some failure, hidden) => (.error failure.fault, failed failure state.1, hidden))
      = (result, last) := h
  split at h'
  · rename_i hidden hjudge
    obtain ⟨rfl, rfl⟩ := Prod.mk.inj h'
    exact .inl ⟨congrArg Prod.fst hjudge, rfl⟩
  · rename_i failure hidden hjudge
    obtain ⟨rfl, rfl⟩ := Prod.mk.inj h'
    exact .inr ⟨failure, rfl, rfl⟩

/-- Asking changes nothing, and what is told is so. -/
theorem of_ask {request : Request} {query : Store → Except FileFault α}
    {result : Except FileFault α}
    (h : guard.perform (guard.pass request (Store.ask query)) state = (result, last)) :
    last.1 = state.1 ∧ ∀ a, result = .ok a →
      query state.1 = .ok a ∧ (guard.judge request state).1 = none := by
  rcases cases_of_passOr h with ⟨hjudge, hasked⟩ | ⟨failure, rfl, hstore⟩
  · obtain ⟨hresult, hstore⟩ := Prod.mk.inj hasked
    exact ⟨hstore.symm, fun a ha => ⟨hresult.trans ha, hjudge⟩⟩
  · exact ⟨hstore, nofun⟩

/-- An operation is done, or it fails and leaves the store as it is or as its failure tells. -/
theorem cases_of_attempt {failed : Failure → Store → Store} {request : Request}
    {operation : Store → Except FileFault Store} {result : Except FileFault Unit}
    (h : guard.perform (guard.passOr failed request (Store.attempt operation)) state
      = (result, last)) :
    (result = .ok () ∧ operation state.1 = .ok last.1)
      ∨ (∃ fault, result = .error fault)
        ∧ (last.1 = state.1 ∨ ∃ failure, last.1 = failed failure state.1) := by
  rcases cases_of_passOr h with ⟨-, hattempt⟩ | ⟨failure, rfl, hstore⟩
  · cases hdone : operation state.1 with
    | ok next =>
        rw [Store.perform_attempt_of_ok _ hdone] at hattempt
        obtain ⟨rfl, hnext⟩ := Prod.mk.inj hattempt
        exact .inl ⟨rfl, congrArg _ hnext⟩
    | error fault =>
        rw [Store.perform_attempt_of_error _ hdone] at hattempt
        obtain ⟨rfl, hsame⟩ := Prod.mk.inj hattempt
        exact .inr ⟨⟨fault, rfl⟩, .inl hsame.symm⟩
  · exact .inr ⟨⟨failure.fault, rfl⟩, .inr ⟨failure, hstore⟩⟩

end Steps

/-- A text is what reading comes to, if this does not fail. -/
theorem perform_readable (guard : Guard σ) (path : String) (state : Store × σ) :
    guard.perform (liftM (readable? (m := Guarded guard) path) :
      ExceptT ε (Guarded guard) (Option String)) state
      = (.ok (guard.perform (FileSystem.read path) state).1.toOption,
        (guard.perform (FileSystem.read path) state).2) := by
  unfold perform readable?
  simp only [liftM, monadLift, MonadLift.monadLift, ExceptT.lift, ExceptT.mk, ExceptT.run,
    Functor.map, bind]
  cases Guarded.run (FileSystem.read (m := Guarded guard) path) state with
  | mk result next => cases result <;> rfl

/-! ## Making directories -/

variable {path : String}

/-- What is seen to be a directory is one; looking changes nothing. -/
theorem of_seesFolder {result : Except FileFault Bool}
    (h : guard.perform (guard.seesFolder path) state = (result, last)) :
    last.1 = state.1 ∧ (result = .ok true → state.1.isFolder path = true) := by
  rw [seesFolder, perform_tryCatch] at h
  split at h
  · rename_i seen next hasked
    obtain ⟨rfl, rfl⟩ := Prod.mk.inj h
    obtain ⟨hstore, hseen⟩ := of_ask hasked
    exact ⟨hstore, fun h => Except.ok.inj ((hseen seen rfl).1.trans h)⟩
  · rename_i fault next hasked
    obtain ⟨rfl, rfl⟩ := Prod.mk.inj h
    exact ⟨(of_ask hasked).1, nofun⟩

/-- A directory is made or not; if it is said to be there, it is. -/
theorem of_ensureFolder {result : Except FileFault Unit}
    (h : guard.perform (guard.ensureFolder path) state = (result, last)) :
    state.1.Adds last.1 ∧ (result = .ok () →
      ∃ base, last.1.locate path = .ok base ∧ Store.entry? last.1 base = some .folder) := by
  rw [ensureFolder, perform_tryCatch] at h
  split at h
  · rename_i made next hmake
    obtain ⟨rfl, rfl⟩ := Prod.mk.inj h
    rcases cases_of_attempt hmake with ⟨-, hmade⟩ | ⟨⟨fault, herror⟩, -⟩
    · obtain ⟨hadds, hfolder⟩ := Store.adds_of_makeFolder hmade
      exact ⟨hadds, fun _ => hfolder⟩
    · exact nomatch herror
  · rename_i fault next hmake
    have hsame : next.1 = state.1 := by
      rcases cases_of_attempt hmake with ⟨hok, -⟩ | ⟨-, hsame | ⟨failure, hsame⟩⟩
      · exact nomatch hok
      · exact hsame
      · exact hsame
    rcases cases_of_bind h with ⟨e, hsees, rfl⟩ | ⟨seen, asked, hsees, h⟩
    · obtain ⟨hstore, -⟩ := of_seesFolder hsees
      exact ⟨hstore ▸ hsame ▸ .refl _, nofun⟩
    · obtain ⟨hstore, hfolder⟩ := of_seesFolder hsees
      cases seen with
      | true =>
          obtain ⟨rfl, rfl⟩ := Prod.mk.inj h
          refine ⟨hstore ▸ hsame ▸ .refl _, fun _ => ?_⟩
          rw [hstore]
          exact Store.exists_of_isFolder (hfolder rfl)
      | false =>
          obtain ⟨rfl, rfl⟩ := Prod.mk.inj h
          exact ⟨hstore ▸ hsame ▸ .refl _, nofun⟩

/-- The same holds of a directory with those above it. -/
theorem of_createFoldersUpTo {fuel : Nat} {result : Except FileFault Unit}
    (h : guard.perform (guard.createFoldersUpTo fuel path) state = (result, last)) :
    state.1.Adds last.1 ∧ (result = .ok () → path ≠ "" →
      ∃ base, last.1.locate path = .ok base ∧ Store.entry? last.1 base = some .folder) := by
  induction fuel generalizing path state last result with
  | zero =>
      obtain ⟨rfl, rfl⟩ := Prod.mk.inj h
      exact ⟨.refl _, nofun⟩
  | succ fuel ih =>
      rw [createFoldersUpTo] at h
      split at h
      · rename_i hempty
        obtain ⟨rfl, rfl⟩ := Prod.mk.inj h
        exact ⟨.refl _, fun _ hne => absurd hempty hne⟩
      · rw [perform_tryCatch] at h
        split at h
        · rename_i made next hensure
          obtain ⟨rfl, rfl⟩ := Prod.mk.inj h
          obtain ⟨hadds, hfolder⟩ := of_ensureFolder hensure
          exact ⟨hadds, fun _ _ => hfolder rfl⟩
        · rename_i fault next hensure
          obtain ⟨hadds, -⟩ := of_ensureFolder hensure
          split at h
          · -- the directories above are made first
            rcases cases_of_bind h with ⟨e, habove, rfl⟩ | ⟨made, middle, habove, h⟩
            · exact ⟨hadds.trans (ih habove).1, nofun⟩
            · obtain ⟨haddsLast, hfolder⟩ := of_ensureFolder h
              exact ⟨(hadds.trans (ih habove).1).trans haddsLast, fun hok _ => hfolder hok⟩
          · obtain ⟨rfl, rfl⟩ := Prod.mk.inj h
            exact ⟨hadds, nofun⟩

/-- **DIRECTORIES** are all that making one leaves behind, however it ends; if it succeeds, its path
    leads to one. -/
theorem of_createFolders {result : Except FileFault Unit}
    (h : guard.perform (FileSystem.createFolders path) state = (result, last)) :
    state.1.Adds last.1 ∧ (result = .ok () → path ≠ "" →
      ∃ base, last.1.locate path = .ok base ∧ Store.entry? last.1 base = some .folder) :=
  of_createFoldersUpTo h

end Guard

/-! ## Nothing is refused -/

namespace Guard

variable {σ ε ε' α β : Type}

/-- The guard that refuses nothing. -/
def lax : Guard σ where
  judge _ state := (none, state.2)

/-- Guarded work that comes to the same as work on a store where nothing is refused. -/
def Follows (σ : Type) (work : ExceptT ε (StateM Store) α)
    (guarded : ExceptT ε (Guarded (lax : Guard σ)) α) : Prop :=
  ∀ store hidden, lax.perform guarded (store, hidden)
    = ((store.perform work).1, (store.perform work).2, hidden)

section Follows

variable {work : ExceptT ε (StateM Store) α} {guarded : ExceptT ε (Guarded (lax : Guard σ)) α}

theorem follows_pure (a : α) :
    Follows σ (pure a : ExceptT ε (StateM Store) α) (pure a) :=
  fun _ _ => rfl

theorem follows_throw (e : ε) :
    Follows σ (throw e : ExceptT ε (StateM Store) α) (throw e) :=
  fun _ _ => rfl

theorem follows_lift (x : Except ε α) :
    Follows σ (liftM x : ExceptT ε (StateM Store) α) (liftM x) :=
  fun _ _ => rfl

theorem follows_passOr (failed : Failure → Store → Store) (request : Request)
    (work : ExceptT FileFault (StateM Store) α) :
    Follows σ work (lax.passOr failed request work) :=
  fun _ _ => rfl

theorem follows_pass (request : Request) (work : ExceptT FileFault (StateM Store) α) :
    Follows σ work (lax.pass request work) :=
  follows_passOr _ request work

theorem Follows.bind {further : α → ExceptT ε (StateM Store) β}
    {guardedFurther : α → ExceptT ε (Guarded (lax : Guard σ)) β} (h : Follows σ work guarded)
    (hfurther : ∀ a, Follows σ (further a) (guardedFurther a)) :
    Follows σ (work >>= further) (guarded >>= guardedFurther) := by
  intro store hidden
  rw [perform_bind, h store hidden]
  obtain ⟨result, next, hwork⟩ : ∃ result next, store.perform work = (result, next) :=
    ⟨_, _, rfl⟩
  cases result with
  | ok a =>
      rw [Store.perform_bind_of_ok hwork, hwork]
      exact hfurther a next hidden
  | error e =>
      rw [Store.perform_bind_of_error hwork, hwork]

theorem Follows.tryCatch {handle : ε → ExceptT ε (StateM Store) α}
    {guardedHandle : ε → ExceptT ε (Guarded (lax : Guard σ)) α} (h : Follows σ work guarded)
    (hhandle : ∀ e, Follows σ (handle e) (guardedHandle e)) :
    Follows σ (tryCatch work handle) (tryCatch guarded guardedHandle) := by
  intro store hidden
  rw [perform_tryCatch, h store hidden]
  obtain ⟨result, next, hwork⟩ : ∃ result next, store.perform work = (result, next) :=
    ⟨_, _, rfl⟩
  cases result with
  | ok a =>
      rw [Store.perform_tryCatch_of_ok hwork, hwork]
  | error e =>
      rw [Store.perform_tryCatch_of_error hwork, hwork]
      exact hhandle e next hidden

theorem Follows.adapt (h : Follows σ work guarded) (word : ε → ε') :
    Follows σ (work.adapt word) (guarded.adapt word) := by
  intro store hidden
  rw [perform_adapt, h store hidden]
  rfl

end Follows

theorem follows_seesFolder (path : String) :
    Follows σ (Store.ask fun store => .ok (store.isFolder path)) (lax.seesFolder path) :=
  fun _ _ => rfl

theorem follows_ensureFolder (path : String) :
    Follows σ (Store.ensureFolder path) (lax.ensureFolder path) := by
  intro store hidden
  rw [Store.perform_ensureFolder, ensureFolder, perform_tryCatch,
    follows_pass (.makeFolder path) _ store hidden]
  cases hmake : store.makeFolder path with
  | ok next =>
      rw [Store.perform_attempt_of_ok (·.makeFolder path) hmake]
  | error fault =>
      rw [Store.perform_attempt_of_error (·.makeFolder path) hmake]
      dsimp only
      rw [perform_bind, follows_seesFolder path store hidden]
      show lax.perform (if store.isFolder path = true then pure () else throw fault)
        (store, hidden) = _
      split <;> rfl

theorem follows_createFoldersUpTo (fuel : Nat) (path : String) :
    Follows σ (Store.createFoldersUpTo fuel path) (lax.createFoldersUpTo fuel path) := by
  induction fuel generalizing path with
  | zero => exact follows_throw _
  | succ fuel ih =>
      rw [Store.createFoldersUpTo, createFoldersUpTo]
      split
      · exact follows_pure ()
      · refine (follows_ensureFolder path).tryCatch fun fault => ?_
        cases FilePath.parent? path with
        | none => cases fault <;> exact follows_throw _
        | some above =>
            cases fault with
            | notFound => exact (ih above).bind fun _ => follows_ensureFolder path
            | _ => exact follows_throw _

end Guard

section Follows

open Guard (Follows lax follows_pure follows_lift follows_pass follows_passOr)

theorem follows_readable (path : String) : Follows σ
    (liftM (readable? (m := StateM Store) path) :
      ExceptT RenderError (StateM Store) (Option String))
    (liftM (readable? (m := Guarded (lax : Guard σ)) path)) := by
  intro store hidden
  rw [perform_readable, Guard.perform_readable]
  rfl

theorem Artifact.follows_write (file : Artifact) (output : String) :
    Follows σ (file.write (m := StateM Store) output) (file.write output) := by
  have hput : Follows σ (do
      (FileSystem.write (m := StateM Store) (FilePath.join output file.path) file.contents).adapt
        (RenderError.unwritable (FilePath.join output file.path))
      return true) (do
      (FileSystem.write (m := Guarded (lax : Guard σ)) (FilePath.join output file.path)
        file.contents).adapt (RenderError.unwritable (FilePath.join output file.path))
      return true) :=
    ((follows_passOr _ _ _).adapt _).bind fun _ => follows_pure true
  unfold write
  dsimp only
  refine (follows_readable _).bind fun found => ?_
  split
  · exact follows_pure false
  · split
    · exact ((Guard.follows_createFoldersUpTo _ _).adapt _).bind fun _ => hput
    · exact hput

namespace Artifacts

theorem follows_writeFiles (output : String) (files : List Artifact) :
    Follows σ (writeFiles (m := StateM Store) output files) (writeFiles output files) := by
  induction files with
  | nil => exact follows_pure _
  | cons file files ih =>
      rw [writeFiles, writeFiles]
      refine (file.follows_write output).bind fun wrote => ?_
      split
      all_goals exact ih.bind fun _ => follows_pure _

theorem follows_removeStale (artifacts : Artifacts) (output : String) (below : List String) :
    Follows σ (artifacts.removeStale (m := StateM Store) output below)
      (artifacts.removeStale output below) := by
  induction below with
  | nil => exact follows_pure _
  | cons relative below ih =>
      rw [removeStale, removeStale]
      split
      · exact ih
      · refine (follows_readable _).bind fun found => ?_
        cases found with
        | none => exact ih
        | some text =>
            dsimp only
            split
            · exact ((follows_pass (.remove _) _).adapt _).bind fun _ =>
                ih.bind fun _ => follows_pure _
            · exact ih

/-- **WITHOUT REFUSALS** a write under a guard is a write. -/
theorem perform_write_lax (artifacts : Artifacts) (output : String) (store : Store) (hidden : σ) :
    lax.perform (artifacts.write output) (store, hidden)
      = ((store.perform (artifacts.write output)).1, (store.perform (artifacts.write output)).2,
        hidden) := by
  have hfollows : Follows σ (artifacts.write (m := StateM Store) output) (artifacts.write output) :=
    (follows_lift _).bind fun _ =>
      ((Guard.follows_createFoldersUpTo _ _).adapt _).bind fun _ =>
        (follows_writeFiles output _).bind fun _ =>
          ((follows_pass (.list output) _).adapt _).bind fun below =>
            (artifacts.follows_removeStale output below).bind fun _ => follows_pure _
  exact hfollows store hidden

end Artifacts

end Follows

end Bindery
