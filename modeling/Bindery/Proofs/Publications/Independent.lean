import Bindery.Proofs.Disk.Confined
import Bindery.Proofs.Publications.History

/-! # Publications side by side — which do not get in each other's way

    A publication acts on two places: it opens directories on the way to its own,
    and below that it does what only depends on what is there.  So on all stores
    that are near one (`Store.Near`) it does the same (`Store.Stands`), and where
    the directories of several publications are apart, the store that one of them
    leaves is near the first one for all the others (`Store.Merges.near`).  Then
    each of them does what it would do alone, and whatever their order, they leave
    the same store (`Publication.runAll_independent`).

    Directories of which one is in the other are different, but not apart: the
    publication into the upper one takes the files of the lower one for stale and
    removes them (`Publication.file?_of_run_above`), so that it matters which is
    run last (`Publication.order_matters`). -/

namespace Bindery

namespace Store

variable {ε ε' α : Type} {store other next next' : Store} {path : String}
  {base deep : Location}

/-! ## Near a store -/

/-- Two stores with the same entries at a location and below, and with files at the same places on
    the way to it. -/
structure Near (base : Location) (store other : Store) : Prop where
  keeps : store.KeepsFolders other
  wellFormed : other.WellFormed
  alike : Alike base store other
  files : ∀ location, location <+: base → other.file? location = store.file? location

/-- A store with directories opened on the way to a location, as far as to `deep`, and changed
    at it and below. -/
structure Reshapes (base deep : Location) (before after : Store) : Prop where
  keeps : before.KeepsFolders after
  wellFormed : after.WellFormed
  above : deep <+: base
  clear : ∀ location, location <+: deep → before.file? location = none
  others : ∀ location, ¬ base <+: location →
    after.entry? location = if location <+: deep then some .folder else before.entry? location

/-- Work on a directory that does the same on all stores near one. -/
def Stands (base deep : Location) (store : Store) (work : ExceptT ε (StateM Store) α) : Prop :=
  store.Reshapes base deep (store.perform work).2
    ∧ ∀ other, Near base store other → ∃ next, other.perform work = ((store.perform work).1, next)
      ∧ other.Reshapes base deep next ∧ Alike base (store.perform work).2 next

/-- A store is near itself. -/
theorem Near.refl (hstore : store.WellFormed) : Near base store store :=
  ⟨.refl store, hstore, ⟨rfl, fun _ => rfl⟩, fun _ _ => rfl⟩

/-- Work stands that does, on all stores near one, what it does on that. -/
theorem stands_of_forall {work : ExceptT ε (StateM Store) α} (result : Except ε α)
    (hstore : store.WellFormed) (h : ∀ other, Near base store other → ∃ next,
      other.perform work = (result, next) ∧ other.Reshapes base deep next
        ∧ ∀ first, store.perform work = (result, first) → Alike base first next) :
    Stands base deep store work := by
  obtain ⟨next, hnext, hreshapes, -⟩ := h store (.refl hstore)
  refine ⟨by rw [hnext]; exact hreshapes, fun other hnear => ?_⟩
  obtain ⟨next', hnext', hreshapes', halike⟩ := h other hnear
  exact ⟨next', by rw [hnext, hnext'], hreshapes', halike _ (by rw [hnext])⟩

/-- Work that leaves every store as it is stands. -/
theorem stands_of_same {work : ExceptT ε (StateM Store) α} (result : Except ε α)
    (hstore : store.WellFormed) (h : ∀ store : Store, store.perform work = (result, store)) :
    Stands base [] store work := by
  have hroot : ∀ {location : Location}, location <+: [] → location = [] := List.prefix_nil.mp
  refine stands_of_forall result hstore fun other hnear => ⟨other, h other, ⟨.refl other,
    hnear.wellFormed, List.nil_prefix, fun location hway => ?_, fun location _ => ?_⟩,
    fun first hfirst => ?_⟩
  · rw [hroot hway]
    rfl
  · split
    · rename_i hway
      rw [hroot hway]
      rfl
    · rfl
  · obtain rfl := (Prod.mk.inj ((h store).symm.trans hfirst)).2
    exact hnear.alike

/-- Work that does what other work does stands as that. -/
theorem Stands.congr {work : ExceptT ε (StateM Store) α} {further : ExceptT ε (StateM Store) α}
    (h : ∀ store : Store, store.perform work = store.perform further)
    (hfurther : Stands base deep store further) : Stands base deep store work := by
  unfold Stands
  simp only [h]
  exact hfurther

/-! ## Work behind a directory that is made -/

/-- What is changed below the last of the directories that have been opened. -/
theorem Opens.reshapes (hopens : store.Opens deep next) (habove : deep <+: base)
    (h : Within base next next') : store.Reshapes base deep next' := by
  refine ⟨hopens.keeps.trans h.keeps, h.wellFormed, habove, fun location hway => ?_,
    fun location hother => (h.others location hother).trans (hopens.entries location)⟩
  rw [file?]
  rcases hopens.clear location hway with hnone | hfolder
  · rw [hnone]
  · rw [hfolder]

/-- Directories can be made equally far on the way to a location in stores near one. -/
theorem Near.reaches {start : Location} {names done rest : List String}
    (hnear : Near (start ++ names) store other) (h : store.Reaches start names done rest) :
    other.Reaches start names done rest := by
  have hfront : ∀ {front : List String}, front <+: names →
      other.file? (start ++ front) = store.file? (start ++ front) := fun hway =>
    hnear.files _ ((List.prefix_append_right_inj start).mpr hway)
  refine ⟨h.split, h.short, fun front hway => ?_, fun name more hrest => ?_⟩
  · have hfile := hfront (hway.trans (h.split ▸ List.prefix_append _ _))
    have hnone : store.file? (start ++ front) = none := by
      rw [file?]
      rcases h.clear front hway with hnone | hfolder
      · rw [hnone]
      · rw [hfolder]
    rw [hnone] at hfile
    rcases hentry : other.entry? (start ++ front) with _ | _ | contents
    · exact .inl rfl
    · exact .inr rfl
    · rw [file?_eq_some.mpr hentry] at hfile
      cases hfile
  · refine (h.blocked name more hrest).imp_right fun hblocked => ?_
    obtain ⟨contents, hfile⟩ := hblocked
    have hway : done ++ [name] <+: names := ⟨more, by
      rw [h.split, hrest, List.append_assoc, List.singleton_append]⟩
    refine ⟨contents, ?_⟩
    rw [← file?_eq_some, hfront hway, file?_eq_some]
    exact hfile

/-- A path with a route leads to the last of the directories that have been opened along it. -/
theorem Route.site {start : Location} {names : List String} (h : store.Route path start names)
    (hopens : store.Opens (start ++ names) next) : next.Site path (start ++ names) := by
  have hfolder : next.entry? (start ++ names) = some .folder := by
    rw [hopens.entries, if_pos (List.prefix_refl _)]
  refine ⟨hopens.wellFormed, ?_, hfolder⟩
  rw [(h.keeps hopens.keeps).locate,
    foldlM_step_folders hopens.wellFormed hfolder fun name hname => h.isDots hname]

/-- **WORK STANDS** that makes the directories of a path with a route, and then does what is
    confined to the last one. -/
theorem stands_createFolders {start : Location} {names : List String}
    {work : ExceptT ε (StateM Store) α} {word : FileFault → ε} (hstore : store.WellFormed)
    (hroute : store.Route path start names) (hwork : Confined path (start ++ names) work) :
    ∃ deep, Stands (start ++ names) deep store
      ((createFolders path).adapt word >>= fun _ => work) := by
  obtain ⟨done, rest, hreaches⟩ := exists_reaches hroute.folder names
  have habove : start ++ done <+: start ++ names :=
    (List.prefix_append_right_inj start).mpr (hreaches.split ▸ List.prefix_append _ _)
  have hmade : ∀ other, Near (start ++ names) store other → ∃ next,
      other.perform (createFolders path) = (halt rest, next) ∧ other.Opens (start ++ done) next :=
    fun other hnear => perform_createFolders hnear.wellFormed (hroute.keeps hnear.keeps)
      (hnear.reaches hreaches)
  refine ⟨start ++ done, ?_⟩
  have hadapt : ∀ {other next : Store} {made : Except FileFault Unit},
      other.perform (createFolders path) = (made, next) →
        other.perform ((createFolders path).adapt word) = (made.mapError word, next) := by
    intro other next made hcreate
    show ((other.perform (createFolders path)).1.mapError word,
      (other.perform (createFolders path)).2) = _
    rw [hcreate]
  obtain ⟨first, hfirst, hfirstOpens⟩ := hmade store (.refl hstore)
  cases hhalt : halt rest with
  | error fault =>
      rw [hhalt] at hmade hfirst
      refine stands_of_forall (.error (word fault)) hstore fun other hnear => ?_
      obtain ⟨next, hnext, hopens⟩ := hmade other hnear
      refine ⟨next, perform_bind_of_error (hadapt hnext), hopens.reshapes habove (.refl hopens.wellFormed),
        fun same hsame => ?_⟩
      obtain rfl := (Prod.mk.inj ((perform_bind_of_error (hadapt hfirst)).symm.trans hsame)).2
      exact hnear.alike.opens hfirstOpens hopens
  | ok made =>
      -- all directories are there now
      obtain rfl : rest = [] := by
        cases rest with
        | nil => rfl
        | cons name more => exact nomatch hhalt
      obtain rfl : names = done := hreaches.split.trans (List.append_nil _)
      rw [hhalt] at hmade hfirst
      have hfirstSite := hroute.site hfirstOpens
      obtain ⟨result, _, _, hrun, -⟩ := hwork hfirstSite hfirstSite ⟨rfl, fun _ => rfl⟩
      refine stands_of_forall result hstore fun other hnear => ?_
      obtain ⟨next, hnext, hopens⟩ := hmade other hnear
      obtain ⟨result', last, last', hlast, hlast', halike, hwithin, hwithin'⟩ :=
        hwork hfirstSite ((hroute.keeps hnear.keeps).site hopens) (hnear.alike.opens hfirstOpens hopens)
      obtain rfl := (Prod.mk.inj (hrun.symm.trans hlast)).1
      refine ⟨last', (perform_bind_of_ok (hadapt hnext)).trans hlast',
        hopens.reshapes habove hwithin', fun same hsame => ?_⟩
      rw [perform_bind_of_ok (hadapt hfirst), hlast] at hsame
      obtain rfl := (Prod.mk.inj hsame).2
      exact halike

/-! ## Side by side -/

/-- Locations neither of which is above the other or at it. -/
def Apart (base base' : Location) : Prop := ¬ base <+: base' ∧ ¬ base' <+: base

/-- What is below one of two locations that are apart is not below the other. -/
theorem Apart.not_below {base' location : Location} (h : Apart base base')
    (hbelow : base <+: location) : ¬ base' <+: location := fun hbelow' =>
  (List.prefix_or_prefix_of_prefix hbelow hbelow').elim h.1 h.2

/-- Nor is it above the other. -/
theorem Apart.not_above {base' location : Location} (h : Apart base base')
    (hbelow : base <+: location) : ¬ location <+: base' := fun habove =>
  h.1 (hbelow.trans habove)

/-- A store is told by its entries. -/
theorem eq_of_entry? (hstore : store.WellFormed) (hother : other.WellFormed)
    (hfolder : store.workingFolder = other.workingFolder)
    (h : ∀ location, store.entry? location = other.entry? location) : store = other := by
  have hnumbers : store.numbers = other.numbers := hstore.unlinked.trans hother.unlinked.symm
  have hroot : ∀ {store : Store}, store.WellFormed → store.entries.get? [] = none := by
    intro store hstore
    refine Option.eq_none_iff_forall_ne_some.mpr fun entry hentry => ?_
    exact (hstore.named _ (SortedMap.get?_eq_some_iff.mp hentry)).1 rfl
  have hentries : store.entries = other.entries := by
    refine SortedMap.eq_of_get? fun location => ?_
    cases location with
    | nil => rw [hroot hstore, hroot hother]
    | cons name location => exact h (name :: location)
  cases store
  cases other
  exact Store.mk.injEq .. ▸ ⟨hentries, hfolder, hnumbers⟩

/-- A store after pieces of work on several directories, each of which has come to what it comes
    to alone. -/
structure Merges {ι : Type} (bases deeps : ι → Location) (alone : ι → Store) (before : Store)
    (done : List ι) (after : Store) : Prop where
  workingFolder : after.workingFolder = before.workingFolder
  wellFormed : after.WellFormed
  inside : ∀ i ∈ done, ∀ location, bases i <+: location →
    after.entry? location = Store.entry? (alone i) location
  opened : ∀ location, (∀ i ∈ done, ¬ bases i <+: location) → ∀ i ∈ done, location <+: deeps i →
    after.entry? location = some .folder
  others : ∀ location, (∀ i ∈ done, ¬ bases i <+: location) →
    (∀ i ∈ done, ¬ location <+: deeps i) → after.entry? location = before.entry? location

namespace Merges

variable {ι : Type} {bases deeps : ι → Location} {alone : ι → Store} {done done' : List ι} {i : ι}

/-- Before anything has been done. -/
theorem nil (hstore : store.WellFormed) : Merges bases deeps alone store [] store :=
  ⟨rfl, hstore, nofun, fun _ _ => nofun, fun _ _ _ => rfl⟩

/-- What has been done elsewhere leaves a store that is near the first one. -/
theorem near (h : Merges bases deeps alone store done next)
    (hreshapes : ∀ i ∈ done, store.Reshapes (bases i) (deeps i) (alone i))
    (hapart : ∀ i ∈ done, Apart (bases i) base) : Near base store next := by
  refine ⟨⟨h.workingFolder, fun location hfolder => ?_⟩, h.wellFormed,
    ⟨h.workingFolder, fun names => ?_⟩, fun location habove => ?_⟩
  · by_cases hinside : ∃ i ∈ done, bases i <+: location
    · obtain ⟨i, hi, hbelow⟩ := hinside
      rw [h.inside i hi location hbelow, (hreshapes i hi).keeps.folders location hfolder]
    · simp only [not_exists, not_and] at hinside
      by_cases hopened : ∃ i ∈ done, location <+: deeps i
      · obtain ⟨i, hi, habove⟩ := hopened
        exact h.opened location hinside i hi habove
      · simp only [not_exists, not_and] at hopened
        rw [h.others location hinside hopened, hfolder]
  · have hbelow : base <+: base ++ names := List.prefix_append _ _
    refine h.others _ (fun i hi hother => (hapart i hi).not_below hother hbelow)
      fun i hi habove => (hapart i hi).2 (hbelow.trans (habove.trans (hreshapes i hi).above))
  · have hinside : ∀ i ∈ done, ¬ bases i <+: location := fun i hi hbelow =>
      (hapart i hi).not_above hbelow habove
    by_cases hopened : ∃ i ∈ done, location <+: deeps i
    · obtain ⟨i, hi, hdeep⟩ := hopened
      rw [file?, h.opened location hinside i hi hdeep, (hreshapes i hi).clear location hdeep]
    · simp only [not_exists, not_and] at hopened
      exact file?_congr (h.others location hinside hopened)

/-- One more piece of work, elsewhere than the others. -/
theorem concat {middle : Store} (h : Merges bases deeps alone store done middle)
    (hreshapes : middle.Reshapes (bases i) (deeps i) next) (halike : Alike (bases i) (alone i) next)
    (hapart : ∀ j ∈ done, Apart (bases j) (bases i)) :
    Merges bases deeps alone store (done ++ [i]) next := by
  have hsplit : ∀ {p : ι → Prop}, (∀ j ∈ done ++ [i], p j) → (∀ j ∈ done, p j) ∧ p i := fun hall =>
    ⟨fun j hj => hall j (List.mem_append_left _ hj), hall i (List.mem_append_right _ (by simp))⟩
  refine ⟨hreshapes.keeps.workingFolder.trans h.workingFolder, hreshapes.wellFormed, ?_, ?_, ?_⟩
  · refine List.forall_mem_append.mpr ⟨fun j hj location hbelow => ?_,
      List.forall_mem_singleton.mpr fun location hbelow => ?_⟩
    · rw [hreshapes.others location ((hapart j hj).not_below hbelow), if_neg, h.inside j hj _ hbelow]
      exact fun hdeep => (hapart j hj).not_above hbelow (hdeep.trans hreshapes.above)
    · obtain ⟨names, rfl⟩ := hbelow
      exact halike.entries names
  · intro location hinside
    obtain ⟨hdone, hlast⟩ := hsplit hinside
    refine List.forall_mem_append.mpr ⟨fun j hj hdeep => ?_,
      List.forall_mem_singleton.mpr fun hdeep => ?_⟩
    · rw [hreshapes.others location hlast, h.opened location hdone j hj hdeep, ite_self]
    · rw [hreshapes.others location hlast, if_pos hdeep]
  · intro location hinside hopened
    obtain ⟨hdone, hlast⟩ := hsplit hinside
    obtain ⟨hdoneDeep, hlastDeep⟩ := hsplit hopened
    rw [hreshapes.others location hlast, if_neg hlastDeep, h.others location hdone hdoneDeep]

/-- Whatever the order of the pieces, they leave one store. -/
theorem eq (h : Merges bases deeps alone store done next)
    (h' : Merges bases deeps alone store done' next') (hsame : ∀ i, i ∈ done ↔ i ∈ done') :
    next = next' := by
  refine eq_of_entry? h.wellFormed h'.wellFormed (h.workingFolder.trans h'.workingFolder.symm)
    fun location => ?_
  by_cases hinside : ∃ i ∈ done, bases i <+: location
  · obtain ⟨i, hi, hbelow⟩ := hinside
    rw [h.inside i hi _ hbelow, h'.inside i ((hsame i).mp hi) _ hbelow]
  · simp only [not_exists, not_and] at hinside
    have hinside' : ∀ i ∈ done', ¬ bases i <+: location := fun i hi => hinside i ((hsame i).mpr hi)
    by_cases hopened : ∃ i ∈ done, location <+: deeps i
    · obtain ⟨i, hi, hdeep⟩ := hopened
      rw [h.opened _ hinside i hi hdeep, h'.opened _ hinside' i ((hsame i).mp hi) hdeep]
    · simp only [not_exists, not_and] at hopened
      rw [h.others _ hinside hopened, h'.others _ hinside' fun i hi => hopened i ((hsame i).mpr hi)]

end Merges

end Store

/-! ## Publications -/

open Store (Apart Confined Merges Stands confined_lift confined_pure perform_bind_of_error
  perform_bind_of_ok perform_lift_eq_ok)

/-- The path of every file that a tree is rendered to ends in a name, unless the set is refused. -/
theorem Target.render_endsInName {target : Target} {tree : Tree} {options : RenderOptions}
    {artifacts : Artifacts} (h : target.render tree options = .ok artifacts)
    (hinner : artifacts.checkInner = .ok ()) :
    ∀ file ∈ artifacts.files, FilePath.endsInName file.path = true := by
  intro file hfile
  by_cases htarget : target = .interchange
  · subst htarget
    rcases Interchange.render_eq_ok h with ⟨-, rfl⟩ | ⟨primary, text, -, rfl⟩
    · exact nomatch hfile
    · obtain rfl : file = ⟨primary.documentName, text⟩ := List.mem_singleton.mp hfile
      exact FilePath.endsInName_append (by decide) (by decide) _
  · obtain ⟨files, rfl, hspelled, -⟩ := Target.render_marked htarget h
    have hspells := hspelled.spells hfile
    exact hspells.endsInName
      (hspells.ne_nil (Artifacts.isInner_of_checkInner hinner file hfile))

namespace Publication

variable {publication : Publication} {publications : List Publication} {tree : Tree}
  {store next : Store}

section Stores

variable [Programs (StateM Store)]

/-- Run the formatter of a publication, and tell what its files changed. -/
def settle (publication : Publication) (changes : Changes) :
    ExceptT RenderError (StateM Store) Changes := do
  format publication.output (← publication.formatter)
  return changes

/-- What a publication does with the files that it has rendered. -/
theorem perform_run_of_render {files : Artifacts}
    (h : publication.target.render tree publication.options = .ok files) :
    store.perform (publication.run tree)
      = store.perform (files.write publication.output >>= publication.settle) := by
  unfold run
  exact perform_bind_of_ok (perform_lift_eq_ok.mpr ⟨h, rfl⟩)

/-- What is done once the directory is there is confined to it when the formatter is. -/
theorem confined_settle {files : Artifacts} {base : Location}
    (hrender : publication.target.render tree publication.options = .ok files)
    (hcheck : files.checkInner = .ok ())
    (hformat : ∀ words, publication.formatter = .ok words → Confined publication.output base
      (format (m := StateM Store) publication.output words)) :
    Confined publication.output base (files.fill publication.output >>= publication.settle) := by
  refine (Artifacts.confined_fill hcheck (Target.render_endsInName hrender hcheck)).bind
    fun changes _ => ?_
  unfold settle
  refine (confined_lift publication.formatter).bind fun words hwords => ?_
  obtain ⟨store, next, -, hlifted⟩ := hwords
  exact (hformat words (perform_lift_eq_ok.mp hlifted).1).bind fun _ _ => confined_pure changes

/-! ## One of them -/

/-- **A PUBLICATION STANDS** by itself when its output has a route and its formatter, if there is
    one, is confined to the directory. -/
theorem exists_stands {start : Location} {names : List String} (hstore : store.WellFormed)
    (hroute : store.Route publication.output start names)
    (hformat : ∀ words, publication.formatter = .ok words →
      Confined publication.output (start ++ names)
        (format (m := StateM Store) publication.output words)) :
    ∃ deep, Stands (start ++ names) deep store (publication.run (m := StateM Store) tree) := by
  cases hrender : publication.target.render tree publication.options with
  | error e =>
      exact ⟨[], Store.stands_of_same (.error e) hstore fun store => run_of_render_error hrender⟩
  | ok files =>
      cases hcheck : files.checkInner with
      | error e =>
          refine ⟨[], Store.stands_of_same (.error e) hstore fun store => ?_⟩
          rw [perform_run_of_render hrender, Artifacts.write_eq_fill]
          exact perform_bind_of_error (perform_bind_of_error (congrArg (·, store) hcheck))
      | ok done =>
          obtain ⟨deep, hstands⟩ := @Store.stands_createFolders _ _ store publication.output start
            names _ (RenderError.unwritable publication.output) hstore hroute
            (confined_settle hrender hcheck hformat)
          refine ⟨deep, hstands.congr fun store => ?_⟩
          rw [perform_run_of_render hrender, Artifacts.write_eq_fill, bind_assoc,
            perform_bind_of_ok (perform_lift_eq_ok.mpr ⟨hcheck, rfl⟩), bind_assoc]

/-! ## All of them -/

/-- How a publication ends when it is the only one. -/
def outcome (tree : Tree) (store : Store) (publication : Publication) : PublicationOutcome :=
  ⟨publication.target, publication.output, (store.perform (publication.run tree)).1⟩

/-- The store that it leaves then. -/
def left (tree : Tree) (store : Store) (publication : Publication) : Store :=
  (store.perform (publication.run tree)).2

/-- One publication after another. -/
theorem runAll_cons {middle last : Store} {result : Except RenderError Changes}
    {outcomes : List PublicationOutcome}
    (h : store.perform (publication.run tree) = (result, middle))
    (hrest : (runAll (m := StateM Store) tree publications).run middle = (outcomes, last)) :
    (runAll (m := StateM Store) tree (publication :: publications)).run store
      = (⟨publication.target, publication.output, result⟩ :: outcomes, last) := by
  have h' : (publication.run (m := StateM Store) tree : StateM Store _) store
      = (result, middle) := h
  have hrest' : runAll (m := StateM Store) tree publications middle = (outcomes, last) := hrest
  show (runAll (m := StateM Store) tree (publication :: publications)) store = _
  simp only [runAll, bind, StateT.bind, ExceptT.run, h', hrest']
  rfl

/-- Publications that stand come to what they come to alone, one after another. -/
theorem exists_merges {bases deeps : Publication → Location} (done : List Publication)
    (hstands : ∀ publication ∈ done ++ publications,
      Stands (bases publication) (deeps publication) store (publication.run (m := StateM Store) tree))
    (hapart : (done ++ publications).Pairwise fun p q => Apart (bases p) (bases q))
    (h : Merges bases deeps (left tree store) store done next) :
    ∃ last, (runAll (m := StateM Store) tree publications).run next
        = (publications.map (outcome tree store), last)
      ∧ Merges bases deeps (left tree store) store (done ++ publications) last := by
  induction publications generalizing done next with
  | nil => exact ⟨next, rfl, by rwa [List.append_nil]⟩
  | cons publication publications ih =>
      obtain ⟨-, -, hcross⟩ := List.pairwise_append.mp hapart
      have hapartHere : ∀ p ∈ done, Apart (bases p) (bases publication) := fun p hp =>
        hcross p hp publication List.mem_cons_self
      -- what has been done so far has left a store that is near the first one
      have hnear := h.near (fun p hp => (hstands p (List.mem_append_left _ hp)).1) hapartHere
      obtain ⟨middle, hmiddle, hreshapes, halike⟩ :=
        (hstands publication (List.mem_append_right _ List.mem_cons_self)).2 next hnear
      rw [List.append_cons] at hstands hapart
      obtain ⟨last, hlast, hmerges⟩ := ih _ hstands hapart (h.concat hreshapes halike hapartHere)
      rw [← List.append_cons] at hmerges
      exact ⟨last, runAll_cons hmiddle hlast, hmerges⟩

/-- **SIDE BY SIDE**: publications whose outputs have routes to directories that are apart, and whose
    formatters, if there are any, are confined to these, each end as if they were the only one, and
    in whatever order they are run they leave the same store: one that has in each directory what
    its publication leaves there alone. -/
theorem runAll_independent {bases : Publication → Location} (hstore : store.WellFormed)
    (hroutes : ∀ publication ∈ publications, ∃ start names,
      bases publication = start ++ names ∧ store.Route publication.output start names)
    (hapart : publications.Pairwise fun p q => Apart (bases p) (bases q))
    (hformat : ∀ publication ∈ publications, ∀ words, publication.formatter = .ok words →
      Confined publication.output (bases publication)
        (format (m := StateM Store) publication.output words)) :
    ∃ final, (∀ order, order.Perm publications →
        (runAll (m := StateM Store) tree order).run store = (order.map (outcome tree store), final))
      ∧ ∀ publication ∈ publications, ∀ names, final.entry? (bases publication ++ names)
        = Store.entry? (left tree store publication) (bases publication ++ names) := by
  have hstands : ∀ publication ∈ publications, ∃ deep,
      Stands (bases publication) deep store (publication.run (m := StateM Store) tree) := by
    intro publication hmem
    obtain ⟨start, names, hbase, hroute⟩ := hroutes publication hmem
    rw [hbase]
    exact exists_stands hstore hroute fun words hwords => hbase ▸ hformat publication hmem words hwords
  choose! deeps hdeeps using hstands
  have hrun : ∀ order, order.Perm publications → ∃ last,
      (runAll (m := StateM Store) tree order).run store = (order.map (outcome tree store), last)
        ∧ Merges bases deeps (left tree store) store order last := fun order horder =>
    exists_merges [] (fun publication hmem => hdeeps publication (horder.mem_iff.mp hmem))
      ((horder.pairwise_iff fun h => ⟨h.2, h.1⟩).mpr hapart) (.nil hstore)
  obtain ⟨final, -, hfinal⟩ := hrun publications (.refl _)
  refine ⟨final, fun order horder => ?_, fun publication hmem names =>
    hfinal.inside publication hmem _ (List.prefix_append _ _)⟩
  obtain ⟨last, hlast, hmerges⟩ := hrun order horder
  rw [hlast, hmerges.eq hfinal fun publication => horder.mem_iff]

end Stores

/-! ## Without programs -/

attribute [local instance] bare

/-- A formatter that is not installed is confined to every directory. -/
theorem confined_format {output : String} {base : Location} (words : List String) :
    Confined output base (format (m := StateM Store) output words) := by
  cases words with
  | nil => exact confined_pure ()
  | cons program arguments =>
      exact fun store other hsite hother halike => ⟨_, store, other, rfl, rfl, halike,
        .refl hsite.wellFormed, .refl hother.wellFormed⟩

/-- The package and the crate in two directories of one, and a formatter for the package that is not
    installed. -/
def beside : List Publication :=
  [⟨.package, "out/js", ⟨true, .ofList [("formatter", .of (.array [.string "prettier"]))]⟩⟩,
    ⟨.crate, "out/rust", ⟨false, .empty⟩⟩]

theorem runAll_independent_shop : ∃ final,
    (∀ order, order.Perm beside →
      (runAll (m := StateM Store) shop order).run freshDesk
        = (order.map (outcome shop freshDesk), final))
      ∧ (final.file? ["work", "out", "js", "index.ts"]).isSome = true
      ∧ (final.file? ["work", "out", "rust", "mod.rs"]).isSome = true := by
  have hroutes : ∀ publication ∈ beside, freshDesk.Route publication.output ["work"]
      (Store.pieces publication.output) :=
    List.forall_mem_cons.mpr ⟨⟨⟨by decide +kernel, [], _, rfl, rfl, by decide +kernel,
      by decide +kernel, by decide +kernel⟩, by decide +kernel⟩, List.forall_mem_singleton.mpr
      ⟨⟨by decide +kernel, [], _, rfl, rfl, by decide +kernel, by decide +kernel,
        by decide +kernel⟩, by decide +kernel⟩⟩
  obtain ⟨final, hruns, hfinal⟩ := @runAll_independent beside shop freshDesk _
    (fun publication => ["work"] ++ Store.pieces publication.output) (by decide +kernel)
    (fun publication hmem => ⟨_, _, rfl, hroutes publication hmem⟩)
    (List.pairwise_pair.mpr ⟨by decide +kernel, by decide +kernel⟩)
    fun _ _ words _ => confined_format words
  have hjs : ["work"] ++ Store.pieces "out/js" = ["work", "out", "js"] := by decide +kernel
  have hrust : ["work"] ++ Store.pieces "out/rust" = ["work", "out", "rust"] := by decide +kernel
  have hindex := Store.file?_congr (hfinal beside[0] (List.getElem_mem (by decide)) ["index.ts"])
  have hmod := Store.file?_congr (hfinal beside[1] (List.getElem_mem (by decide)) ["mod.rs"])
  rw [show beside[0].output = "out/js" from rfl, hjs] at hindex
  rw [show beside[1].output = "out/rust" from rfl, hrust] at hmod
  refine ⟨final, hruns, (congrArg Option.isSome hindex).trans ?_, (congrArg Option.isSome hmod).trans ?_⟩
  all_goals decide +kernel

/-! ## One directory in the other -/

/-- **BELOW ANOTHER ONE** the files of a publication of the crate or the package do not last: behind
    a publication into a directory above they are gone, unless that has a file in their place. -/
theorem file?_of_run_above {lower upper : Publication} {middle : Store} {changes changes' : Changes}
    {base : Location} {below names : List String} {files others : Artifacts}
    (htargets : lower.target ≠ .interchange ∧ upper.target ≠ .interchange)
    (hformats : lower.formatter = .ok [] ∧ upper.formatter = .ok [])
    (hstore : store.SharesNone lower.output) (hmiddle : middle.SharesNone upper.output)
    (hlower : store.perform (lower.run tree) = (.ok changes, middle))
    (hupper : middle.perform (upper.run tree) = (.ok changes', next))
    (hfiles : lower.target.render tree lower.options = .ok files)
    (hothers : upper.target.render tree upper.options = .ok others)
    (hbase : middle.locate upper.output = .ok base)
    (hbelow : middle.locate lower.output = .ok (base ++ below))
    (hthere : (files.text? names).isSome = true)
    (hshort : (Artifacts.listedPath upper.output (below ++ names)).utf8ByteSize ≤ Store.pathLimit) :
    next.file? (base ++ (below ++ names)) = others.text? (below ++ names) := by
  obtain ⟨_, hsame, hlowerWrite⟩ := (run_eq_ok hformats.1).mp hlower
  obtain rfl := Except.ok.inj (hfiles.symm.trans hsame)
  obtain ⟨_, hsame, hupperWrite⟩ := (run_eq_ok hformats.2).mp hupper
  obtain rfl := Except.ok.inj (hothers.symm.trans hsame)
  obtain ⟨listed, rfl, hspelled, hmarked⟩ := Target.render_marked htargets.1 hfiles
  obtain ⟨listed', rfl, hspelled', -⟩ := Target.render_marked htargets.2 hothers
  obtain ⟨found, hlowerLeaves⟩ := hspelled.leaves hstore hlowerWrite
  obtain rfl := Except.ok.inj (hbelow.symm.trans hlowerLeaves.located)
  obtain ⟨found, hupperLeaves⟩ := hspelled'.leaves hmiddle hupperWrite
  obtain rfl := Except.ok.inj ((hupperLeaves.keeps.locate hbase).symm.trans hupperLeaves.located)
  -- the file was there, and it says that it was generated
  obtain ⟨contents, hcontents⟩ := Option.isSome_iff_exists.mp hthere
  obtain ⟨file, hfile, -, rfl⟩ := hspelled.text?_eq_some.mp hcontents
  have hgenerated : isGenerated file.contents = true := (@Artifacts.forall_mem_ofFiles listed
    (fun _ => True) (isGenerated · = true) (fun file hfile => ⟨trivial, hmarked file hfile⟩)
    file hfile).2
  have hfound := hlowerLeaves.inside names
  rw [hcontents, Option.some_or, List.append_assoc] at hfound
  have hgone : Artifacts.left upper.output (below ++ names) (some (.text file.contents)) = none :=
    Option.eq_none_iff_forall_ne_some.mpr fun contents hleft => by
      obtain ⟨heq, hkept⟩ := Artifacts.left_eq_some.mp hleft
      obtain rfl := Option.some.inj heq
      exact hkept ⟨hgenerated, hshort⟩
  rw [hupperLeaves.inside, hfound, hgone, Option.or_none]

/-- The package in a directory of the one that the crate is in. -/
def nested : List Publication :=
  [⟨.package, "out/js", ⟨false, SortedMap.empty⟩⟩, ⟨.crate, "out", ⟨false, SortedMap.empty⟩⟩]

/-- **THE ORDER MATTERS** for a package in a directory of the one that the crate is in: its files are
    gone when it is published first, and there when it is published last. -/
theorem order_matters :
    nested.map (fun publication => freshDesk.locate publication.output)
        = [.ok ["work", "out", "js"], .ok ["work", "out"]]
      ∧ ((runAll (m := StateM Store) shop nested).run freshDesk).2.file?
        ["work", "out", "js", "index.ts"] = none
      ∧ (((runAll (m := StateM Store) shop nested.reverse).run freshDesk).2.file?
        ["work", "out", "js", "index.ts"]).isSome = true := by
  refine ⟨by decide +kernel, ?_, by decide +kernel⟩
  obtain ⟨files, hfiles, hthere⟩ := exists_ok_of_any
    (show (Target.package.render shop ⟨false, SortedMap.empty⟩).toOption.any
      (fun files => (files.text? ["index.ts"]).isSome) = true by decide +kernel)
  obtain ⟨changes, hchanges⟩ := Option.isSome_iff_exists.mp
    (show (freshDesk.perform (run shop nested[0])).1.toOption.isSome = true by decide +kernel)
  obtain ⟨middle, hlower⟩ := Store.perform_eq_of_fst (toOption_eq_some.mp hchanges)
  -- the crate can be written then, and it has no file in the place of the package's
  obtain ⟨others, hothers, hchecks⟩ := exists_ok_of_any
    (show (Target.crate.render shop ⟨false, SortedMap.empty⟩).toOption.any (fun others =>
        ((freshDesk.perform (run shop nested[0])).2.perform
          (Artifacts.writeFiles "out" others.files)).1.toOption.isSome
        && others.checkInner.toOption.isSome && (others.text? ["js", "index.ts"]).isNone) = true
      by decide +kernel)
  rw [Bool.and_eq_true, Bool.and_eq_true, hlower] at hchecks
  obtain ⟨⟨hwritten, hinner⟩, hnone⟩ := hchecks
  obtain ⟨⟨⟩, hinner⟩ := Option.isSome_iff_exists.mp hinner
  obtain ⟨⟨written, unchanged⟩, hwritten⟩ := Option.isSome_iff_exists.mp hwritten
  have hinner := toOption_eq_some.mp hinner
  obtain ⟨filled, hfilled⟩ := Store.perform_eq_of_fst (toOption_eq_some.mp hwritten)
  have hsite : (freshDesk.perform (run shop nested[0])).2.Site "out" ["work", "out"] :=
    ⟨by decide +kernel, by decide +kernel, by decide +kernel⟩
  have hbelow : (freshDesk.perform (run shop nested[0])).2.locate "out/js"
      = .ok (["work", "out"] ++ ["js"]) := by decide +kernel
  rw [hlower] at hsite hbelow
  obtain ⟨changes', next, hwrite⟩ := Artifacts.exists_write hsite hinner
    (Target.render_endsInName hothers hinner) hfilled
  have hupper : middle.perform (run shop nested[1]) = (.ok changes', next) :=
    (run_eq_ok rfl).mpr ⟨others, hothers, hwrite⟩
  have hfresh : freshDesk.WellFormed := by decide +kernel
  have hgone := file?_of_run_above (by decide) ⟨rfl, rfl⟩ (hfresh.sharesNone _)
    (hsite.wellFormed.sharesNone _) hlower hupper hfiles hothers hsite.located hbelow hthere
    (by decide +kernel)
  show ((runAll (m := StateM Store) shop [nested[0], nested[1]]).run freshDesk).2.file? _ = none
  rw [runAll_cons hlower (runAll_cons hupper rfl)]
  exact hgone.trans (Option.isNone_iff_eq_none.mp hnone)

end Publication

end Bindery
