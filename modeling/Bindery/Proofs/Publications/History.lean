import Bindery.Proofs.Publications.Again

/-! # Histories — what a directory holds after a sequence of runs

    Along a sequence of runs into one directory each set of files that is rendered
    is written over what the earlier ones left (`Run.Into.step`, `file?_after`).
    When the directory was empty, a file is there in the end exactly when a run put
    it there, no later one put another in its place, and it is not marked as
    generated or no set was written later (`file?_after_eq_some`).

    All that the crate and the package render is marked, so there the directory
    holds the files of the last tree that was rendered and no others, whatever came
    before (`files_after`). -/

namespace Bindery

open Artifacts (Spelled left left_eq_some listedPath)

/-- A run: a tree, and how it is published. -/
structure Run where
  publication : Publication
  tree : Tree

namespace Run

/-- What the tree of a run is rendered to, if it is. -/
def rendered? (run : Run) : Option Artifacts :=
  (run.publication.target.render run.tree run.publication.options).toOption

variable [Programs (StateM Store)]

/-- A run over a store: how it ends, and what it leaves. -/
def perform (run : Run) (store : Store) : Except RenderError Changes × Store :=
  store.perform (run.publication.run run.tree)

end Run

namespace Store

variable [Programs (StateM Store)]

/-- What a sequence of runs leaves of a store. -/
def after (store : Store) (runs : List Run) : Store :=
  runs.foldl (fun store run => (run.perform store).2) store

/-- All runs of a sequence end as they should. -/
def Along (P : Run → Except RenderError Changes → Prop) : Store → List Run → Prop
  | _, [] => True
  | store, run :: runs => P run (run.perform store).1 ∧ Along P (run.perform store).2 runs

instance decidableAlong {P : Run → Except RenderError Changes → Prop}
    [∀ run result, Decidable (P run result)] :
    (store : Store) → (runs : List Run) → Decidable (Along P store runs)
  | _, [] => .isTrue trivial
  | store, run :: runs =>
      @instDecidableAnd _ _ inferInstance (decidableAlong (run.perform store).2 runs)

/-- A sequence of runs that all write what they render, if anything. -/
abbrev Unhindered : Store → List Run → Prop :=
  Along fun run result => run.rendered?.isSome = true → result.isOk = true

end Store

variable {output : String} {base : Location} {store : Store} {run : Run} {runs : List Run}
  {names : List String} {contents : Contents} {sets : List Artifacts} {artifacts : Artifacts}

/-- The first run leaves the store that the others find. -/
theorem Store.after_cons [Programs (StateM Store)] {next : Store} (h : (run.perform store).2 = next) :
    store.after (run :: runs) = next.after runs := by
  show (run.perform store).2.after runs = next.after runs
  rw [h]

/-! ## One set over another -/

namespace Artifacts

/-- The paths of all files of a set can be read below a directory. -/
def Short (output : String) (artifacts : Artifacts) : Prop :=
  ∀ names contents, artifacts.text? names = some contents →
    (listedPath output names).utf8ByteSize ≤ Store.pathLimit

/-- What is found under some names of a directory once a set has been written there. -/
def onto (output : String) (names : List String) (found : Option Contents) (artifacts : Artifacts) :
    Option Contents :=
  (artifacts.text? names).or (left output names found)

/-- **WHAT REMAINS** of sets that are written over one another into an empty directory: the files
    of the last set, and those of the others that no later set replaces and that are not marked. -/
theorem foldl_onto_eq_some (hshort : ∀ artifacts ∈ sets, artifacts.Short output) :
    sets.foldl (onto output names) none = some contents
      ↔ ∃ earlier artifacts later, sets = earlier ++ artifacts :: later
        ∧ artifacts.text? names = some contents ∧ (∀ other ∈ later, other.text? names = none)
        ∧ (later = [] ∨ contents.isMarked = false) := by
  induction sets using List.reverseRecOn generalizing contents with
  | nil => exact iff_of_false nofun fun ⟨_, _, _, h, _⟩ => absurd h (by simp)
  | append_singleton sets last ih =>
      obtain ⟨hshort, -⟩ := List.forall_mem_append.mp hshort
      rw [List.foldl_append, List.foldl_cons, List.foldl_nil, onto, Option.or_eq_some_iff,
        left_eq_some, ih hshort]
      constructor
      · rintro (htext | ⟨hnone, ⟨earlier, artifacts, later, rfl, htext, hlater, -⟩, hkept⟩)
        · exact ⟨sets, last, [], rfl, htext, List.forall_mem_nil _, .inl rfl⟩
        · have hpath : (listedPath output names).utf8ByteSize ≤ Store.pathLimit :=
            hshort artifacts (by simp) names contents htext
          refine ⟨earlier, artifacts, later ++ [last], by simp, htext,
            List.forall_mem_append.mpr ⟨hlater, List.forall_mem_singleton.mpr hnone⟩, .inr ?_⟩
          exact Bool.eq_false_iff.mpr fun hmarked => hkept ⟨hmarked, hpath⟩
      · rintro ⟨earlier, artifacts, later, hsets, htext, hlater, hend⟩
        cases later using List.reverseRecOn with
        | nil =>
            obtain rfl := List.singleton_inj.mp (List.append_inj_right' hsets rfl)
            exact .inl htext
        | append_singleton later final =>
            rw [← List.cons_append, ← List.append_assoc] at hsets
            obtain ⟨rfl, hlast⟩ := List.append_inj' hsets rfl
            obtain rfl := List.singleton_inj.mp hlast
            obtain ⟨hlater, hnone⟩ := List.forall_mem_append.mp hlater
            have hunmarked := hend.resolve_left (by simp)
            refine .inr ⟨hnone _ List.mem_cons_self, ⟨earlier, artifacts, later, rfl, htext, hlater,
              .inr hunmarked⟩, fun hmarked => ?_⟩
            exact Bool.eq_false_iff.mp hunmarked hmarked.1

end Artifacts

/-! ## Sequences of runs -/

namespace Run

/-- A run that writes spelled files into a directory, if any, and formats none. -/
structure Into (output : String) (run : Run) : Prop where
  output : run.publication.output = output
  unformatted : run.publication.formatter = .ok []
  spelled : ∀ artifacts, run.rendered? = some artifacts →
    ∃ files, artifacts = Artifacts.ofFiles files ∧ Spelled files

variable [Programs (StateM Store)]

/-- A run whose tree is not rendered leaves the store as it is. -/
theorem perform_of_not_rendered (h : run.rendered? = none) : (run.perform store).2 = store := by
  unfold rendered? at h
  cases hrender : run.publication.target.render run.tree run.publication.options with
  | error e => exact congrArg Prod.snd (Publication.run_of_render_error hrender)
  | ok artifacts =>
      rw [hrender] at h
      exact nomatch h

/-- **ONE RUN** that writes its set does so over what was there. -/
theorem Into.step (h : run.Into output) (hstore : store.Unshared base)
    (hbase : store.locate output = .ok base) (hrendered : run.rendered? = some artifacts)
    (hresult : (run.perform store).1.isOk = true) :
    (run.perform store).2.Unshared base ∧ (run.perform store).2.locate output = .ok base
      ∧ artifacts.Short output ∧ ∀ names, (run.perform store).2.file? (base ++ names)
        = Artifacts.onto output names (store.file? (base ++ names)) artifacts := by
  have hrun : ∃ changes, run.perform store = (.ok changes, (run.perform store).2) := by
    cases hfst : (run.perform store).1 with
    | ok changes => exact ⟨changes, Prod.ext hfst rfl⟩
    | error e => rw [hfst] at hresult; exact nomatch hresult
  obtain ⟨changes, hrun⟩ := hrun
  obtain ⟨files, hrender, hwrite⟩ := (Publication.run_eq_ok h.unformatted).mp hrun
  obtain rfl : files = artifacts := by
    rw [rendered?, hrender] at hrendered
    exact Option.some.inj hrendered
  obtain ⟨files, rfl, hspelled⟩ := h.spelled _ hrendered
  rw [h.output] at hwrite
  obtain ⟨reached, hleaves⟩ := hspelled.leaves (hstore.sharesNone hbase) hwrite
  obtain rfl : base = reached :=
    Except.ok.inj ((hleaves.keeps.locate hbase).symm.trans hleaves.located)
  refine ⟨hleaves.unshared, hleaves.located, fun names contents htext => ?_, hleaves.inside⟩
  obtain ⟨file, hfile, rfl, -⟩ := hspelled.text?_eq_some.mp htext
  rw [listedPath, ← (hspelled.spells hfile).text]
  exact hleaves.short file hfile

end Run

section Sequences

variable [Programs (StateM Store)]

/-- **A SEQUENCE OF RUNS** that write what they render leaves one set written over another. -/
theorem file?_after (hruns : ∀ run ∈ runs, run.Into output) (hstore : store.Unshared base)
    (hbase : store.locate output = .ok base) (hwritten : store.Unhindered runs) :
    (store.after runs).locate output = .ok base
      ∧ (∀ artifacts ∈ runs.filterMap Run.rendered?, artifacts.Short output)
      ∧ ∀ names, (store.after runs).file? (base ++ names)
        = (runs.filterMap Run.rendered?).foldl (Artifacts.onto output names)
          (store.file? (base ++ names)) := by
  induction runs generalizing store with
  | nil => exact ⟨hbase, List.forall_mem_nil _, fun _ => rfl⟩
  | cons run runs ih =>
      obtain ⟨hrun, hruns⟩ := List.forall_mem_cons.mp hruns
      obtain ⟨hresult, hwritten⟩ := hwritten
      cases hrendered : run.rendered? with
      | none =>
          have hsame : (run.perform store).2 = store := Run.perform_of_not_rendered hrendered
          rw [hsame] at hwritten
          rw [Store.after_cons hsame, List.filterMap_cons_none hrendered]
          exact ih hruns hstore hbase hwritten
      | some artifacts =>
          obtain ⟨hnext, hlocated, hshort, hfiles⟩ :=
            hrun.step hstore hbase hrendered (hresult (hrendered ▸ rfl))
          obtain ⟨hlocated, hshorts, hrest⟩ := ih hruns hnext hlocated hwritten
          rw [List.filterMap_cons_some hrendered]
          refine ⟨hlocated, List.forall_mem_cons.mpr ⟨hshort, hshorts⟩, fun names => ?_⟩
          rw [List.foldl_cons, ← hfiles]
          exact hrest names

/-- **FROM AN EMPTY DIRECTORY** a file is there in the end when a run put it there, no later one put
    another in its place, and it is not marked or no set was written later. -/
theorem file?_after_eq_some (hruns : ∀ run ∈ runs, run.Into output) (hstore : store.Consistent)
    (hbase : store.locate output = .ok base) (hempty : ∀ names, store.file? (base ++ names) = none)
    (hwritten : store.Unhindered runs) :
    (store.after runs).file? (base ++ names) = some contents
      ↔ ∃ earlier artifacts later, runs.filterMap Run.rendered? = earlier ++ artifacts :: later
        ∧ artifacts.text? names = some contents ∧ (∀ other ∈ later, other.text? names = none)
        ∧ (later = [] ∨ contents.isMarked = false) := by
  obtain ⟨-, hshort, hfiles⟩ := file?_after hruns (hstore.unshared hempty) hbase hwritten
  rw [hfiles, hempty, Artifacts.foldl_onto_eq_some hshort]

/-! ## The crate and the package -/

/-- **WHATEVER CAME BEFORE**: from an empty directory, after a sequence of runs for the crate or the
    package that format nothing and none of which fails to write what it renders, the directory
    holds exactly the files of the last tree that was rendered, and none if there is no such tree. -/
theorem files_after (hruns : ∀ run ∈ runs, run.publication.target ≠ .interchange
      ∧ run.publication.output = output ∧ run.publication.formatter = .ok [])
    (hstore : store.Consistent) (hbase : store.locate output = .ok base)
    (hempty : ∀ names, store.file? (base ++ names) = none) (hwritten : store.Unhindered runs) :
    (store.after runs).locate output = .ok base
      ∧ ∀ names contents, (store.after runs).file? (base ++ names) = some contents
        ↔ ∃ artifacts, (runs.filterMap Run.rendered?).getLast? = some artifacts
          ∧ ∃ file ∈ artifacts.files, file.names = names ∧ contents = .text file.contents := by
  -- whatever a run renders is spelled and marked
  have hrendered : ∀ run ∈ runs, ∀ artifacts, run.rendered? = some artifacts →
      ∃ files, artifacts = Artifacts.ofFiles files ∧ Spelled files ∧ Artifacts.Marked files :=
    fun run hrun artifacts hrendered =>
      Target.render_marked (hruns run hrun).1 (toOption_eq_some.mp hrendered)
  have hinto : ∀ run ∈ runs, run.Into output := fun run hrun =>
    ⟨(hruns run hrun).2.1, (hruns run hrun).2.2, fun artifacts h =>
      (hrendered run hrun artifacts h).imp fun _ hfiles => ⟨hfiles.1, hfiles.2.1⟩⟩
  have hsets : ∀ artifacts ∈ runs.filterMap Run.rendered?, ∃ files,
      artifacts = Artifacts.ofFiles files ∧ Spelled files ∧ Artifacts.Marked files := by
    intro artifacts hmem
    obtain ⟨run, hrun, h⟩ := List.mem_filterMap.mp hmem
    exact hrendered run hrun artifacts h
  refine ⟨(file?_after hinto (hstore.unshared hempty) hbase hwritten).1, fun names contents => ?_⟩
  rw [file?_after_eq_some hinto hstore hbase hempty hwritten]
  constructor
  · rintro ⟨earlier, artifacts, later, hlist, htext, -, hend⟩
    obtain ⟨files, rfl, hspelled, hmarked⟩ := hsets artifacts (hlist ▸ by simp)
    obtain ⟨file, hfile, hnames, rfl⟩ := hspelled.text?_eq_some.mp htext
    -- a marked file is there only if no set was written later
    have hcontents : isGenerated file.contents = true := (@Artifacts.forall_mem_ofFiles files
      (fun _ => True) (isGenerated · = true) (fun file hfile => ⟨trivial, hmarked file hfile⟩)
      file hfile).2
    obtain rfl := hend.resolve_right ((Bool.not_eq_false _).mpr hcontents)
    exact ⟨_, hlist ▸ List.getLast?_concat, file, hfile, hnames, rfl⟩
  · rintro ⟨artifacts, hlast, file, hfile, hnames, hcontents⟩
    obtain ⟨earlier, hlist⟩ := List.getLast?_eq_some_iff.mp hlast
    obtain ⟨files, rfl, hspelled, -⟩ := hsets artifacts (hlist ▸ by simp)
    exact ⟨earlier, _, [], hlist, hspelled.text?_eq_some.mpr ⟨file, hfile, hnames, hcontents⟩,
      List.forall_mem_nil _, .inl rfl⟩

end Sequences

/-- A directory without files, beside one with notes. -/
def freshDesk : Store where
  entries := ⟨[(["work"], .folder), (["work", "notes.md"], .file (.text "by hand")),
    (["work", "out"], .folder)], by decide +kernel⟩
  workingFolder := ["work"]

/-- There is no file in it. -/
theorem file?_freshDesk (names : List String) : freshDesk.file? (["work", "out"] ++ names) = none := by
  refine Option.eq_none_iff_forall_ne_some.mpr fun contents hfile => ?_
  have hlisted := (Store.mem_filesIn (by decide +kernel)).mpr ⟨contents, hfile⟩
  rw [show freshDesk.filesIn ["work", "out"] = [] by decide +kernel] at hlisted
  exact List.not_mem_nil hlisted

/-- A program without any parts. -/
def shop : Tree := ⟨[⟨"shop", "S", "", [], [], [], [], []⟩], []⟩

/-- No program at all, a program with a setting that is not known, and the program. -/
def shopHistory : List Run := [
  ⟨⟨.crate, "out", ⟨false, SortedMap.empty⟩⟩, ⟨[], []⟩⟩,
  ⟨⟨.crate, "out", ⟨false, SortedMap.empty.insert "colour" (.of .null)⟩⟩, shop⟩,
  ⟨⟨.crate, "out", ⟨false, SortedMap.empty⟩⟩, shop⟩]

attribute [local instance] Publication.bare

theorem files_after_shop : ∃ first last,
    shopHistory.map Run.rendered? = [some first, none, some last]
      ∧ first.text? ["programs.rs"] = none ∧ (last.text? ["programs.rs"]).isSome = true
      ∧ ∀ names contents, (freshDesk.after shopHistory).file? (["work", "out"] ++ names)
        = some contents
          ↔ ∃ file ∈ last.files, file.names = names ∧ contents = .text file.contents := by
  obtain ⟨first, hfirst, hnone⟩ := (Option.any_eq_true _ _).mp
    (show shopHistory[0].rendered?.any (fun first => (first.text? ["programs.rs"]).isNone) = true
      by decide +kernel)
  obtain ⟨last, hlast, hsome⟩ := (Option.any_eq_true _ _).mp
    (show shopHistory[2].rendered?.any (fun last => (last.text? ["programs.rs"]).isSome) = true
      by decide +kernel)
  have hfailed : shopHistory[1].rendered? = none := Option.isNone_iff_eq_none.mp (by decide +kernel)
  have hlists : shopHistory.map Run.rendered? = [some first, none, some last] := by
    rw [← hfirst, ← hlast, ← hfailed]
    rfl
  have hwritten : freshDesk.Unhindered shopHistory := by
    refine ⟨by decide +kernel, fun hrendered => ?_, ?_⟩
    · exact absurd hrendered (by decide +kernel)
    · show ((shopHistory[1].perform (shopHistory[0].perform freshDesk).2).2).Unhindered
        [shopHistory[2]]
      rw [Run.perform_of_not_rendered hfailed]
      decide +kernel
  obtain ⟨-, hfiles⟩ := @files_after "out" _ _ shopHistory _ (by decide +kernel)
    (by decide +kernel) (by decide +kernel) file?_freshDesk hwritten
  refine ⟨first, last, hlists, Option.isNone_iff_eq_none.mp hnone, hsome, fun names contents => ?_⟩
  have hlast : (shopHistory.filterMap Run.rendered?).getLast? = some last := by
    rw [show shopHistory.filterMap Run.rendered? = (shopHistory.map Run.rendered?).filterMap id from
      List.filterMap_map.symm, hlists]
    rfl
  rw [hfiles, hlast]
  exact ⟨fun ⟨_, hsome, hfile⟩ => Option.some.inj hsome ▸ hfile, fun hfile => ⟨_, rfl, hfile⟩⟩

end Bindery
