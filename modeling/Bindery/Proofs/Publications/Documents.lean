import Bindery.Proofs.Publications.History

/-! # Documents that remain — what a directory holds after runs of the document target

    The document of a tree is named for the primary program and has no header.  So
    one that was written under another name is taken for a file written by hand and
    stays, unless its first lines happen to have the words of the header
    (`documents_after`): behind a rename of the primary program there are two
    documents (`exists_two_documents`). -/

namespace Bindery

open Artifacts (Spelled)

variable {output : String} {base : Location} {store : Store} {run : Run} {runs : List Run}
  {artifacts : Artifacts} {documents : List (String × String)}

namespace Interchange

/-- Whether a document, by its path and text, is still there when documents have been written in
    turn: no later one has its path, and it is the last or it is not marked. -/
def Remains (documents : List (String × String)) (document : String × String) : Prop :=
  ∃ earlier later, documents = earlier ++ document :: later
    ∧ (∀ other ∈ later, other.1 ≠ document.1) ∧ (later = [] ∨ isGenerated document.2 = false)

/-- The last document remains. -/
theorem remains_last {document : String × String} (h : documents.getLast? = some document) :
    Remains documents document := by
  obtain ⟨earlier, rfl⟩ := List.getLast?_eq_some_iff.mp h
  exact ⟨earlier, [], rfl, List.forall_mem_nil _, .inl rfl⟩

/-- **ONLY THE LAST** document remains exactly when every other one has the path of a later one or is
    marked. -/
theorem remains_last_iff :
    (∀ document, Remains documents document ↔ documents.getLast? = some document)
      ↔ ∀ earlier document later, documents = earlier ++ document :: later → later ≠ [] →
        (∃ other ∈ later, other.1 = document.1) ∨ isGenerated document.2 = true := by
  constructor
  · intro honly earlier document later hlist hlater
    by_contra hkept
    obtain ⟨hpath, hunmarked⟩ := not_or.mp hkept
    have hremains : Remains documents document := ⟨earlier, later, hlist,
      fun other hother heq => hpath ⟨other, hother, heq⟩, .inr (Bool.eq_false_iff.mpr hunmarked)⟩
    -- then it would be the last one, which is among the later ones
    have hlast := (honly document).mp hremains
    rw [hlist, List.getLast?_append_cons, List.getLast?_cons_of_ne_nil hlater] at hlast
    exact hpath ⟨document, List.mem_of_getLast? hlast, rfl⟩
  · refine fun hother document => ⟨?_, remains_last⟩
    rintro ⟨earlier, later, rfl, hpath, hend⟩
    by_cases hlater : later = []
    · subst hlater
      exact List.getLast?_concat
    · rcases hother earlier document later rfl hlater with ⟨other, hmem, heq⟩ | hmarked
      · exact absurd heq (hpath other hmem)
      · exact absurd hmarked (Bool.eq_false_iff.mp (hend.resolve_left hlater))

end Interchange

/-! ## Runs of the document target -/

namespace Run

/-- A run that writes the document of a reachable tree with programs into a directory. -/
structure Documents (output : String) (run : Run) : Prop where
  target : run.publication.target = .interchange
  output : run.publication.output = output
  reachable : run.tree.Reachable
  nonempty : run.tree.programs ≠ []

/-- Such a run writes spelled files and formats none. -/
theorem Documents.into (h : run.Documents output) : run.Into output where
  output := h.output
  unformatted := by
    unfold Publication.formatter
    rw [h.target]
  spelled artifacts hrendered := Target.render_spelled h.reachable (toOption_eq_some.mp hrendered)

/-- A document, by its path and text, that a run renders; it is named for the primary program. -/
def Writes (run : Run) (document : String × String) : Prop :=
  run.rendered? = some (Artifacts.ofFiles [document])
    ∧ run.tree.primary?.map Program.documentName = some document.1

/-- What such a run renders is one document. -/
theorem Documents.exists_document (h : run.Documents output)
    (hrendered : run.rendered?.isSome = true) :
    ∃ document, run.Writes document ∧ FilePath.Ordinary document.1 := by
  obtain ⟨artifacts, hsome⟩ := Option.isSome_iff_exists.mp hrendered
  have hrender := toOption_eq_some.mp hsome
  rw [h.target] at hrender
  rcases Interchange.render_eq_ok hrender with ⟨hnone, -⟩ | ⟨primary, text, hprimary, rfl⟩
  · exact absurd (List.head?_eq_none_iff.mp hnone) h.nonempty
  · have hmem := List.mem_of_mem_head? (Option.mem_def.mpr hprimary)
    refine ⟨(primary.documentName, text), ⟨hsome, ?_⟩,
      h.reachable.wellFormed.documentName_ordinary hmem⟩
    rw [hprimary]
    rfl

end Run

/-- A set of one document has its text under its path and nothing else. -/
theorem Artifacts.text?_document {document : String × String}
    (hpath : FilePath.Ordinary document.1) {names : List String} {contents : Contents} :
    (ofFiles [document]).text? names = some contents
      ↔ names = [document.1] ∧ contents = .text document.2 := by
  have hspells := hpath.spells
  have hspelled : Spelled [document] := List.forall_mem_singleton.mpr ⟨_, hspells⟩
  have hfiles : (ofFiles [document]).files = [⟨document.1, document.2⟩] := rfl
  rw [hspelled.text?_eq_some, hfiles]
  constructor
  · rintro ⟨file, hfile, rfl, rfl⟩
    obtain rfl := List.mem_singleton.mp hfile
    exact ⟨hspells.names_path, rfl⟩
  · rintro ⟨rfl, rfl⟩
    exact ⟨_, List.mem_singleton_self _, hspells.names_path, rfl⟩

/-- What remains of sets of one document each are the documents that remain. -/
theorem Interchange.exists_set_iff (hordinary : ∀ document ∈ documents, FilePath.Ordinary document.1)
    {names : List String} {contents : Contents} :
    (∃ earlier artifacts later,
        documents.map (fun document => Artifacts.ofFiles [document]) = earlier ++ artifacts :: later
          ∧ artifacts.text? names = some contents ∧ (∀ other ∈ later, other.text? names = none)
          ∧ (later = [] ∨ contents.isMarked = false))
      ↔ ∃ document, Remains documents document ∧ names = [document.1]
        ∧ contents = .text document.2 := by
  constructor
  · rintro ⟨earlier, artifacts, later, hlist, htext, hnone, hend⟩
    obtain ⟨earlier, rest, rfl, rfl, hrest⟩ := List.map_eq_append_iff.mp hlist
    obtain ⟨document, later, rfl, rfl, rfl⟩ := List.map_eq_cons_iff.mp hrest
    obtain ⟨rfl, rfl⟩ := (Artifacts.text?_document (hordinary document (by simp))).mp htext
    refine ⟨document, ⟨earlier, later, rfl, fun other hother heq => ?_,
      hend.imp_left List.map_eq_nil_iff.mp⟩, rfl, rfl⟩
    have hfound := (Artifacts.text?_document (hordinary other (by simp [hother]))).mpr
      ⟨congrArg (fun path => [path]) heq.symm, rfl⟩
    exact absurd (hnone _ (List.mem_map_of_mem hother)) (hfound ▸ nofun)
  · rintro ⟨document, ⟨earlier, later, rfl, hpath, hend⟩, rfl, rfl⟩
    refine ⟨_, Artifacts.ofFiles [document], _, List.map_append,
      (Artifacts.text?_document (hordinary document (by simp))).mpr ⟨rfl, rfl⟩,
      List.forall_mem_map.mpr fun other hother => ?_, hend.imp_left (congrArg _)⟩
    refine Option.eq_none_iff_forall_ne_some.mpr fun contents hfound => ?_
    obtain ⟨hnames, -⟩ := (Artifacts.text?_document (hordinary other (by simp [hother]))).mp hfound
    exact hpath other hother (List.singleton_inj.mp hnames).symm

section Sequences

variable [Programs (StateM Store)]

/-- Runs of a sequence that all succeed render what they write. -/
theorem Store.Along.rendered (h : store.Along (fun _ result => result.isOk = true) runs) :
    store.Unhindered runs ∧ ∀ run ∈ runs, run.rendered?.isSome = true := by
  induction runs generalizing store with
  | nil => exact ⟨trivial, List.forall_mem_nil _⟩
  | cons run runs ih =>
      obtain ⟨hfirst, hrest⟩ := h
      obtain ⟨hwritten, hrendered⟩ := ih hrest
      refine ⟨⟨fun _ => hfirst, hwritten⟩, List.forall_mem_cons.mpr ⟨?_, hrendered⟩⟩
      unfold Run.rendered?
      cases hrender : run.publication.target.render run.tree run.publication.options with
      | ok artifacts => rfl
      | error e =>
          rw [Run.perform, Publication.run_of_render_error hrender] at hfirst
          exact nomatch hfirst

/-- **DOCUMENTS THAT REMAIN**: from an empty directory, after a sequence of runs that each write the
    document of a reachable tree with programs, the directory holds the last document, and of the
    others those whose path no later one has and whose first lines do not have the words of the
    header.  So it holds exactly the last document when there are no such others. -/
theorem documents_after (hruns : ∀ run ∈ runs, run.Documents output) (hstore : store.Consistent)
    (hbase : store.locate output = .ok base) (hempty : ∀ names, store.file? (base ++ names) = none)
    (hsucceed : store.Along (fun _ result => result.isOk = true) runs) :
    ∃ documents, List.Forall₂ Run.Writes runs documents
      ∧ (∀ names contents, (store.after runs).file? (base ++ names) = some contents
        ↔ ∃ document, Interchange.Remains documents document ∧ names = [document.1]
          ∧ contents = .text document.2)
      ∧ ((∀ names contents, (store.after runs).file? (base ++ names) = some contents
          ↔ ∃ document, documents.getLast? = some document ∧ names = [document.1]
            ∧ contents = .text document.2)
        ↔ ∀ earlier document later, documents = earlier ++ document :: later → later ≠ [] →
          (∃ other ∈ later, other.1 = document.1) ∨ isGenerated document.2 = true) := by
  obtain ⟨hwritten, hrendered⟩ := hsucceed.rendered
  obtain ⟨documents, hdocuments⟩ := exists_forall₂ fun run hrun =>
    (hruns run hrun).exists_document (hrendered run hrun)
  have hwrites : List.Forall₂ Run.Writes runs documents :=
    hdocuments.imp fun _ _ h => h.1
  have hordinary : ∀ document ∈ documents, FilePath.Ordinary document.1 := fun document hmem => by
    obtain ⟨run, -, -, h⟩ := exists_of_forall₂_right hdocuments hmem
    exact h
  have hsets : runs.filterMap Run.rendered? = documents.map fun d => Artifacts.ofFiles [d] := by
    clear hdocuments hordinary hwritten hrendered hsucceed hruns
    induction hwrites with
    | nil => rfl
    | cons hfirst _ ih =>
        rw [List.filterMap_cons_some hfirst.1, List.map_cons, ih]
  have hfiles : ∀ names contents, (store.after runs).file? (base ++ names) = some contents
      ↔ ∃ document, Interchange.Remains documents document ∧ names = [document.1]
        ∧ contents = .text document.2 := by
    intro names contents
    rw [file?_after_eq_some (fun run hrun => (hruns run hrun).into) hstore hbase hempty hwritten,
      hsets, Interchange.exists_set_iff hordinary]
  refine ⟨documents, hwrites, hfiles, ?_⟩
  rw [← Interchange.remains_last_iff]
  constructor
  · intro hexact document
    refine ⟨fun hremains => ?_, Interchange.remains_last⟩
    obtain ⟨last, hlast, hpath, htext⟩ :=
      (hexact _ _).mp ((hfiles _ _).mpr ⟨document, hremains, rfl, rfl⟩)
    rwa [Prod.ext (List.singleton_inj.mp hpath) (Contents.text.inj htext)]
  · intro honly names contents
    rw [hfiles]
    exact exists_congr fun document => and_congr_left fun _ => honly document

end Sequences

/-! ## A document that is left behind -/

attribute [local instance] Publication.bare

/-- An interface without any parts. -/
def till : Document where
  label := "till"
  text := "\x7b\"name\":\"till\",\"address\":\"T\",\"instructions\":[]\x7d"

/-- The tree of that interface under a name. -/
def tillTree (name : String) : Tree := ⟨[⟨name, "T", "", [], [], [], [], []⟩], []⟩

/-- The interface loads. -/
theorem load_till : Tree.load [till] = .ok (tillTree "till") := by
  refine load_singleton ?_
  rw [documentProgram_eq rfl]
  decide +kernel

/-- Give the program another name. -/
def renameTill : Operation := .rename ⟨SortedMap.empty.insert (.program "till") "safe"⟩

theorem apply_renameTill : renameTill.apply (Index.of (tillTree "till")) = .ok (tillTree "safe") := by
  decide

/-- A run for the document of the tree. -/
def tillRun (name : String) : Run := ⟨⟨.interchange, "out", ⟨false, SortedMap.empty⟩⟩, tillTree name⟩

/-- The document of the interface. -/
def tillText : String :=
  "\x7b\"kind\":\"rootNode\",\"standard\":\"codama\",\"version\":\"1.0.0\",\"program\":\x7b\"kind\":"
    ++ "\"programNode\",\"name\":\"till\",\"publicKey\":\"T\",\"version\":\"\",\"accounts\":[],"
    ++ "\"instructions\":[],\"definedTypes\":[],\"pdas\":[],\"errors\":[]\x7d,"
    ++ "\"additionalPrograms\":[]\x7d\n"

/-- The directory with that document. -/
def tillDesk : Store := freshDesk.put ["work", "out", "till.json"] (.file (.text tillText))

/-- The words of the header do not occur in the document. -/
theorem isGenerated_tillText : isGenerated tillText = false := by
  have hpart : ∀ {part : String} {chars : List Char}, part = String.ofList chars → 'G' ∉ chars →
      'G' ∉ part.toList := fun heq h => by rwa [heq, String.toList_ofList]
  have happend : ∀ {front back : String}, 'G' ∉ front.toList → 'G' ∉ back.toList →
      'G' ∉ (front ++ back).toList := fun hfront hback => by
    rw [String.toList_append, List.mem_append]
    exact not_or.mpr ⟨hfront, hback⟩
  refine isGenerated_eq_false (c := 'G') (by decide) ?_
  exact happend (happend (happend (hpart rfl (by decide)) (hpart rfl (by decide)))
    (hpart rfl (by decide))) (hpart rfl (by decide))

/-- The first run writes the document. -/
theorem perform_till : (tillRun "till").perform freshDesk = (.ok ⟨["till.json"], [], []⟩, tillDesk) :=
  Prod.ext (by decide +kernel) (by decide +kernel)

/-- What is there then is not marked. -/
theorem isMarked_tillDesk {names : List String} {contents : Contents}
    (h : tillDesk.file? (["work", "out"] ++ names) = some contents) : contents.isMarked = false := by
  have hlisted := (Store.mem_filesIn (by decide)).mpr ⟨contents, h⟩
  rw [show tillDesk.filesIn ["work", "out"] = [["till.json"]] by decide] at hlisted
  obtain rfl := List.mem_singleton.mp hlisted
  obtain rfl : Contents.text tillText = contents := Option.some.inj h
  exact isGenerated_tillText

/-- The run behind the rename succeeds there and leaves both documents. -/
theorem perform_safe : ∃ changes next, (tillRun "safe").perform tillDesk = (.ok changes, next)
    ∧ (next.file? ["work", "out", "till.json"]).isSome = true
    ∧ (next.file? ["work", "out", "safe.json"]).isSome = true := by
  obtain ⟨artifacts, hrender, htest⟩ := exists_ok_of_any
    (show (Interchange.render (tillTree "safe") ⟨false, SortedMap.empty⟩).toOption.any
        (fun artifacts => decide (artifacts.checkInner = .ok ()
          ∧ (tillDesk.perform (Artifacts.writeFiles "out" artifacts.files)).1.isOk = true
          ∧ artifacts.text? ["till.json"] = none
          ∧ (artifacts.text? ["safe.json"]).isSome = true)) = true by decide +kernel)
  obtain ⟨hinner, hresult, hnone, hsome⟩ := of_decide_eq_true htest
  obtain ⟨files, rfl, hspelled⟩ := @Target.render_spelled _ _ _ .interchange
    (.step (.load load_till) apply_renameTill) hrender
  have hstore : tillDesk.WellFormed := by decide
  have hbase : tillDesk.locate "out" = .ok ["work", "out"] := by decide
  cases hfilled : tillDesk.perform (Artifacts.writeFiles "out" (Artifacts.ofFiles files).files) with
  | mk result next =>
      rw [hfilled] at hresult
      cases result with
      | error e => exact nomatch hresult
      | ok lists =>
          have hwrite := hspelled.perform_write_of_unmarked hinner (hstore.unshared _) hbase
            (by decide) (fun _ _ => isMarked_tillDesk) hfilled
          refine ⟨_, next, (@Publication.run_eq_ok (tillRun "safe").publication
            (tillRun "safe").tree _ _ _ _ rfl).mpr ⟨_, hrender, hwrite⟩, ?_⟩
          obtain ⟨base, hleaves⟩ := hspelled.leaves (hstore.sharesNone "out") hwrite
          obtain rfl := Except.ok.inj ((hleaves.keeps.locate hbase).symm.trans hleaves.located)
          constructor
          · show (next.file? (["work", "out"] ++ ["till.json"])).isSome = true
            rw [hleaves.inside, hnone, Option.none_or]
            exact Option.isSome_iff_exists.mpr ⟨.text tillText, Artifacts.left_eq_some.mpr
              ⟨rfl, fun hmarked => Bool.eq_false_iff.mp isGenerated_tillText hmarked.1⟩⟩
          · show (next.file? (["work", "out"] ++ ["safe.json"])).isSome = true
            obtain ⟨contents, hcontents⟩ := Option.isSome_iff_exists.mp hsome
            rw [hleaves.inside, hcontents]
            rfl

/-- The program before and after the rename. -/
def tillHistory : List Run := [tillRun "till", tillRun "safe"]

/-- The runs are over reachable trees with a program. -/
theorem documents_tillHistory : ∀ run ∈ tillHistory, run.Documents "out" := by
  refine List.forall_mem_cons.mpr ⟨⟨rfl, rfl, .load load_till, List.cons_ne_nil _ _⟩, ?_⟩
  exact List.forall_mem_singleton.mpr
    ⟨rfl, rfl, .step (.load load_till) apply_renameTill, List.cons_ne_nil _ _⟩

/-- Both runs succeed. -/
theorem along_tillHistory :
    freshDesk.Along (fun _ result => result.isOk = true) tillHistory := by
  obtain ⟨changes, next, hsafe, -⟩ := perform_safe
  refine ⟨by rw [perform_till]; rfl, ?_, trivial⟩
  rw [perform_till, hsafe]
  rfl

theorem documents_after_till : ∃ documents, List.Forall₂ Run.Writes tillHistory documents
    ∧ ∀ names contents, (freshDesk.after tillHistory).file? (["work", "out"] ++ names)
      = some contents ↔ ∃ document, Interchange.Remains documents document ∧ names = [document.1]
        ∧ contents = .text document.2 := by
  obtain ⟨documents, hwrites, hfiles, -⟩ := documents_after documents_tillHistory
    (by decide) (by decide) file?_freshDesk along_tillHistory
  exact ⟨documents, hwrites, hfiles⟩

/-- **LEFT BEHIND**: from an empty directory, both runs succeed, and then the directory does not
    hold one file alone. -/
theorem exists_two_documents :
    Tree.load [till] = .ok (tillTree "till")
      ∧ renameTill.apply (Index.of (tillTree "till")) = .ok (tillTree "safe")
      ∧ (∀ names, freshDesk.file? (["work", "out"] ++ names) = none)
      ∧ freshDesk.Along (fun _ result => result.isOk = true) tillHistory
      ∧ ¬ ∃ path, ∀ names, ((freshDesk.after tillHistory).file? (["work", "out"] ++ names)).isSome
        = true → names = [path] := by
  refine ⟨load_till, apply_renameTill, file?_freshDesk, along_tillHistory, ?_⟩
  rintro ⟨path, hone⟩
  obtain ⟨changes, next, hsafe, hfirst, hsecond⟩ := perform_safe
  have hafter : freshDesk.after tillHistory = next :=
    (Store.after_cons (congrArg Prod.snd perform_till)).trans
      (Store.after_cons (congrArg Prod.snd hsafe))
  rw [hafter] at hone
  have hpaths : ["till.json"] = ["safe.json"] :=
    (hone ["till.json"] hfirst).trans (hone ["safe.json"] hsecond).symm
  exact absurd hpaths (by decide)

end Bindery
