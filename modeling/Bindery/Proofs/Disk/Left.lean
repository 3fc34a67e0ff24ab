import Bindery.Proofs.Disk.Sync

/-! # What a run leaves — the files of a directory after the work on it

    Where the paths of a set are spelled by names, what a run leaves in a
    directory is told name by name: the text that the set has there, or else what
    was there before, unless that was marked as generated (`Leaves.inside`). -/

namespace Bindery

/-- Whether a file is marked as generated; bytes that are no text are not. -/
def Contents.isMarked : Contents → Bool
  | .text chars => isGenerated chars
  | .binary _ => false

namespace Artifacts

variable {files : List (String × String)} {output : String} {base : Location}
  {store next : Store} {names : List String} {contents : Contents}

/-- Files whose paths are spelled by names. -/
def Spelled (files : List (String × String)) : Prop :=
  ∀ file ∈ files, ∃ names, FilePath.Spells file.1 names

/-- What a set holds under some names. -/
def text? (artifacts : Artifacts) (names : List String) : Option Contents :=
  (artifacts.get? (names.map .name)).map fun file => .text file.contents

/-- What is left of a file that is none of a set: a marked one is removed, unless its path is too
    long to read it. -/
def left (output : String) (names : List String) (found : Option Contents) : Option Contents :=
  found.filter fun contents =>
    !(contents.isMarked && decide ((listedPath output names).utf8ByteSize ≤ Store.pathLimit))

/-- A file is left exactly when it is not a marked one that can be read. -/
theorem left_eq_some {found : Option Contents} : left output names found = some contents
    ↔ found = some contents ∧ ¬ (contents.isMarked = true
      ∧ (listedPath output names).utf8ByteSize ≤ Store.pathLimit) := by
  rw [left, Option.filter_eq_some_iff, Bool.not_eq_true', ← Bool.not_eq_true, Bool.and_eq_true,
    decide_eq_true_iff]

/-! ## Sets of spelled files -/

/-- What all paths and texts of a list have, those of its set have. -/
theorem forall_mem_ofFiles {P Q : String → Prop} (h : ∀ file ∈ files, P file.1 ∧ Q file.2) :
    ∀ file ∈ (ofFiles files).files, P file.path ∧ Q file.contents := by
  have hfold : ∀ {files : List (String × String)} {artifacts : Artifacts},
      (∀ file ∈ files, P file.1 ∧ Q file.2) →
      (∀ e ∈ artifacts.entries, P e.2.path ∧ Q e.2.contents) →
      ∀ e ∈ (files.foldl (fun done file => done.put file.1 file.2) artifacts).entries,
        P e.2.path ∧ Q e.2.contents := by
    intro files
    induction files with
    | nil => exact fun _ h => h
    | cons file files ih =>
        intro artifacts hfiles hentries
        obtain ⟨hfile, hfiles⟩ := List.forall_mem_cons.mp hfiles
        refine ih hfiles fun e he => ?_
        rcases SortedMap.mem_insertEntry he with rfl | he
        · refine ⟨?_, hfile.2⟩
          dsimp only
          -- a file that was there already keeps its path
          split
          · rename_i earlier hearlier
            exact (hentries _ (SortedMap.get?_eq_some_iff.mp hearlier)).1
          · exact hfile.1
        · exact hentries e he
  intro file hfile
  obtain ⟨e, he, rfl⟩ := List.mem_map.mp hfile
  exact @hfold files SortedMap.empty h (fun _ hnone => absurd hnone List.not_mem_nil) e he

/-- The files of a spelled set have the names that spell their paths. -/
theorem Spelled.spells (h : Spelled files) {file : Artifact} (hfile : file ∈ (ofFiles files).files) :
    FilePath.Spells file.path file.names := by
  obtain ⟨⟨names, hspells⟩, -⟩ := @forall_mem_ofFiles files
    (fun path => ∃ names, FilePath.Spells path names) (fun _ => True)
    (fun file hfile => ⟨h file hfile, trivial⟩) file hfile
  rw [Artifact.names, hspells.names_path]
  exact hspells

/-- A set has a text under some names when one of its files has these names. -/
theorem Spelled.text?_eq_some (h : Spelled files) : (ofFiles files).text? names = some contents
    ↔ ∃ file ∈ (ofFiles files).files, file.names = names ∧ contents = .text file.contents := by
  rw [text?, Option.map_eq_some_iff]
  constructor
  · rintro ⟨file, hget, rfl⟩
    have hnames : file.names = names := by
      rw [Artifact.names, FilePath.names, steps_of_get?_ofFiles hget, List.filterMap_map]
      exact List.filterMap_some
    exact ⟨file, List.mem_map_of_mem (SortedMap.get?_eq_some_iff.mp hget), hnames, rfl⟩
  · rintro ⟨file, hfile, rfl, rfl⟩
    obtain ⟨⟨key, found⟩, hmem, rfl⟩ := List.mem_map.mp hfile
    have hget := SortedMap.get?_eq_some_iff.mpr hmem
    refine ⟨found, ?_, rfl⟩
    rw [← (h.spells hfile).steps, steps_of_get?_ofFiles hget]
    exact hget

/-- A set has nothing under names that none of its files has. -/
theorem Spelled.text?_eq_none (h : Spelled files) : (ofFiles files).text? names = none
    ↔ ∀ file ∈ (ofFiles files).files, file.names ≠ names := by
  rw [Option.eq_none_iff_forall_ne_some]
  constructor
  · exact fun hnone file hfile hnames =>
      hnone _ (h.text?_eq_some.mpr ⟨file, hfile, hnames, rfl⟩)
  · intro hall contents htext
    obtain ⟨file, hfile, hnames, -⟩ := h.text?_eq_some.mp htext
    exact hall file hfile hnames

/-- No two files of a spelled set have the same names. -/
theorem Spelled.nodup (h : Spelled files) : ((ofFiles files).files.map Artifact.names).Nodup := by
  have hkeys := List.pairwise_map.mp (SortedMap.nodup_keys (ofFiles files))
  rw [Artifacts.files, List.map_map]
  refine List.pairwise_map.mpr (hkeys.imp_of_mem fun {a b} ha hb hne hsame => hne ?_)
  have hsteps : ∀ e ∈ (ofFiles files).entries, e.1 = e.2.names.map .name := fun e he => by
    rw [← (h.spells (List.mem_map_of_mem he)).steps]
    exact (steps_of_get?_ofFiles (SortedMap.get?_eq_some_iff.mpr he)).symm
  rw [hsteps a ha, hsteps b hb]
  exact congrArg _ hsame

/-! ## What is left -/

/-- What writing a set of files leaves of a store whose directory is at a location. -/
structure Leaves (artifacts : Artifacts) (output : String) (base : Location)
    (before after : Store) : Prop where
  located : after.locate output = .ok base
  keeps : before.KeepsFolders after
  unshared : after.Unshared base
  -- the path of every file can be read
  short : ∀ file ∈ artifacts.files,
    (FilePath.join output file.path).utf8ByteSize ≤ Store.pathLimit
  inside : ∀ names, after.file? (base ++ names)
    = (artifacts.text? names).or (left output names (before.file? (base ++ names)))
  outside : ∀ location, ¬ base <+: location → after.file? location = before.file? location

/-- **WHAT A RUN LEAVES**: the texts of the set, and besides them whatever was there before and is
    not a marked file. -/
theorem Spelled.leaves (h : Spelled files) (hstore : store.SharesNone output) {changes : Changes}
    (hwrite : store.perform ((ofFiles files).write output) = (.ok changes, next)) :
    ∃ base, (ofFiles files).Leaves output base store next := by
  obtain ⟨base, filled, gone, hpasses⟩ := exists_passes hstore h.nodup
    (fun file hfile hstart => absurd hstart (Bool.eq_false_iff.mp (h.spells hfile).startsHere)) hwrite
  have hreceives := hpasses.receives
  have hloses := hpasses.loses
  refine ⟨base, hloses.keeps.locate hpasses.located, hreceives.keeps.trans hloses.keeps,
    hloses.unshared, fun file hfile =>
      (Store.checkPath_eq_ok.mp (hpasses.taken file hfile)).2.2,
    fun names => ?_, fun location houtside => ?_⟩
  · cases htext : (ofFiles files).text? names with
    | some contents =>
        obtain ⟨file, hfile, rfl, rfl⟩ := h.text?_eq_some.mp htext
        rw [hpasses.present file hfile]
        rfl
    | none =>
        have hnone := h.text?_eq_none.mp htext
        have hbefore : filled.file? (base ++ names) = store.file? (base ++ names) :=
          hreceives.others _ fun file hfile heq =>
            hnone file hfile (List.append_cancel_left heq).symm
        rw [Option.none_or, ← hbefore]
        ext contents
        rw [left_eq_some]
        by_cases hgone : names ∈ gone
        · obtain ⟨-, hshort, text, hfile, hmarked⟩ := (hpasses.mem_gone names).mp hgone
          rw [hloses.absent names hgone, hfile]
          refine iff_of_false (by simp) ?_
          rintro ⟨heq, hkept⟩
          obtain rfl := Option.some.inj heq
          exact hkept ⟨hmarked, hshort⟩
        · rw [hloses.others]
          · refine (and_iff_left_of_imp fun hfile hmarked => ?_).symm
            cases contents with
            | binary => exact absurd hmarked.1 Bool.false_ne_true
            | text text =>
                exact hgone ((hpasses.mem_gone names).mpr
                  ⟨hnone, hmarked.2, text, hfile, hmarked.1⟩)
          · rintro other hother heq
            exact hgone (List.append_cancel_left heq ▸ hother)
  · rw [hloses.others, hreceives.others]
    · rintro file - rfl
      exact houtside (List.prefix_append _ _)
    · rintro names - rfl
      exact houtside (List.prefix_append _ _)

end Artifacts

end Bindery
