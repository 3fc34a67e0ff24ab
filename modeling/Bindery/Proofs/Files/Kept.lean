import Bindery.Artifacts
import Bindery.Proofs.SortedMap
import Mathlib.Data.List.Perm.Subperm

/-! # Kept files — when a list of files becomes as many entries

    A file is put under the steps of its path, over any file that was there.  So
    the files of a list are all kept exactly when their steps are pairwise
    distinct (`length_ofFiles_iff`), and then each is found under its own steps
    with its own path and contents (`get?_ofFiles`). -/

namespace Bindery.Artifacts

open FilePath (steps)

variable {files : List (String × String)} {key : List FilePath.Step}

/-- Files are told apart by the steps of their paths. -/
def stepsOf (files : List (String × String)) : List (List FilePath.Step) :=
  files.map fun file => steps file.1

/-- Putting a file changes the entry of its steps only. -/
theorem get?_put_of_ne {artifacts : Artifacts} {path contents : String} (h : key ≠ steps path) :
    (artifacts.put path contents).get? key = artifacts.get? key := by
  unfold put
  rw [SortedMap.get?_insert, if_neg h]

/-- A file of new steps is put with the path it has. -/
theorem get?_put_of_new {artifacts : Artifacts} {path contents : String}
    (h : artifacts.get? (steps path) = none) :
    (artifacts.put path contents).get? (steps path) = some ⟨path, contents⟩ := by
  unfold put
  rw [SortedMap.get?_insert, if_pos rfl]
  simp only [h]

/-- A file that is put is found. -/
theorem exists_get?_put {artifacts : Artifacts} {path contents : String} :
    ∃ value, (artifacts.put path contents).get? (steps path) = some value := by
  unfold put
  rw [SortedMap.get?_insert, if_pos rfl]
  exact ⟨_, rfl⟩

/-- Putting files changes the entries of their steps only. -/
theorem get?_foldl_put_of_notMem : ∀ {files : List (String × String)} {artifacts : Artifacts},
    key ∉ stepsOf files →
      (files.foldl (fun done file => done.put file.1 file.2) artifacts).get? key
        = artifacts.get? key := by
  intro files
  induction files with
  | nil => exact fun _ => rfl
  | cons file files ih =>
      intro artifacts h
      rw [List.foldl_cons, ih (List.not_mem_of_not_mem_cons h),
        get?_put_of_ne (List.ne_of_not_mem_cons h)]

/-- Files of distinct new steps are found under them. -/
theorem get?_foldl_put : ∀ {files : List (String × String)} {artifacts : Artifacts},
    (stepsOf files).Nodup → (∀ file ∈ files, artifacts.get? (steps file.1) = none) →
      ∀ file ∈ files, (files.foldl (fun done file => done.put file.1 file.2) artifacts).get?
        (steps file.1) = some ⟨file.1, file.2⟩ := by
  intro files
  induction files with
  | nil => exact fun _ _ _ h => (nomatch h)
  | cons first files ih =>
      intro artifacts hdistinct hnew file hmem
      obtain ⟨hfirst, hdistinct⟩ := List.nodup_cons.mp hdistinct
      obtain ⟨hnewFirst, hnew⟩ := List.forall_mem_cons.mp hnew
      rw [List.foldl_cons]
      rcases List.mem_cons.mp hmem with rfl | hmem
      · rw [get?_foldl_put_of_notMem hfirst, get?_put_of_new hnewFirst]
      · refine ih hdistinct (fun other hother => ?_) file hmem
        have hne : steps other.1 ≠ steps first.1 := by
          intro heq
          have hmem : steps other.1 ∈ stepsOf files := List.mem_map_of_mem hother
          rw [heq] at hmem
          exact hfirst hmem
        rw [get?_put_of_ne hne]
        exact hnew other hother

/-- **FILES OF DISTINCT STEPS** are found under them with their own paths and contents. -/
theorem get?_ofFiles (hdistinct : (stepsOf files).Nodup) {file : String × String}
    (hmem : file ∈ files) : (ofFiles files).get? (steps file.1) = some ⟨file.1, file.2⟩ :=
  get?_foldl_put hdistinct (fun _ _ => rfl) file hmem

/-- The entries of files are under their steps. -/
theorem mem_keys_ofFiles : key ∈ (ofFiles files).keys ↔ key ∈ stepsOf files := by
  have hfold : ∀ {files : List (String × String)} {artifacts : Artifacts},
      (∃ value, (files.foldl (fun done file => done.put file.1 file.2) artifacts).get? key
        = some value) ↔ (∃ value, artifacts.get? key = some value) ∨ key ∈ stepsOf files := by
    -- the files that are there already are whatever the fold has come to
    intro files
    induction files with
    | nil => exact fun {_} => (or_iff_left List.not_mem_nil).symm
    | cons file files ih =>
        intro artifacts
        have hcons : key ∈ stepsOf (file :: files) ↔ key = steps file.1 ∨ key ∈ stepsOf files :=
          List.mem_cons
        rw [List.foldl_cons, ih, hcons, ← or_assoc]
        refine or_congr_left ?_
        by_cases hkey : key = steps file.1
        · subst hkey
          exact iff_of_true exists_get?_put (.inr rfl)
        · rw [get?_put_of_ne hkey]
          exact (or_iff_left hkey).symm
  rw [← SortedMap.contains_iff_mem_keys, SortedMap.contains_iff]
  exact hfold.trans (or_iff_right fun ⟨_, h⟩ => (nomatch h))

/-- What is found after files have been put is what one of them holds, or was there before. -/
theorem contents_of_get?_foldl_put : ∀ {files : List (String × String)} {artifacts : Artifacts}
    {found : Artifact},
    (files.foldl (fun done file => done.put file.1 file.2) artifacts).get? key = some found →
      artifacts.get? key = some found
        ∨ ∃ file ∈ files, steps file.1 = key ∧ found.contents = file.2 := by
  intro files
  induction files with
  | nil => exact fun h => .inl h
  | cons first files ih =>
      intro artifacts found h
      rcases ih h with hput | ⟨file, hfile, hfound⟩
      · by_cases hkey : key = steps first.1
        · unfold put at hput
          rw [SortedMap.get?_insert, if_pos hkey] at hput
          rw [← Option.some.inj hput]
          exact .inr ⟨first, List.mem_cons_self, hkey.symm, rfl⟩
        · rw [get?_put_of_ne hkey] at hput
          exact .inl hput
      · exact .inr ⟨file, List.mem_cons_of_mem first hfile, hfound⟩

/-- Under the steps of a file that is put, what one of the files of these steps holds is found. -/
theorem exists_contents_ofFiles (hmem : key ∈ stepsOf files) :
    ∃ found, (ofFiles files).get? key = some found
      ∧ ∃ file ∈ files, steps file.1 = key ∧ found.contents = file.2 := by
  obtain ⟨found, hfound⟩ := SortedMap.contains_iff.mp
    (SortedMap.contains_iff_mem_keys.mpr (mem_keys_ofFiles.mpr hmem))
  refine ⟨found, hfound, ?_⟩
  rcases contents_of_get?_foldl_put hfound with hnone | hfile
  · exact nomatch hnone
  · exact hfile

/-- A file that is found is under the steps of its path. -/
theorem steps_of_get?_ofFiles {found : Artifact} (h : (ofFiles files).get? key = some found) :
    steps found.path = key := by
  have hfold : ∀ {files : List (String × String)} {artifacts : Artifacts},
      (∀ key found, artifacts.get? key = some found → steps found.path = key) →
      ∀ key found, (files.foldl (fun done file => done.put file.1 file.2) artifacts).get? key
        = some found → steps found.path = key := by
    intro files
    induction files with
    | nil => exact fun h => h
    | cons file files ih =>
        intro artifacts hkeyed
        refine ih fun key found hput => ?_
        by_cases hkey : key = steps file.1
        · unfold put at hput
          rw [SortedMap.get?_insert, if_pos hkey] at hput
          rw [← Option.some.inj hput, hkey]
          -- a file that was there already keeps its path
          dsimp only
          split
          · rename_i earlier hearlier
            exact hkeyed _ _ hearlier
          · rfl
        · rw [get?_put_of_ne hkey] at hput
          exact hkeyed key found hput
  exact @hfold files SortedMap.empty (fun _ _ hnone => nomatch hnone) key found h

/-- **ONE ENTRY FOR EACH FILE** is there exactly when their steps are distinct. -/
theorem length_ofFiles_iff :
    (ofFiles files).entries.length = files.length ↔ (stepsOf files).Nodup := by
  have hkeys : (ofFiles files).keys.Nodup := SortedMap.nodup_keys (ofFiles files)
  have hlength : (ofFiles files).entries.length = (ofFiles files).keys.length :=
    (List.length_map _).symm
  have hfiles : files.length = (stepsOf files).length := (List.length_map _).symm
  rw [hlength, hfiles]
  constructor
  · intro hsame
    -- as many keys as files, all of them steps of files, leave no step for a second time
    have hsub := List.subperm_of_subset hkeys fun key hkey => mem_keys_ofFiles.mp hkey
    exact (hsub.perm_of_length_le hsame.ge).nodup_iff.mp hkeys
  · intro hdistinct
    exact ((List.perm_ext_iff_of_nodup hkeys hdistinct).mpr fun key =>
      mem_keys_ofFiles).length_eq

end Bindery.Artifacts
