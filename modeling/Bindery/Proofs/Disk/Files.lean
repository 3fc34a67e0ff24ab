import Bindery.Proofs.Disk.Paths
import Bindery.Proofs.SortedMap
import Mathlib.Data.List.Induction

/-! # Files of a store — what the operations do to them

    In a store every entry is in a directory and under a name that a system takes
    (`Placed`).  What an operation does is told by the files at their locations
    (`file?`) and by the directories that stay (`KeepsFolders`): a path leads to
    the same location as long as they do (`KeepsFolders.locate`), and it leads to
    every file that is there (`Placed.locate_join`).

    A file may be at several locations (`SameFile`).  It is the same at all of
    them (`Consistent`): what is written to it at one is there at the others
    (`file?_fill`), and where it is taken away it stays at the others.  In a
    well-formed store no file is at more than one location (`WellFormed`). -/

namespace Bindery

namespace Text

/-- Pieces have characters of the text only. -/
theorem mem_of_mem_splitAt {separator c : Char} {piece cs : List Char}
    (h : piece ∈ splitAt separator cs) (hc : c ∈ piece) : c ∈ cs := by
  induction cs generalizing piece with
  | nil =>
      rw [List.mem_singleton.mp h] at hc
      exact hc
  | cons first cs ih =>
      rw [splitAt] at h
      split at h
      · rcases List.mem_cons.mp h with rfl | h
        · exact absurd hc List.not_mem_nil
        · exact List.mem_cons_of_mem _ (ih h hc)
      · split at h
        · rename_i hsplit
          exact absurd hsplit (splitAt_ne_nil separator cs)
        · rename_i head tail hsplit
          rcases List.mem_cons.mp h with rfl | h
          · exact (List.mem_cons.mp hc).elim (fun hfirst => hfirst ▸ List.mem_cons_self)
              fun hhead => List.mem_cons_of_mem _ (ih (hsplit ▸ List.mem_cons_self) hhead)
          · exact List.mem_cons_of_mem _ (ih (hsplit ▸ List.mem_cons_of_mem _ h) hc)

/-- Joined pieces have separators and characters of the pieces only. -/
theorem of_mem_joinAt {separator c : Char} : ∀ {pieces : List (List Char)},
    c ∈ joinAt separator pieces → c = separator ∨ ∃ piece ∈ pieces, c ∈ piece := by
  intro pieces
  induction pieces with
  | nil => exact fun h => absurd h List.not_mem_nil
  | cons first pieces ih =>
      intro h
      cases pieces with
      | nil => exact .inr ⟨first, List.mem_cons_self, h⟩
      | cons next rest =>
          rcases List.mem_append.mp h with h | h
          · exact .inr ⟨first, List.mem_cons_self, h⟩
          · rcases List.mem_cons.mp h with h | h
            · exact .inl h
            · exact (ih h).imp_right fun ⟨piece, hpiece, hc⟩ =>
                ⟨piece, List.mem_cons_of_mem _ hpiece, hc⟩

end Text

namespace Store

variable {store next : Store} {location other folder base : Location} {entry : FileEntry}
  {contents : Contents} {name path directory text : String}

/-- What the file at a location holds. -/
def file? (store : Store) (location : Location) : Option Contents :=
  match store.entry? location with
  | some (.file contents) => some contents
  | _ => none

theorem file?_eq_some : store.file? location = some contents
    ↔ store.entry? location = some (.file contents) := by
  unfold file?
  split
  · rename_i found heq
    rw [heq, Option.some.injEq, Option.some.injEq, FileEntry.file.injEq]
  · rename_i hfile
    exact iff_of_false (by simp) fun heq => hfile contents heq

/-- Locations with the same entry have the same file. -/
theorem file?_congr (h : next.entry? other = store.entry? location) :
    next.file? other = store.file? location := by
  rw [file?, file?, h]

/-! ## Entries -/

/-- What is in a directory is not the root. -/
theorem concat_ne_nil (folder : Location) (name : String) : folder ++ [name] ≠ [] :=
  List.append_ne_nil_of_right_ne_nil _ (List.cons_ne_nil _ _)

/-- An entry that is put is there, and no other changes. -/
theorem entry?_put (hne : location ≠ []) (other : Location) :
    Store.entry? (store.put location entry) other
      = if other = location then some entry else store.entry? other := by
  cases other with
  | nil => exact (if_neg (Ne.symm hne)).symm
  | cons first rest => exact SortedMap.get?_insert _ _ _ _

/-- An entry that is taken away is there no more, and no other changes. -/
theorem entry?_without (hne : location ≠ []) (other : Location) :
    Store.entry? (store.without location) other
      = if other = location then none else store.entry? other := by
  cases other with
  | nil => exact (if_neg (Ne.symm hne)).symm
  | cons first rest => exact SortedMap.get?_erase _ _ _

/-- Below the root the entries are those that a store lists. -/
theorem entry?_eq_some (hne : location ≠ []) : store.entry? location = some entry
    ↔ (location, entry) ∈ store.entries.entries := by
  cases location with
  | nil => exact absurd rfl hne
  | cons first rest => exact SortedMap.get?_eq_some_iff

/-! ## Well-formed stores -/

/-- A name that a system takes. -/
structure ProperName (name : String) : Prop where
  ordinary : FilePath.Ordinary name
  short : name.utf8ByteSize ≤ nameLimit
  withoutNul : ∀ c ∈ name.toList, c.toNat ≠ 0

theorem properName_iff : ProperName name
    ↔ (name ≠ "" ∧ '/' ∉ name.toList ∧ name ≠ "." ∧ name ≠ "..")
      ∧ name.utf8ByteSize ≤ nameLimit ∧ name.toList.all (·.toNat ≠ 0) = true := by
  rw [List.all_eq_true]
  constructor
  · rintro ⟨⟨hne, hslash, hhere, habove⟩, hshort, hnul⟩
    exact ⟨⟨hne, hslash, hhere, habove⟩, hshort, fun c hc => decide_eq_true (hnul c hc)⟩
  · rintro ⟨⟨hne, hslash, hhere, habove⟩, hshort, hnul⟩
    exact ⟨⟨hne, hslash, hhere, habove⟩, hshort, fun c hc => of_decide_eq_true (hnul c hc)⟩

instance (name : String) : Decidable (ProperName name) := decidable_of_iff' _ properName_iff

/-- Every entry of a store is in a directory and under a proper name. -/
structure Placed (store : Store) : Prop where
  named : ∀ e ∈ store.entries.entries, e.1 ≠ [] ∧ ∀ name ∈ e.1, ProperName name
  rooted : ∀ e ∈ store.entries.entries, store.entry? e.1.dropLast = some .folder

/-- Locations with a number are those of files, and those with the same number of the same. -/
structure Consistent (store : Store) : Prop extends Placed store where
  numbered : ∀ e ∈ store.numbers.entries, (store.file? e.1).isSome = true
  single : ∀ e ∈ store.numbers.entries, ∀ e' ∈ store.numbers.entries, e.2 = e'.2 →
    store.file? e.1 = store.file? e'.1

/-- A store in which no file is at more than one location. -/
structure WellFormed (store : Store) : Prop extends Placed store where
  unlinked : store.numbers = .empty

/-- A consistent store in which no file at a location or below it is at another one too. -/
structure Unshared (base : Location) (store : Store) : Prop extends Consistent store where
  alone : ∀ location number, store.numbers.get? location = some number → ¬ base <+: location

instance (store : Store) : Decidable store.Placed :=
  decidable_of_iff ((∀ e ∈ store.entries.entries, e.1 ≠ [] ∧ ∀ name ∈ e.1, ProperName name)
      ∧ ∀ e ∈ store.entries.entries, store.entry? e.1.dropLast = some .folder)
    ⟨fun h => ⟨h.1, h.2⟩, fun h => ⟨h.named, h.rooted⟩⟩

instance (store : Store) : Decidable store.Consistent :=
  decidable_of_iff (store.Placed ∧ (∀ e ∈ store.numbers.entries, (store.file? e.1).isSome = true)
      ∧ ∀ e ∈ store.numbers.entries, ∀ e' ∈ store.numbers.entries, e.2 = e'.2 →
        store.file? e.1 = store.file? e'.1)
    ⟨fun h => ⟨h.1, h.2.1, h.2.2⟩, fun h => ⟨h.toPlaced, h.numbered, h.single⟩⟩

instance (store : Store) : Decidable store.WellFormed :=
  decidable_of_iff (store.Placed ∧ store.numbers = .empty)
    ⟨fun h => ⟨h.1, h.2⟩, fun h => ⟨h.toPlaced, h.unlinked⟩⟩

/-- Without numbers there is nothing to tell of them. -/
theorem WellFormed.consistent (h : store.WellFormed) : store.Consistent where
  toPlaced := h.toPlaced
  numbered e he := by
    rw [h.unlinked] at he
    exact nomatch he
  single e he := by
    rw [h.unlinked] at he
    exact nomatch he

/-- A store without any file is well formed. -/
theorem wellFormed_empty {workingFolder : Location} (h : ∀ name ∈ workingFolder, ProperName name) :
    (empty workingFolder).WellFormed := by
  have hentry : ∀ e ∈ (empty workingFolder).entries.entries,
      ∃ n < workingFolder.length, e = (workingFolder.take (n + 1), .folder) := by
    intro e he
    obtain ⟨n, hn, rfl⟩ := List.mem_map.mp (SortedMap.mem_of_mem_entries_ofList he)
    exact ⟨n, List.mem_range.mp hn, rfl⟩
  have hne : ∀ n < workingFolder.length, workingFolder.take (n + 1) ≠ [] := by
    intro n hn hnil
    rcases List.take_eq_nil_iff.mp hnil with hzero | rfl
    · exact Nat.succ_ne_zero n hzero
    · exact Nat.not_lt_zero n hn
  have hfolder : ∀ n < workingFolder.length,
      Store.entry? (empty workingFolder) (workingFolder.take (n + 1)) = some .folder := by
    intro n hn
    have hmem : (workingFolder.take (n + 1), FileEntry.folder)
        ∈ (List.range workingFolder.length).map fun n => (workingFolder.take (n + 1), .folder) :=
      List.mem_map_of_mem (List.mem_range.mpr hn)
    obtain ⟨found, hfound⟩ := SortedMap.exists_mem_entries_ofList hmem
    obtain ⟨_, _, heq⟩ := hentry _ hfound
    obtain rfl : found = .folder := (Prod.mk.inj heq).2
    exact (entry?_eq_some (hne n hn)).mpr hfound
  refine ⟨⟨fun e he => ?_, fun e he => ?_⟩, rfl⟩
  · obtain ⟨n, hn, rfl⟩ := hentry e he
    exact ⟨hne n hn, fun name hname => h name (List.mem_of_mem_take hname)⟩
  · obtain ⟨n, hn, rfl⟩ := hentry e he
    have hparent : (workingFolder.take (n + 1)).dropLast = workingFolder.take n := by
      rw [List.dropLast_eq_take, List.take_take, List.length_take]
      congr 1
      omega
    dsimp only
    rw [hparent]
    cases n with
    | zero => rfl
    | succ n => exact hfolder n (by omega)

namespace Placed

variable (h : store.Placed)

include h

/-- What is there is under proper names. -/
theorem proper (hentry : store.entry? location = some entry) : ∀ name ∈ location, ProperName name := by
  by_cases hne : location = []
  · subst hne
    exact List.forall_mem_nil _
  · exact (h.named _ ((entry?_eq_some hne).mp hentry)).2

/-- What is there is in a directory. -/
theorem parent (hentry : store.entry? (folder ++ [name]) = some entry) :
    store.entry? folder = some .folder := by
  have hne := concat_ne_nil folder name
  have hrooted := h.rooted _ ((entry?_eq_some hne).mp hentry)
  rwa [List.dropLast_concat] at hrooted

/-- All that is above something is a directory. -/
theorem above {rest : Location} (hne : rest ≠ [])
    (hentry : store.entry? (folder ++ rest) = some entry) : store.entry? folder = some .folder := by
  induction rest using List.reverseRecOn generalizing entry with
  | nil => exact absurd rfl hne
  | append_singleton rest name ih =>
      rw [← List.append_assoc] at hentry
      have hparent := h.parent hentry
      by_cases hrest : rest = []
      · rwa [hrest, List.append_nil] at hparent
      · exact ih hrest hparent

/-- A directory is in directories all the way. -/
theorem folder_of_above (hway : folder <+: location)
    (hentry : store.entry? location = some .folder) : store.entry? folder = some .folder := by
  obtain ⟨rest, rfl⟩ := hway
  by_cases hrest : rest = []
  · rwa [hrest, List.append_nil] at hentry
  · exact h.above hrest hentry

/-- Putting an entry into a directory, over no other directory, keeps all entries in directories. -/
theorem put (hfolder : store.entry? folder = some .folder) (hname : ProperName name)
    (hnew : store.entry? (folder ++ [name]) ≠ some .folder) :
    (store.put (folder ++ [name]) entry).Placed := by
  have hne := concat_ne_nil folder name
  have hkept : ∀ other, store.entry? other = some .folder →
      Store.entry? (store.put (folder ++ [name]) entry) other = some .folder := by
    intro other hother
    have hother' : other ≠ folder ++ [name] := fun heq => hnew (heq ▸ hother)
    rw [entry?_put hne, if_neg hother', hother]
  have hold : ∀ e ∈ (store.put (folder ++ [name]) entry).entries.entries,
      e = (folder ++ [name], entry) ∨ e ∈ store.entries.entries :=
    fun _ he => SortedMap.mem_insertEntry he
  refine ⟨fun e he => ?_, fun e he => ?_⟩
  · rcases hold e he with rfl | he
    · exact ⟨hne, List.forall_mem_append.mpr
        ⟨h.proper hfolder, List.forall_mem_singleton.mpr hname⟩⟩
    · exact h.named e he
  · rcases hold e he with rfl | he
    · rw [List.dropLast_concat]
      exact hkept _ hfolder
    · exact hkept _ (h.rooted e he)

/-- So does taking a file away. -/
theorem without (hfile : store.file? location = some contents) :
    (store.without location).Placed := by
  have hentry := file?_eq_some.mp hfile
  have hne : location ≠ [] := by
    rintro rfl
    exact nomatch hentry
  have hmem : ∀ e ∈ (store.without location).entries.entries, e ∈ store.entries.entries :=
    fun _ he => List.mem_of_mem_filter he
  refine ⟨fun e he => h.named e (hmem e he), fun e he => ?_⟩
  have hrooted := h.rooted e (hmem e he)
  rw [entry?_without hne, if_neg]
  · exact hrooted
  · intro heq
    rw [heq, hentry] at hrooted
    exact nomatch hrooted

end Placed

namespace WellFormed

variable (h : store.WellFormed)

include h

/-- Putting an entry into a directory, over no other directory, keeps a store well formed. -/
theorem put (hfolder : store.entry? folder = some .folder) (hname : ProperName name)
    (hnew : store.entry? (folder ++ [name]) ≠ some .folder) :
    (store.put (folder ++ [name]) entry).WellFormed :=
  ⟨h.toPlaced.put hfolder hname hnew, h.unlinked⟩

/-- Taking a file away keeps a store well formed. -/
theorem without (hfile : store.file? location = some contents) :
    (store.without location).WellFormed := by
  refine ⟨h.toPlaced.without hfile, ?_⟩
  rw [Store.without, h.unlinked]
  rfl

end WellFormed

/-! ## Following paths -/

/-- A step is taken from a directory only. -/
theorem folder_of_step {piece : String} (h : store.step folder piece = .ok location) :
    store.entry? folder = some .folder := by
  unfold step at h
  split at h
  · exact nomatch h
  · exact nomatch h
  · assumption

/-- From a directory all stores take the same step. -/
theorem step_congr (h : store.entry? folder = some .folder) (h' : next.entry? folder = some .folder)
    (piece : String) : next.step folder piece = store.step folder piece := by
  unfold step
  rw [h, h']

/-- A step to a name leads to what is under it in the directory. -/
theorem step_name (hname : isDots name = false) : store.step folder name = .ok location
    ↔ store.entry? folder = some .folder ∧ name.utf8ByteSize ≤ nameLimit
      ∧ location = folder ++ [name] := by
  rw [isDots, Bool.or_eq_false_iff] at hname
  constructor
  · intro h
    have hfolder := folder_of_step h
    unfold step at h
    rw [hfolder] at h
    dsimp only at h
    rw [if_neg (of_decide_eq_false hname.1), if_neg (of_decide_eq_false hname.2)] at h
    split at h
    · cases h
    · exact ⟨hfolder, by omega, (Except.ok.inj h).symm⟩
  · rintro ⟨hfolder, hshort, rfl⟩
    unfold step
    rw [hfolder]
    dsimp only
    rw [if_neg (of_decide_eq_false hname.1), if_neg (of_decide_eq_false hname.2), if_neg (by omega)]

/-- A dot leads nowhere else. -/
theorem step_here : store.step folder "." = .ok location
    ↔ store.entry? folder = some .folder ∧ location = folder := by
  constructor
  · intro h
    have hfolder := folder_of_step h
    unfold step at h
    rw [hfolder] at h
    exact ⟨hfolder, (Except.ok.inj h).symm⟩
  · rintro ⟨hfolder, rfl⟩
    unfold step
    rw [hfolder]
    rfl

/-- Dots that do not lead above are the one that leads nowhere else. -/
theorem eq_of_isDots {piece : String} (habove : piece ≠ "..") (hdots : isDots piece = true) :
    piece = "." := by
  rw [isDots, Bool.or_eq_true, decide_eq_true_iff, decide_eq_true_iff] at hdots
  exact hdots.resolve_right habove

/-- Pieces that do not lead above lead along their names. -/
theorem eq_of_foldlM_step {pieces : List String} (habove : ".." ∉ pieces)
    (h : pieces.foldlM store.step folder = .ok location) :
    location = folder ++ pieces.filter (!isDots ·) := by
  induction pieces generalizing folder with
  | nil => exact (Except.ok.inj h).symm.trans (List.append_nil _).symm
  | cons piece pieces ih =>
      rw [List.foldlM_cons] at h
      obtain ⟨reached, hstep, hrest⟩ := bind_eq_ok.mp h
      have hlocation := ih (List.not_mem_of_not_mem_cons habove) hrest
      by_cases hdots : isDots piece = true
      · obtain rfl := eq_of_isDots (List.ne_of_not_mem_cons habove).symm hdots
        rw [hlocation, (step_here.mp hstep).2]
        rfl
      · rw [Bool.not_eq_true] at hdots
        rw [hlocation, ((step_name hdots).mp hstep).2.2, List.append_assoc,
          List.filter_cons_of_pos (by simp [hdots])]
        rfl

/-- Short names are followed as long as there are directories on the way. -/
theorem foldlM_step_eq_ok {pieces : List String} (habove : ".." ∉ pieces)
    (hshort : ∀ piece ∈ pieces.filter (!isDots ·), piece.utf8ByteSize ≤ nameLimit)
    (hfolders : ∀ front, front <+: pieces.filter (!isDots ·) →
      store.entry? (folder ++ front) = some .folder) :
    pieces.foldlM store.step folder = .ok (folder ++ pieces.filter (!isDots ·)) := by
  induction pieces generalizing folder with
  | nil =>
      rw [List.filter_nil, List.append_nil]
      rfl
  | cons piece pieces ih =>
      have hfolder := hfolders [] List.nil_prefix
      rw [List.append_nil] at hfolder
      rw [List.foldlM_cons]
      by_cases hdots : isDots piece = true
      · obtain rfl := eq_of_isDots (List.ne_of_not_mem_cons habove).symm hdots
        rw [step_here.mpr ⟨hfolder, rfl⟩]
        exact ih (List.not_mem_of_not_mem_cons habove) hshort hfolders
      · rw [Bool.not_eq_true] at hdots
        rw [List.filter_cons_of_pos (by simp [hdots])] at hshort hfolders ⊢
        obtain ⟨hpiece, hshort⟩ := List.forall_mem_cons.mp hshort
        rw [(step_name hdots).mpr ⟨hfolder, hpiece, rfl⟩]
        have hnext := @ih (folder ++ [piece]) (List.not_mem_of_not_mem_cons habove) hshort
          fun front hfront => by
            rw [List.append_assoc]
            exact hfolders _ ((List.prefix_cons_inj piece).mpr hfront)
        rwa [List.append_assoc] at hnext

/-- A store whose directories, and the one that relative paths start from, are there still. -/
structure KeepsFolders (before after : Store) : Prop where
  workingFolder : after.workingFolder = before.workingFolder
  folders : ∀ location, before.entry? location = some .folder → after.entry? location = some .folder

namespace KeepsFolders

theorem refl (store : Store) : KeepsFolders store store := ⟨rfl, fun _ h => h⟩

theorem trans {last : Store} (h : KeepsFolders store next) (h' : KeepsFolders next last) :
    KeepsFolders store last :=
  ⟨h'.workingFolder.trans h.workingFolder, fun location hfolder =>
    h'.folders location (h.folders location hfolder)⟩

/-- Pieces are followed as before as long as all directories stay. -/
theorem follow {pieces : List String} (h : KeepsFolders store next)
    (hfollow : store.follow path pieces = .ok location) :
    next.follow path pieces = .ok location := by
  have hfold : ∀ (pieces : List String) (start : Location),
      pieces.foldlM store.step start = .ok location →
        pieces.foldlM next.step start = .ok location := by
    intro pieces
    induction pieces with
    | nil => exact fun _ hfollow => hfollow
    | cons piece pieces ih =>
        intro start hfollow
        rw [List.foldlM_cons] at hfollow ⊢
        obtain ⟨reached, hstep, hrest⟩ := bind_eq_ok.mp hfollow
        have hfolder := folder_of_step hstep
        rw [step_congr hfolder (h.folders _ hfolder), hstep]
        exact ih reached hrest
  unfold Store.follow at hfollow ⊢
  rw [h.workingFolder]
  exact hfold _ _ hfollow

/-- A path leads to the same location as long as all directories stay. -/
theorem locate (h : KeepsFolders store next) (hlocate : store.locate path = .ok location) :
    next.locate path = .ok location := by
  obtain ⟨⟨⟩, hcheck, hfollow⟩ := bind_eq_ok.mp hlocate
  exact bind_eq_ok.mpr ⟨(), hcheck, h.follow hfollow⟩

end KeepsFolders

/-- One more step is taken from where the others led. -/
theorem foldlM_step_concat {init : List String} {start : Location}
    (hinit : init.foldlM store.step start = .ok folder) (hstep : store.step folder name = .ok location) :
    (init ++ [name]).foldlM store.step start = .ok location := by
  rw [List.foldlM_append]
  exact bind_eq_ok.mpr ⟨folder, hinit, bind_eq_ok.mpr ⟨location, hstep, rfl⟩⟩

/-- What a path says by itself does not depend on a store. -/
theorem checkPath_of_locate (h : store.locate path = .ok location) : checkPath path = .ok () := by
  obtain ⟨⟨⟩, hcheck, -⟩ := bind_eq_ok.mp h
  exact hcheck

/-- A path that a system takes is no empty text, without NUL and not too long. -/
theorem checkPath_eq_ok : checkPath path = .ok ()
    ↔ (∀ c ∈ path.toList, c.toNat ≠ 0) ∧ path ≠ "" ∧ path.utf8ByteSize ≤ pathLimit := by
  unfold checkPath
  split
  · rename_i hnul
    obtain ⟨c, hc, hzero⟩ := List.any_eq_true.mp hnul
    exact iff_of_false (by simp) fun h => h.1 c hc (of_decide_eq_true hzero)
  · rename_i hnul
    have hall : ∀ c ∈ path.toList, c.toNat ≠ 0 := fun c hc hzero =>
      hnul (List.any_eq_true.mpr ⟨c, hc, decide_eq_true hzero⟩)
    split
    · rename_i hempty
      exact iff_of_false (by simp) fun h => h.2.1 hempty
    · rename_i hempty
      split
      · exact iff_of_false (by simp) fun h => absurd h.2.2 (by omega)
      · exact iff_of_true rfl ⟨hall, hempty, by omega⟩

/-- **PLACES**: where an entry can be put is under a proper name in a directory, and it is where the
    path leads. -/
theorem of_place_eq_ok (h : store.place path = .ok (some location)) :
    store.locate path = .ok location ∧ ∃ folder name, location = folder ++ [name]
      ∧ store.entry? folder = some .folder ∧ ProperName name
      ∧ (pieces path).getLast? = some name ∧ isDots name = false := by
  obtain ⟨⟨⟩, hcheck, h⟩ := bind_eq_ok.mp h
  split at h
  · exact nomatch h
  · rename_i last hlast
    obtain ⟨folder, hfollow, h⟩ := bind_eq_ok.mp h
    obtain ⟨reached, hstep, h⟩ := bind_eq_ok.mp h
    have hfound := pure_eq_ok.mp h
    split at hfound
    · exact nomatch hfound
    · rename_i hdots
      obtain rfl := Option.some.inj hfound
      rw [Bool.not_eq_true] at hdots
      have hmem := List.mem_of_getLast? hlast
      obtain ⟨hfolder, hshort, rfl⟩ := (step_name hdots).mp hstep
      refine ⟨?_, folder, last, rfl, hfolder, ⟨FilePath.ordinary_of_mem_pieces hmem hdots, hshort,
        fun c hc => ?_⟩, hlast, hdots⟩
      · refine bind_eq_ok.mpr ⟨(), hcheck, ?_⟩
        obtain ⟨init, hinit⟩ := List.getLast?_eq_some_iff.mp hlast
        rw [hinit, List.dropLast_concat] at hfollow
        rw [follow, hinit]
        exact foldlM_step_concat hfollow hstep
      · obtain ⟨chars, hchars, rfl⟩ := List.mem_map.mp (List.mem_filter.mp hmem).1
        rw [String.toList_ofList] at hc
        exact (checkPath_eq_ok.mp hcheck).1 c (Text.mem_of_mem_splitAt hchars hc)

/-- It is the same place as long as all directories stay. -/
theorem KeepsFolders.place (h : KeepsFolders store next)
    (hplace : store.place path = .ok (some location)) : next.place path = .ok (some location) := by
  obtain ⟨⟨⟩, hcheck, hplace⟩ := bind_eq_ok.mp hplace
  refine bind_eq_ok.mpr ⟨(), hcheck, ?_⟩
  split at hplace
  · exact nomatch hplace
  · obtain ⟨folder, hfollow, hplace⟩ := bind_eq_ok.mp hplace
    obtain ⟨reached, hstep, hreached⟩ := bind_eq_ok.mp hplace
    have hfolder := folder_of_step hstep
    refine bind_eq_ok.mpr ⟨folder, h.follow hfollow, bind_eq_ok.mpr ⟨reached, ?_, hreached⟩⟩
    rw [step_congr hfolder (h.folders _ hfolder), hstep]

/-- **BELOW A DIRECTORY** an inner path leads to the location of the directory and its names. -/
theorem eq_of_locate_join (hdirectory : directory ≠ "") (hinner : FilePath.isInner path = true)
    (hbase : store.locate directory = .ok base)
    (h : store.locate (FilePath.join directory path) = .ok location) :
    location = base ++ FilePath.names path := by
  have habsolute := FilePath.isAbsolute_of_isInner hinner
  obtain ⟨⟨⟩, -, hbase⟩ := bind_eq_ok.mp hbase
  obtain ⟨⟨⟩, -, h⟩ := bind_eq_ok.mp h
  unfold follow at hbase h
  rw [FilePath.pieces_join hdirectory habsolute, FilePath.isAbsolute_join hdirectory habsolute,
    List.foldlM_append] at h
  obtain ⟨reached, hreached, h⟩ := bind_eq_ok.mp h
  obtain rfl : reached = base := Except.ok.inj (hreached.symm.trans hbase)
  rw [eq_of_foldlM_step (FilePath.notMem_above hinner) h, FilePath.names_eq]

/-- **ALL THE WAY** an inner path leads to the entry that is there. -/
theorem Placed.locate_join (hstore : store.Placed) (hdirectory : directory ≠ "")
    (hinner : FilePath.isInner path = true) (hbase : store.locate directory = .ok base)
    (hcheck : checkPath (FilePath.join directory path) = .ok ())
    (hlast : (pieces path).getLast? = some name) (hdots : isDots name = false)
    (hentry : store.entry? (base ++ FilePath.names path) = some entry) :
    store.locate (FilePath.join directory path) = .ok (base ++ FilePath.names path) := by
  have habsolute := FilePath.isAbsolute_of_isInner hinner
  obtain ⟨init, hinit⟩ := List.getLast?_eq_some_iff.mp hlast
  have hnames : FilePath.names path = init.filter (!isDots ·) ++ [name] := by
    rw [FilePath.names_eq, hinit, List.filter_append, List.filter_cons_of_pos (by simp [hdots]),
      List.filter_nil]
  have habove : ".." ∉ init := fun hmem =>
    FilePath.notMem_above hinner (hinit ▸ List.mem_append_left _ hmem)
  have hproper := hstore.proper hentry
  rw [hnames] at hentry hproper ⊢
  -- every directory on the way is above the entry
  have hfolders : ∀ front, front <+: init.filter (!isDots ·) →
      store.entry? (base ++ front) = some .folder := by
    rintro front ⟨rest, hrest⟩
    rw [← hrest, List.append_assoc, ← List.append_assoc] at hentry
    exact hstore.above (List.append_ne_nil_of_right_ne_nil _ (List.cons_ne_nil _ _)) hentry
  have hshort : ∀ piece ∈ init.filter (!isDots ·), piece.utf8ByteSize ≤ nameLimit :=
    fun piece hpiece => (hproper piece
      (List.mem_append_right _ (List.mem_append_left _ hpiece))).short
  have hinitial := foldlM_step_eq_ok habove hshort hfolders
  have hlastStep : store.step (base ++ init.filter (!isDots ·)) name
      = .ok (base ++ init.filter (!isDots ·) ++ [name]) :=
    (step_name hdots).mpr ⟨hfolders _ (List.prefix_refl _), (hproper name (by simp)).short, rfl⟩
  obtain ⟨⟨⟩, -, hbase⟩ := bind_eq_ok.mp hbase
  refine bind_eq_ok.mpr ⟨(), hcheck, ?_⟩
  unfold follow at hbase ⊢
  rw [FilePath.pieces_join hdirectory habsolute, FilePath.isAbsolute_join hdirectory habsolute,
    hinit, List.foldlM_append, ← List.append_assoc base]
  exact bind_eq_ok.mpr ⟨base, hbase, foldlM_step_concat hinitial hlastStep⟩

/-! ## Operations -/

/-- What is read is the text of the file that a path leads to. -/
theorem read_eq_ok : store.read path = .ok text ↔ ∃ location, store.locate path = .ok location
    ∧ store.file? location = some (.text text) ∧ endsInSlash path = false := by
  unfold read find
  constructor
  · intro h
    obtain ⟨⟨location, entry⟩, hfind, h⟩ := bind_eq_ok.mp h
    obtain ⟨reached, hlocate, hfind⟩ := bind_eq_ok.mp hfind
    split at hfind
    · exact nomatch hfind
    · obtain ⟨rfl, rfl⟩ := Prod.mk.inj (Except.ok.inj hfind)
      exact nomatch h
    · rename_i contents hentry
      split at hfind
      · exact nomatch hfind
      · rename_i hslash
        obtain ⟨rfl, rfl⟩ := Prod.mk.inj (Except.ok.inj hfind)
        cases contents with
        | binary => exact nomatch h
        | text found =>
            obtain rfl : found = text := Except.ok.inj h
            exact ⟨reached, hlocate, file?_eq_some.mpr hentry, Bool.eq_false_iff.mpr hslash⟩
  · rintro ⟨location, hlocate, hfile, hslash⟩
    refine bind_eq_ok.mpr ⟨(location, .file (.text text)), bind_eq_ok.mpr ⟨location, hlocate, ?_⟩, rfl⟩
    rw [file?_eq_some.mp hfile, hslash]
    rfl

/-- A file is written where its path leads, over no directory. -/
theorem of_write_eq_ok (h : store.write path contents = .ok next) :
    ∃ folder name, store.locate path = .ok (folder ++ [name])
      ∧ store.entry? folder = some .folder ∧ ProperName name
      ∧ (pieces path).getLast? = some name ∧ isDots name = false ∧ endsInSlash path = false
      ∧ store.entry? (folder ++ [name]) ≠ some .folder
      ∧ next = store.fill (folder ++ [name]) contents := by
  obtain ⟨place, hplace, h⟩ := bind_eq_ok.mp h
  cases place with
  | none => exact nomatch h
  | some location =>
      obtain ⟨hlocate, folder, name, rfl, hfolder, hname, hlast, hdots⟩ := of_place_eq_ok hplace
      dsimp only at h
      split at h
      · exact nomatch h
      · rename_i hnew
        obtain ⟨hslash, hnew⟩ := not_or.mp hnew
        exact ⟨folder, name, hlocate, hfolder, hname, hlast, hdots, Bool.eq_false_iff.mpr hslash,
          hnew, (Except.ok.inj h).symm⟩

/-- A file is taken away where its path leads. -/
theorem of_remove_eq_ok (h : store.remove path = .ok next) :
    ∃ location contents, store.locate path = .ok location
      ∧ store.file? location = some contents ∧ next = store.without location := by
  obtain ⟨place, hplace, h⟩ := bind_eq_ok.mp h
  cases place with
  | none => exact nomatch h
  | some location =>
      dsimp only at h
      split at h
      · exact nomatch h
      · exact nomatch h
      · rename_i contents hentry
        split at h
        · exact nomatch h
        · exact ⟨location, contents, (of_place_eq_ok hplace).1, file?_eq_some.mpr hentry,
            (Except.ok.inj h).symm⟩

/-- A directory is made where nothing is. -/
theorem of_makeFolder_eq_ok (h : store.makeFolder path = .ok next) :
    ∃ folder name, store.locate path = .ok (folder ++ [name])
      ∧ store.entry? folder = some .folder ∧ ProperName name
      ∧ store.entry? (folder ++ [name]) = none
      ∧ next = store.put (folder ++ [name]) .folder := by
  obtain ⟨place, hplace, h⟩ := bind_eq_ok.mp h
  cases place with
  | none => exact nomatch h
  | some location =>
      obtain ⟨hlocate, folder, name, rfl, hfolder, hname, -, -⟩ := of_place_eq_ok hplace
      dsimp only at h
      split at h
      · exact nomatch h
      · rename_i hnew
        exact ⟨folder, name, hlocate, hfolder, hname, by simpa using hnew, (Except.ok.inj h).symm⟩

/-! ## What the operations leave -/

/-- What is put over no directory leaves all directories. -/
theorem keepsFolders_put (hne : location ≠ []) (hnew : store.entry? location ≠ some .folder) :
    KeepsFolders store (store.put location entry) where
  workingFolder := rfl
  folders other hother := by
    have hother' : other ≠ location := fun heq => hnew (heq ▸ hother)
    rw [entry?_put hne, if_neg hother', hother]

/-- A file that is written is there, and no other changes. -/
theorem file?_put (hne : location ≠ []) (other : Location) :
    (store.put location (.file contents)).file? other
      = if other = location then some contents else store.file? other := by
  have hentry := @entry?_put store location (.file contents) hne other
  split
  · rename_i hother
    rw [if_pos hother] at hentry
    exact file?_eq_some.mpr hentry
  · rename_i hother
    rw [if_neg hother] at hentry
    exact file?_congr hentry

/-- A directory that is made where nothing is changes no file. -/
theorem file?_putFolder (hne : location ≠ []) (hnew : store.entry? location = none)
    (other : Location) : (store.put location .folder).file? other = store.file? other := by
  have hentry := @entry?_put store location .folder hne other
  split at hentry
  · rename_i hother
    rw [file?, file?, hentry, hother, hnew]
  · exact file?_congr hentry

/-- A location with a file is not the root. -/
theorem ne_nil_of_file? (h : store.file? location = some contents) : location ≠ [] := by
  rintro rfl
  exact nomatch file?_eq_some.mp h

/-- A file that is taken away is there no more, and no other changes. -/
theorem file?_without (h : store.file? location = some contents) (other : Location) :
    (store.without location).file? other = if other = location then none else store.file? other := by
  have hentry := @entry?_without store location (ne_nil_of_file? h) other
  split
  · rename_i hother
    rw [if_pos hother] at hentry
    rw [file?, hentry]
  · rename_i hother
    rw [if_neg hother] at hentry
    exact file?_congr hentry

/-- Taking a file away leaves the directories that there were. -/
theorem folder_without_iff (h : store.file? location = some contents) :
    Store.entry? (store.without location) other = some .folder ↔ store.entry? other = some .folder := by
  rw [entry?_without (ne_nil_of_file? h)]
  split
  · rename_i hother
    rw [hother, file?_eq_some.mp h]
    exact iff_of_false (by simp) (by simp)
  · exact Iff.rfl

/-! ## Files at several locations -/

/-- Two locations of one file: they are the same, or they have the same number. -/
def SameFile (store : Store) (location other : Location) : Prop :=
  other = location ∨ ∃ number, store.numbers.get? location = some number
    ∧ store.numbers.get? other = some number

theorem mem_shared : other ∈ store.shared location ↔ ∃ number,
    store.numbers.get? location = some number ∧ store.numbers.get? other = some number := by
  unfold shared
  cases hnumber : store.numbers.get? location with
  | none => simp
  | some number =>
      simp only [List.mem_map, List.mem_filter, decide_eq_true_eq, Option.some.injEq]
      constructor
      · rintro ⟨⟨_, _⟩, ⟨hmem, rfl⟩, rfl⟩
        exact ⟨_, rfl, SortedMap.get?_eq_some_iff.mpr hmem⟩
      · rintro ⟨_, rfl, hother⟩
        exact ⟨_, ⟨SortedMap.get?_eq_some_iff.mp hother, rfl⟩, rfl⟩

theorem sameFile_iff : store.SameFile location other
    ↔ other = location ∨ other ∈ store.shared location :=
  or_congr_right mem_shared.symm

instance (store : Store) (location other : Location) : Decidable (store.SameFile location other) :=
  decidable_of_iff' (other = location ∨ (store.shared location).contains other)
    (sameFile_iff.trans (or_congr_right List.contains_iff_mem.symm))

theorem SameFile.symm (h : store.SameFile location other) : store.SameFile other location :=
  h.imp Eq.symm fun ⟨number, hlocation, hother⟩ => ⟨number, hother, hlocation⟩

theorem SameFile.trans {third : Location} (h : store.SameFile location other)
    (h' : store.SameFile other third) : store.SameFile location third := by
  rcases h with rfl | ⟨number, hlocation, hother⟩
  · exact h'
  · rcases h' with rfl | ⟨number', hother', hthird⟩
    · exact .inr ⟨number, hlocation, hother⟩
    · obtain rfl := Option.some.inj (hother.symm.trans hother')
      exact .inr ⟨number, hlocation, hthird⟩

/-- What is written to a file is at all of its locations, and no other entry changes. -/
theorem get?_fill (other : Location) : (store.fill location contents).entries.get? other
    = if store.SameFile location other then some (.file contents)
      else store.entries.get? other := by
  show SortedMap.get? (List.foldl (fun entries place => entries.insert place (.file contents))
    (store.entries.insert location (.file contents)) (store.shared location)) other = _
  rw [SortedMap.get?_foldl_insert, SortedMap.get?_insert]
  by_cases hother : other = location
  · rw [if_pos hother, ite_self, if_pos (sameFile_iff.mpr (.inl hother))]
  · have hshared : other ∈ store.shared location ↔ store.SameFile location other :=
      (or_iff_right hother).symm.trans sameFile_iff.symm
    rw [if_neg hother]
    by_cases hsame : store.SameFile location other
    · rw [if_pos hsame, if_pos (hshared.mpr hsame)]
    · rw [if_neg hsame, if_neg (hsame ∘ hshared.mp)]

theorem entry?_fill (hne : other ≠ []) : Store.entry? (store.fill location contents) other
    = if store.SameFile location other then some (.file contents) else store.entry? other := by
  cases other with
  | nil => exact absurd rfl hne
  | cons first rest => exact get?_fill _

namespace Consistent

variable (h : store.Consistent)

include h

/-- A file is the same at all of its locations, and there at all of them. -/
theorem file?_eq (hfile : store.file? location = some contents)
    (hsame : store.SameFile location other) : store.file? other = some contents := by
  rcases hsame with rfl | ⟨number, hlocation, hother⟩
  · exact hfile
  · rw [← hfile]
    exact h.single _ (SortedMap.get?_eq_some_iff.mp hother) _
      (SortedMap.get?_eq_some_iff.mp hlocation) rfl

/-- A location that shares its file is that of a file. -/
theorem exists_file? {number : Nat} (hnumber : store.numbers.get? location = some number) :
    ∃ contents, store.file? location = some contents :=
  Option.isSome_iff_exists.mp (h.numbered _ (SortedMap.get?_eq_some_iff.mp hnumber))

/-- What is no directory shares its file with none. -/
theorem not_folder_of_sameFile (hnew : store.entry? location ≠ some .folder)
    (hsame : store.SameFile location other) : store.entry? other ≠ some .folder := by
  rcases hsame with rfl | ⟨number, -, hother⟩
  · exact hnew
  · obtain ⟨contents, hcontents⟩ := h.exists_file? hother
    rw [file?_eq_some.mp hcontents]
    simp

/-- Writing over no directory leaves all directories. -/
theorem keepsFolders_fill (hnew : store.entry? location ≠ some .folder) :
    KeepsFolders store (store.fill location contents) where
  workingFolder := rfl
  folders other hother := by
    by_cases hne : other = []
    · rw [hne]
      rfl
    · rw [entry?_fill hne, if_neg fun hsame => h.not_folder_of_sameFile hnew hsame hother]
      exact hother

/-- So writing leaves them wherever it succeeds. -/
theorem keepsFolders_of_write (hwrite : store.write path contents = .ok next) :
    store.KeepsFolders next := by
  obtain ⟨folder, name, -, -, -, -, -, -, hover, rfl⟩ := of_write_eq_ok hwrite
  exact h.keepsFolders_fill hover

/-- A file that is written is there at all of its locations, and no other changes. -/
theorem file?_fill (hnew : store.entry? location ≠ some .folder) (other : Location) :
    (store.fill location contents).file? other
      = if store.SameFile location other then some contents else store.file? other := by
  by_cases hne : other = []
  · -- the root is no file, and shares none
    subst hne
    have hnot : ¬ store.SameFile location [] := fun hsame =>
      h.not_folder_of_sameFile hnew hsame rfl
    rw [if_neg hnot]
    rfl
  · have hentry := @entry?_fill store location other contents hne
    split
    · rename_i hsame
      rw [if_pos hsame] at hentry
      exact file?_eq_some.mpr hentry
    · rename_i hsame
      rw [if_neg hsame] at hentry
      exact file?_congr hentry

/-- Writing into a directory, over no other directory, keeps a store consistent. -/
theorem fill (hfolder : store.entry? folder = some .folder) (hname : ProperName name)
    (hnew : store.entry? (folder ++ [name]) ≠ some .folder) :
    (store.fill (folder ++ [name]) contents).Consistent := by
  have hkeeps : store.KeepsFolders (store.fill (folder ++ [name]) contents) :=
    h.keepsFolders_fill hnew
  -- an entry is the new one or where an old one was
  have hold : ∀ e ∈ (store.fill (folder ++ [name]) contents).entries.entries,
      e.1 = folder ++ [name] ∨ ∃ entry, (e.1, entry) ∈ store.entries.entries := by
    intro e he
    have hget := SortedMap.get?_eq_some_iff.mpr he
    rw [get?_fill] at hget
    split at hget
    · rename_i hsame
      refine hsame.imp_right fun hshared => ?_
      obtain ⟨_, _, hnumber⟩ := hshared
      obtain ⟨found, hfound⟩ := h.exists_file? hnumber
      exact ⟨_, (entry?_eq_some (ne_nil_of_file? hfound)).mp (file?_eq_some.mp hfound)⟩
    · exact .inr ⟨e.2, SortedMap.get?_eq_some_iff.mp hget⟩
  refine ⟨⟨fun e he => ?_, fun e he => ?_⟩, fun e he => ?_, fun e he e' he' heq => ?_⟩
  · rcases hold e he with heq | ⟨entry, hentry⟩
    · rw [heq]
      exact ⟨concat_ne_nil folder name, List.forall_mem_append.mpr
        ⟨h.proper hfolder, List.forall_mem_singleton.mpr hname⟩⟩
    · exact h.named (e.1, entry) hentry
  · rcases hold e he with heq | ⟨entry, hentry⟩
    · rw [heq, List.dropLast_concat]
      exact hkeeps.folders _ hfolder
    · exact hkeeps.folders _ (h.rooted (e.1, entry) hentry)
  · rw [h.file?_fill hnew]
    split
    · rfl
    · exact h.numbered e he
  · rw [h.file?_fill hnew, h.file?_fill hnew]
    -- both locations share the file or none does
    have hshares : store.SameFile e.1 e'.1 := .inr ⟨e.2, SortedMap.get?_eq_some_iff.mpr he,
      heq ▸ SortedMap.get?_eq_some_iff.mpr he'⟩
    have hsame : store.SameFile (folder ++ [name]) e.1
        ↔ store.SameFile (folder ++ [name]) e'.1 :=
      ⟨fun h => h.trans hshares, fun h => h.trans hshares.symm⟩
    rw [if_congr hsame rfl rfl, h.single e he e' he' heq]

/-- Writing what a file holds already leaves the store as it is. -/
theorem fill_eq_self (hfile : store.file? location = some contents) :
    store.fill location contents = store := by
  have hentries : (store.fill location contents).entries = store.entries := by
    refine SortedMap.eq_of_get? fun other => ?_
    rw [get?_fill]
    split
    · rename_i hsame
      have hother := h.file?_eq hfile hsame
      exact (SortedMap.get?_eq_some_iff.mpr
        ((entry?_eq_some (ne_nil_of_file? hother)).mp (file?_eq_some.mp hother))).symm
    · rfl
  calc store.fill location contents
      = { store with entries := (store.fill location contents).entries } := rfl
    _ = store := by rw [hentries]

/-- So what has been written once can be written again as long as all directories stay. -/
theorem write_eq_self {before : Store} (hkeeps : before.KeepsFolders store)
    (hwrite : before.write path contents = .ok next) (hlocate : before.locate path = .ok location)
    (hfile : store.file? location = some contents) : store.write path contents = .ok store := by
  obtain ⟨place, hplace, hwrite⟩ := bind_eq_ok.mp hwrite
  cases place with
  | none => exact nomatch hwrite
  | some found =>
      obtain rfl := Except.ok.inj (hlocate.symm.trans (of_place_eq_ok hplace).1)
      refine bind_eq_ok.mpr ⟨some location, hkeeps.place hplace, ?_⟩
      dsimp only at hwrite ⊢
      have hslash : ¬ endsInSlash path = true := by
        intro hslash
        rw [if_pos (.inl hslash)] at hwrite
        exact nomatch hwrite
      have hnot : ¬ (endsInSlash path = true ∨ store.entry? location = some .folder) := by
        rw [file?_eq_some.mp hfile]
        exact fun hor => hor.elim hslash nofun
      rw [if_neg hnot, h.fill_eq_self hfile]

/-- So does making a directory where nothing is. -/
theorem putFolder (hfolder : store.entry? folder = some .folder) (hname : ProperName name)
    (hnew : store.entry? (folder ++ [name]) = none) :
    (store.put (folder ++ [name]) .folder).Consistent := by
  have hne := concat_ne_nil folder name
  refine ⟨h.toPlaced.put hfolder hname (hnew ▸ nofun), fun e he => ?_, fun e he e' he' heq => ?_⟩
  · rw [file?_putFolder hne hnew]
    exact h.numbered e he
  · rw [file?_putFolder hne hnew, file?_putFolder hne hnew]
    exact h.single e he e' he' heq

/-- And taking a file away. -/
theorem without (hfile : store.file? location = some contents) :
    (store.without location).Consistent := by
  have hkept : ∀ e ∈ (store.without location).numbers.entries,
      e ∈ store.numbers.entries ∧ (store.without location).file? e.1 = store.file? e.1 := by
    intro e he
    obtain ⟨hmem, hother⟩ := List.mem_filter.mp he
    exact ⟨hmem, (file?_without hfile e.1).trans (if_neg (of_decide_eq_true hother))⟩
  refine ⟨h.toPlaced.without hfile, fun e he => ?_, fun e he e' he' heq => ?_⟩
  · rw [(hkept e he).2]
    exact h.numbered e (hkept e he).1
  · rw [(hkept e he).2, (hkept e' he').2]
    exact h.single e (hkept e he).1 e' (hkept e' he').1 heq

end Consistent

/-! ## Files at one location -/

/-- Without numbers nothing is shared. -/
theorem WellFormed.unshared (h : store.WellFormed) (base : Location) : store.Unshared base where
  toConsistent := h.consistent
  alone location number hnumber := by
    rw [h.unlinked] at hnumber
    exact nomatch hnumber

/-- Where no files are none are shared. -/
theorem Consistent.unshared (h : store.Consistent)
    (hempty : ∀ names, store.file? (base ++ names) = none) : store.Unshared base where
  toConsistent := h
  alone location number hnumber := by
    rintro ⟨names, rfl⟩
    obtain ⟨contents, hcontents⟩ := h.exists_file? hnumber
    exact nomatch (hempty names).symm.trans hcontents

namespace Unshared

variable (h : store.Unshared base)

include h

/-- What is written to a file that is not shared is put at its location only. -/
theorem fill_eq_put (hbelow : base <+: location) :
    store.fill location contents = store.put location (.file contents) := by
  have hnumber : store.numbers.get? location = none :=
    Option.eq_none_iff_forall_ne_some.mpr fun number hnumber => h.alone _ _ hnumber hbelow
  rw [fill, shared, hnumber]
  rfl

/-- Nothing comes to be shared when a file is written, -/
theorem put (hfolder : store.entry? folder = some .folder) (hname : ProperName name)
    (hnew : store.entry? (folder ++ [name]) ≠ some .folder) (hbelow : base <+: folder ++ [name]) :
    (store.put (folder ++ [name]) (.file contents)).Unshared base where
  toConsistent := by
    rw [← h.fill_eq_put hbelow]
    exact h.fill hfolder hname hnew
  alone := h.alone

/-- nor when one is taken away. -/
theorem without (hfile : store.file? location = some contents) :
    (store.without location).Unshared base where
  toConsistent := h.toConsistent.without hfile
  alone other number hnumber := by
    refine h.alone other number ?_
    rw [Store.without, SortedMap.get?_erase] at hnumber
    split at hnumber
    · cases hnumber
    · exact hnumber

end Unshared

end Store

end Bindery
