import Bindery.FilePath
import Mathlib.Data.List.Basic

/-! # Spelled paths — files told apart by names

    A path of ordinary names, none of them empty, with a slash or a step of dots,
    is spelled by these names (`Spells`): its steps are the names in order
    (`Spells.steps`), and the path of a name in the directory is spelled by one
    name more (`Spells.join`).  So two spelled paths lead to one file exactly when
    they are spelled by the same names. -/

namespace Bindery

namespace Text

variable {separator : Char}

/-- A text without separators is one piece. -/
theorem splitAt_of_notMem {cs : List Char} (h : separator ∉ cs) : splitAt separator cs = [cs] := by
  induction cs with
  | nil => rfl
  | cons c cs ih =>
      have hc : c ≠ separator := (List.ne_of_not_mem_cons h).symm
      rw [splitAt, if_neg hc, ih (List.not_mem_of_not_mem_cons h)]

/-- What is in front of the first separator is the first piece. -/
theorem splitAt_append {piece : List Char} (h : separator ∉ piece) (rest : List Char) :
    splitAt separator (piece ++ separator :: rest) = piece :: splitAt separator rest := by
  induction piece with
  | nil =>
      show splitAt separator (separator :: rest) = _
      rw [splitAt, if_pos rfl]
  | cons c piece ih =>
      have hc : c ≠ separator := (List.ne_of_not_mem_cons h).symm
      show splitAt separator (c :: (piece ++ separator :: rest)) = _
      rw [splitAt, if_neg hc, ih (List.not_mem_of_not_mem_cons h)]

/-- Pieces without separators are what the joined text is split into. -/
theorem splitAt_joinAt : ∀ {pieces : List (List Char)}, (∀ piece ∈ pieces, separator ∉ piece) →
    pieces ≠ [] → splitAt separator (joinAt separator pieces) = pieces := by
  intro pieces
  induction pieces with
  | nil => intro _ hne; exact absurd rfl hne
  | cons piece pieces ih =>
      intro h _
      obtain ⟨hpiece, hpieces⟩ := List.forall_mem_cons.mp h
      cases pieces with
      | nil => exact splitAt_of_notMem hpiece
      | cons next rest =>
          show splitAt separator (piece ++ separator :: joinAt separator (next :: rest)) = _
          rw [splitAt_append hpiece, ih hpieces (List.cons_ne_nil next rest)]

/-- The same of texts. -/
theorem splitText_joinText {pieces : List String} (h : ∀ piece ∈ pieces, separator ∉ piece.toList)
    (hne : pieces ≠ []) : splitText separator (joinText separator pieces) = pieces := by
  rw [splitText, joinText, String.toList_ofList, splitAt_joinAt, List.map_map]
  · exact (List.map_congr_left fun _ _ => String.ofList_toList).trans (List.map_id _)
  · exact List.forall_mem_map.mpr h
  · exact mt List.map_eq_nil_iff.mp hne

/-- No piece of a text has a separator. -/
theorem notMem_of_mem_splitAt {piece cs : List Char} (h : piece ∈ splitAt separator cs) :
    separator ∉ piece := by
  induction cs generalizing piece with
  | nil => exact List.mem_singleton.mp h ▸ List.not_mem_nil
  | cons c cs ih =>
      rw [splitAt] at h
      split at h
      · rcases List.mem_cons.mp h with rfl | h
        · exact List.not_mem_nil
        · exact ih h
      · rename_i hc
        split at h
        · exact List.mem_singleton.mp h ▸ List.not_mem_cons_of_ne_of_not_mem (Ne.symm hc)
            List.not_mem_nil
        · rename_i first rest hsplit
          rcases List.mem_cons.mp h with rfl | h
          · exact List.not_mem_cons_of_ne_of_not_mem (Ne.symm hc)
              (ih (hsplit ▸ List.mem_cons_self))
          · exact ih (hsplit ▸ List.mem_cons_of_mem _ h)

/-- The pieces of a text are joined to it, and none of them has a separator. -/
theorem joinText_splitText (separator : Char) (text : String) :
    joinText separator (splitText separator text) = text
      ∧ ∀ piece ∈ splitText separator text, separator ∉ piece.toList := by
  refine ⟨?_, List.forall_mem_map.mpr fun piece hpiece => ?_⟩
  · have hpieces : (splitText separator text).map String.toList = splitAt separator text.toList := by
      rw [splitText, List.map_map]
      exact (List.map_congr_left fun _ _ => String.toList_ofList).trans (List.map_id _)
    rw [joinText, hpieces, joinAt_splitAt, String.ofList_toList]
  · rw [String.toList_ofList]
    exact notMem_of_mem_splitAt hpiece

/-- A piece is joined behind others with a separator. -/
theorem joinAt_concat (piece : List Char) : ∀ {pieces : List (List Char)}, pieces ≠ [] →
    joinAt separator (pieces ++ [piece]) = joinAt separator pieces ++ separator :: piece := by
  intro pieces
  induction pieces with
  | nil => intro hne; exact absurd rfl hne
  | cons first pieces ih =>
      intro _
      cases pieces with
      | nil => rfl
      | cons next rest =>
          show first ++ separator :: joinAt separator (next :: rest ++ [piece])
            = (first ++ separator :: joinAt separator (next :: rest)) ++ separator :: piece
          rw [ih (List.cons_ne_nil next rest), List.append_assoc, List.cons_append]

/-- Joined pieces end as the last of them does. -/
theorem getLast?_joinAt_concat {piece : List Char} (hpiece : piece ≠ [])
    (pieces : List (List Char)) :
    (joinAt separator (pieces ++ [piece])).getLast? = piece.getLast? := by
  cases pieces with
  | nil => rfl
  | cons first rest =>
      rw [joinAt_concat piece (List.cons_ne_nil first rest), List.getLast?_append,
        List.getLast?_cons, List.getLast?_eq_some_getLast hpiece]
      rfl

end Text

namespace FilePath

/-- A name of a file or directory: some text without slashes that is no step of dots. -/
structure Ordinary (name : String) : Prop where
  nonempty : name ≠ ""
  unslashed : '/' ∉ name.toList
  notHere : name ≠ "."
  notAbove : name ≠ ".."

/-- A path that is spelled by the names on the way, from the directory that it starts in. -/
structure Spells (path : String) (names : List String) : Prop where
  text : path = Text.joinText '/' names
  ordinary : ∀ name ∈ names, Ordinary name

variable {path directory name : String} {names : List String}

/-- No names spell the directory itself. -/
theorem spells_nil : Spells "" [] := ⟨rfl, fun _ h => (nomatch h)⟩

/-- A name spells itself. -/
theorem Ordinary.spells (h : Ordinary name) : Spells name [name] :=
  ⟨String.ofList_toList.symm, List.forall_mem_singleton.mpr h⟩

/-- A name has the step of that name. -/
theorem Ordinary.stepOf? (h : Ordinary name) : stepOf? name = some (.name name) := by
  unfold FilePath.stepOf?
  rw [if_neg (not_or.mpr ⟨h.nonempty, h.notHere⟩), if_neg h.notAbove]

/-- **THE STEPS OF A PATH** are the names that spell it. -/
theorem Spells.steps (h : Spells path names) : steps path = names.map .name := by
  obtain ⟨rfl, hordinary⟩ := h
  cases names with
  | nil => rfl
  | cons first rest =>
      have hpieces : Text.splitText '/' (Text.joinText '/' (first :: rest)) = first :: rest :=
        Text.splitText_joinText (fun name hmem => (hordinary name hmem).unslashed)
          (List.cons_ne_nil _ _)
      have hfirst := hordinary first List.mem_cons_self
      have hnames : (first :: rest).filterMap FilePath.stepOf? = (first :: rest).map .name := by
        rw [← List.filterMap_eq_map]
        exact List.filterMap_congr fun name hmem => (hordinary name hmem).stepOf?
      -- the path starts with a name, so neither at the root nor where it stands
      simp only [FilePath.steps, hpieces, hnames]
      split
      · rename_i heq
        exact absurd (List.cons.inj heq).1 hfirst.nonempty
      · rename_i heq
        exact absurd (List.cons.inj heq).1 hfirst.notHere
      · rfl

/-- A path is spelled by no other names. -/
theorem Spells.names_eq {other : List String} (h : Spells path names) (h' : Spells path other) :
    names = other := by
  have hsteps : names.map Step.name = other.map Step.name := h.steps.symm.trans h'.steps
  exact List.map_injective_iff.mpr (fun _ _ heq => Step.name.inj heq) hsteps

/-- A name has characters. -/
theorem Ordinary.toList_ne_nil (h : Ordinary name) : name.toList ≠ [] := fun hnil =>
  h.nonempty (String.toList_inj.mp hnil)

/-- A spelled path ends in no slash. -/
theorem Spells.getLast?_ne (h : Spells path names) : path.toList.getLast? ≠ some '/' := by
  obtain ⟨rfl, hordinary⟩ := h
  rw [Text.joinText, String.toList_ofList]
  rcases List.eq_nil_or_concat' names with rfl | ⟨init, last, rfl⟩
  · exact fun h => (nomatch h)
  · have hlast := hordinary last (List.mem_append_right init List.mem_cons_self)
    rw [List.map_append, List.map_singleton, Text.getLast?_joinAt_concat hlast.toList_ne_nil]
    exact fun hslash => hlast.unslashed (List.mem_of_getLast? hslash)

/-- A name is the path of what it names. -/
theorem Ordinary.isAbsolute (h : Ordinary name) : isAbsolute name = false := by
  unfold FilePath.isAbsolute
  have hunslashed := h.unslashed
  cases hname : name.toList with
  | nil => rfl
  | cons c cs =>
      rw [hname] at hunslashed
      exact decide_eq_false (List.ne_of_not_mem_cons hunslashed).symm

/-- A path below a spelled directory is spelled by one name more. -/
theorem Spells.join (h : Spells directory names) (hname : Ordinary name) :
    Spells (join directory name) (names ++ [name]) := by
  have hslash := h.getLast?_ne
  have hsteps := h.steps
  obtain ⟨rfl, hordinary⟩ := h
  refine ⟨?_, List.forall_mem_append.mpr ⟨hordinary, List.forall_mem_singleton.mpr hname⟩⟩
  unfold FilePath.join
  cases names with
  | nil =>
      rw [if_pos (.inr rfl)]
      exact String.ofList_toList.symm
  | cons first rest =>
      have hne : Text.joinText '/' (first :: rest) ≠ "" := by
        intro hempty
        rw [hempty] at hsteps
        exact nomatch hsteps
      have hbelow : ¬ (isAbsolute name = true ∨ Text.joinText '/' (first :: rest) = "") := by
        rw [hname.isAbsolute]
        exact not_or.mpr ⟨Bool.false_ne_true, hne⟩
      have hpieces : (first :: rest).map String.toList ≠ [] := List.cons_ne_nil _ _
      rw [if_neg hbelow, if_neg hslash, ← String.toList_inj, String.toList_append,
        String.toList_append, Text.joinText, Text.joinText, String.toList_ofList,
        String.toList_ofList, List.map_append, List.map_singleton,
        Text.joinAt_concat _ hpieces, List.append_assoc, String.toList_ofList]
      rfl

end FilePath

end Bindery
