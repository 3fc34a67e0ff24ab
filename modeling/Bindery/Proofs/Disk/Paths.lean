import Bindery.Proofs.Except
import Bindery.Proofs.Files.Paths
import Bindery.Store

/-! # Paths on a disk — the names that lead to a file

    A path is followed piece by piece.  An inner path has no step that leads
    above or to the root, so where it leads is told by its names alone, with at
    most a dot in front of them (`FilePath.steps_of_isInner`).  Behind a
    directory it has the pieces of both (`FilePath.pieces_join`), starts where
    the directory does and ends as it does by itself. -/

namespace Bindery

namespace Text

/-- A text is cut at a separator into what is in front of it and what is behind. -/
theorem splitAt_append_cons {separator : Char} (front back : List Char) :
    splitAt separator (front ++ separator :: back)
      = splitAt separator front ++ splitAt separator back := by
  induction front with
  | nil =>
      show splitAt separator (separator :: back) = [] :: splitAt separator back
      rw [splitAt, if_pos rfl]
  | cons c front ih =>
      show splitAt separator (c :: (front ++ separator :: back)) = splitAt separator (c :: front) ++ _
      rw [splitAt, splitAt, ih]
      by_cases hc : c = separator
      · rw [if_pos hc, if_pos hc]
        rfl
      · rw [if_neg hc, if_neg hc]
        cases hfront : splitAt separator front with
        | nil => exact absurd hfront (splitAt_ne_nil separator front)
        | cons piece pieces => rfl

/-- What is behind the last separator goes on with what is appended. -/
theorem exists_splitAt_append {separator : Char} {back : List Char} (hback : separator ∉ back)
    (front : List Char) : ∃ init last, splitAt separator front = init ++ [last]
      ∧ splitAt separator (front ++ back) = init ++ [last ++ back] := by
  induction front with
  | nil => exact ⟨[], [], rfl, splitAt_of_notMem hback⟩
  | cons c front ih =>
      obtain ⟨init, last, hfront, hwhole⟩ := ih
      rw [List.cons_append, splitAt, splitAt, hfront, hwhole]
      by_cases hc : c = separator
      · rw [if_pos hc, if_pos hc]
        exact ⟨[] :: init, last, rfl, rfl⟩
      · rw [if_neg hc, if_neg hc]
        cases init with
        | nil => exact ⟨[], c :: last, rfl, rfl⟩
        | cons first init => exact ⟨(c :: first) :: init, last, rfl, rfl⟩

end Text

namespace FilePath

/-- The name that a step goes to. -/
def Step.name? : Step → Option String
  | .name text => some text
  | _ => none

/-- The names on the way of a path. -/
def names (path : String) : List String := (steps path).filterMap Step.name?

/-- Whether a path begins with a dot, which says that it starts where it stands. -/
def startsHere (path : String) : Bool := (steps path).head? = some .here

variable {path directory name : String}

/-- A path has a step for each piece that means something, behind one for where it starts. -/
theorem exists_first (path : String) :
    ∃ first, steps path = first ++ (Text.splitText '/' path).filterMap stepOf?
      ∧ (first = [.root] ∨ first = [.here] ∨ first = []) := by
  unfold steps
  dsimp only
  split
  · exact ⟨_, rfl, .inl rfl⟩
  · exact ⟨_, rfl, .inr (.inl rfl)⟩
  · exact ⟨_, rfl, .inr (.inr rfl)⟩

/-- The pieces that mean something are the way up and names. -/
theorem stepOf?_eq_some {piece : String} {step : Step} (h : stepOf? piece = some step) :
    (step = .above ∧ piece = "..")
      ∨ (step = .name piece ∧ piece ≠ "" ∧ Store.isDots piece = false) := by
  unfold stepOf? at h
  split at h
  · exact nomatch h
  · rename_i hpiece
    obtain ⟨hempty, hhere⟩ := not_or.mp hpiece
    split at h
    · rename_i habove
      exact .inl ⟨(Option.some.inj h).symm, habove⟩
    · rename_i habove
      refine .inr ⟨(Option.some.inj h).symm, hempty, ?_⟩
      rw [Store.isDots, decide_eq_false hhere, decide_eq_false habove]
      rfl

/-- The names of a path are its pieces without dots. -/
theorem names_eq (path : String) : names path = (Store.pieces path).filter (!Store.isDots ·) := by
  have hpieces : ∀ pieces : List String, (pieces.filterMap stepOf?).filterMap Step.name?
      = (pieces.filter (· ≠ "")).filter (!Store.isDots ·) := by
    intro pieces
    rw [List.filterMap_filterMap, List.filter_filter, ← List.filterMap_eq_filter]
    refine List.filterMap_congr fun piece _ => ?_
    unfold stepOf? Store.isDots
    by_cases hempty : piece = "" <;> by_cases hhere : piece = "." <;>
      by_cases habove : piece = ".." <;> simp_all [Step.name?, Option.guard]
  obtain ⟨first, hsteps, hfirst⟩ := exists_first path
  rw [names, hsteps, List.filterMap_append, hpieces]
  rcases hfirst with rfl | rfl | rfl <;> rfl

/-- Pieces of a path have characters, but no slash. -/
theorem of_mem_pieces {piece : String} (h : piece ∈ Store.pieces path) :
    piece ≠ "" ∧ '/' ∉ piece.toList := by
  obtain ⟨hmem, hne⟩ := List.mem_filter.mp h
  exact ⟨of_decide_eq_true hne, (Text.joinText_splitText '/' path).2 piece hmem⟩

/-- A piece that stands for an entry is a name. -/
theorem ordinary_of_mem_pieces (h : name ∈ Store.pieces path) (hdots : Store.isDots name = false) :
    Ordinary name := by
  obtain ⟨hne, hslash⟩ := of_mem_pieces h
  rw [Store.isDots, Bool.or_eq_false_iff] at hdots
  exact ⟨hne, hslash, of_decide_eq_false hdots.1, of_decide_eq_false hdots.2⟩

/-- A name stands for an entry. -/
theorem Ordinary.isDots (h : Ordinary name) : Store.isDots name = false := by
  rw [Store.isDots, decide_eq_false h.notHere, decide_eq_false h.notAbove]
  rfl

/-- An inner path has no step to the root or above. -/
theorem not_of_isInner (h : isInner path = true) {step : Step} (hstep : step ∈ steps path) :
    step ≠ .root ∧ step ≠ .above := by
  have hinner := List.all_eq_true.mp (Bool.and_eq_true_iff.mp h).2 step hstep
  cases step with
  | root | above => exact absurd hinner Bool.false_ne_true
  | here | name => exact ⟨nofun, nofun⟩

/-- An inner path leads nowhere above. -/
theorem notMem_above (h : isInner path = true) : ".." ∉ Store.pieces path := by
  intro hmem
  obtain ⟨first, hsteps, -⟩ := exists_first path
  have hstep : Step.above ∈ steps path := by
    rw [hsteps]
    exact List.mem_append_right _ (List.mem_filterMap.mpr ⟨"..", (List.mem_filter.mp hmem).1, rfl⟩)
  exact (not_of_isInner h hstep).2 rfl

/-- An inner path does not start at the root. -/
theorem isAbsolute_of_isInner (h : isInner path = true) : isAbsolute path = false := by
  by_contra habsolute
  obtain ⟨cs, hcs⟩ : ∃ cs, path.toList = '/' :: cs := by
    unfold isAbsolute at habsolute
    cases hpath : path.toList with
    | nil => rw [hpath] at habsolute; exact absurd rfl habsolute
    | cons c cs =>
        rw [hpath, Bool.not_eq_false, decide_eq_true_eq] at habsolute
        exact ⟨cs, by rw [habsolute]⟩
  have hroot : Step.root ∈ steps path := by
    unfold steps
    rw [Text.splitText, hcs, Text.splitAt, if_pos rfl]
    cases hsplit : Text.splitAt '/' cs with
    | nil => exact absurd hsplit (Text.splitAt_ne_nil '/' cs)
    | cons piece pieces => exact List.mem_append_left _ List.mem_cons_self
  exact (not_of_isInner h hroot).1 rfl

/-- A path that does not start at the root has pieces. -/
theorem pieces_ne_nil_of_relative (hpath : path ≠ "") (habsolute : isAbsolute path = false) :
    Store.pieces path ≠ [] := by
  cases hlist : path.toList with
  | nil => exact absurd (String.toList_inj.mp hlist) hpath
  | cons c cs =>
      rw [isAbsolute, hlist, decide_eq_false_iff_not] at habsolute
      unfold Store.pieces Text.splitText
      rw [hlist, Text.splitAt, if_neg habsolute]
      have hfirst : ∀ piece : List Char, String.ofList (c :: piece) ≠ "" := by
        intro piece hempty
        have hlists := congrArg String.toList hempty
        rw [String.toList_ofList] at hlists
        cases hlists
      -- the first piece begins with what the path begins with
      split <;>
        exact List.ne_nil_of_mem
          (List.mem_filter.mpr ⟨List.mem_cons_self, decide_eq_true (hfirst _)⟩)

/-- An inner path has pieces. -/
theorem pieces_ne_nil (h : isInner path = true) : Store.pieces path ≠ [] :=
  pieces_ne_nil_of_relative (of_decide_eq_true (Bool.and_eq_true_iff.mp h).1)
    (isAbsolute_of_isInner h)

/-- **INNER PATHS** have their names for steps, behind a dot if they start with one. -/
theorem steps_of_isInner (h : isInner path = true) :
    steps path = (if startsHere path then [.here] else []) ++ (names path).map .name := by
  obtain ⟨first, hsteps, hfirst⟩ := exists_first path
  have hnames : ∀ ordered : List Step, (∀ step ∈ ordered, ∃ text, step = .name text) →
      (ordered.filterMap Step.name?).map .name = ordered := by
    intro ordered hall
    induction ordered with
    | nil => rfl
    | cons step ordered ih =>
        obtain ⟨⟨text, rfl⟩, htail⟩ := List.forall_mem_cons.mp hall
        exact congrArg (Step.name text :: ·) (ih htail)
  have hrest := hnames ((Text.splitText '/' path).filterMap stepOf?) fun step hstep => by
    obtain ⟨piece, -, hpiece⟩ := List.mem_filterMap.mp hstep
    rcases stepOf?_eq_some hpiece with ⟨rfl, -⟩ | ⟨rfl, -⟩
    · exact absurd rfl (not_of_isInner h (hsteps ▸ List.mem_append_right _ hstep)).2
    · exact ⟨piece, rfl⟩
  rw [names, startsHere, hsteps]
  generalize (Text.splitText '/' path).filterMap stepOf? = rest at hsteps hrest
  rcases hfirst with rfl | rfl | rfl
  · exact absurd rfl (not_of_isInner h (hsteps ▸ List.mem_cons_self)).1
  · exact congrArg (Step.here :: ·) hrest.symm
  · rw [List.nil_append, hrest, if_neg, List.nil_append]
    rw [← hrest]
    cases rest.filterMap Step.name? <;> simp

/-- A path that is spelled by names has them. -/
theorem Spells.names_path {ordered : List String} (h : Spells path ordered) :
    names path = ordered := by
  rw [names, h.steps, List.filterMap_map]
  exact List.filterMap_some

/-- A path that is spelled by names does not start with a dot. -/
theorem Spells.startsHere {ordered : List String} (h : Spells path ordered) :
    startsHere path = false := by
  rw [FilePath.startsHere, h.steps]
  cases ordered <;> rfl

/-- A path that is spelled by names is inner. -/
theorem Spells.isInner {ordered : List String} (h : Spells path ordered) (hne : ordered ≠ []) :
    isInner path = true := by
  have hpath : path ≠ "" := by
    rintro rfl
    exact hne (List.map_eq_nil_iff.mp h.steps.symm)
  rw [FilePath.isInner, h.steps, decide_eq_true hpath, Bool.true_and, List.all_eq_true]
  exact List.forall_mem_map.mpr fun _ _ => rfl

/-- An inner path is spelled by some names, if by any. -/
theorem Spells.ne_nil {ordered : List String} (h : Spells path ordered)
    (hinner : FilePath.isInner path = true) : ordered ≠ [] := by
  rintro rfl
  rw [h.text] at hinner
  exact absurd hinner Bool.false_ne_true

/-! ## Joined paths -/

/-- A path below a directory is behind a slash, which the directory may end in already. -/
theorem exists_join (hdirectory : directory ≠ "") (hpath : isAbsolute path = false) :
    ∃ front, (join directory path).toList = front ++ '/' :: path.toList
      ∧ (directory.toList = front ∨ directory.toList = front ++ ['/']) := by
  unfold join
  rw [hpath, if_neg (by simp [hdirectory])]
  split
  · rename_i hslash
    obtain ⟨front, hfront⟩ := List.getLast?_eq_some_iff.mp hslash
    refine ⟨front, ?_, .inr hfront⟩
    rw [String.toList_append, hfront, List.append_assoc]
    rfl
  · refine ⟨directory.toList, ?_, .inl rfl⟩
    rw [String.toList_append, String.toList_append, List.append_assoc]
    rfl

/-- The pieces of a path below a directory are those of both. -/
theorem pieces_join (hdirectory : directory ≠ "") (hpath : isAbsolute path = false) :
    Store.pieces (join directory path) = Store.pieces directory ++ Store.pieces path := by
  obtain ⟨front, hjoin, hfront⟩ := exists_join hdirectory hpath
  unfold Store.pieces Text.splitText
  rw [hjoin, Text.splitAt_append_cons, List.map_append, List.filter_append]
  rcases hfront with hfront | hfront
  · rw [hfront]
  · -- nothing is behind the last slash
    rw [hfront, Text.splitAt_append_cons, List.map_append, List.filter_append]
    exact congrArg (· ++ _) (List.append_nil _).symm

/-- The last piece of a path below a directory is its own. -/
theorem getLast?_pieces_join (hdirectory : directory ≠ "") (h : isInner path = true) :
    (Store.pieces (join directory path)).getLast? = (Store.pieces path).getLast? := by
  rw [pieces_join hdirectory (isAbsolute_of_isInner h), List.getLast?_append,
    List.getLast?_eq_some_getLast (pieces_ne_nil h)]
  rfl

/-- A path below a directory starts where that does. -/
theorem isAbsolute_join (hdirectory : directory ≠ "") (hpath : isAbsolute path = false) :
    isAbsolute (join directory path) = isAbsolute directory := by
  obtain ⟨front, hjoin, hfront⟩ := exists_join hdirectory hpath
  unfold isAbsolute
  rw [hjoin]
  cases front with
  | nil =>
      rcases hfront with hfront | hfront
      · exact absurd (String.toList_inj.mp hfront) hdirectory
      · rw [hfront]
        rfl
  | cons c front => rcases hfront with hfront | hfront <;> rw [hfront] <;> rfl

/-- A path below a directory ends as it does by itself. -/
theorem endsInSlash_join (hdirectory : directory ≠ "") (hpath : isAbsolute path = false)
    (hne : path ≠ "") : Store.endsInSlash (join directory path) = Store.endsInSlash path := by
  obtain ⟨front, hjoin, -⟩ := exists_join hdirectory hpath
  have hlist : path.toList ≠ [] := fun hnil => hne (String.toList_inj.mp hnil)
  rw [Store.endsInSlash, Store.endsInSlash, hjoin, List.getLast?_append, List.getLast?_cons,
    List.getLast?_eq_some_getLast hlist]
  rfl

end FilePath

end Bindery
