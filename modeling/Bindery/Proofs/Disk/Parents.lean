import Bindery.Proofs.Disk.Files

/-! # Directories of paths — what is in front of the last name

    The directory of a path has the pieces in front of the last one, without the
    dots that they end in (`FilePath.exists_isParent`).  It starts where the path
    does and is shorter, so a system that takes the path takes it too. -/

namespace Bindery

namespace Text

/-- Pieces in front of others are joined to the beginning of a text. -/
theorem joinText_append {separator : Char} {front back : List String} (hfront : front ≠ [])
    (hback : back ≠ []) : (joinText separator (front ++ back)).toList
      = (joinText separator front).toList ++ separator :: (joinText separator back).toList := by
  simp only [joinText, String.toList_ofList]
  induction front with
  | nil => exact absurd rfl hfront
  | cons first front ih =>
      cases front with
      | nil =>
          cases back with
          | nil => exact absurd rfl hback
          | cons next rest => rfl
      | cons second front =>
          have hjoin := ih (List.cons_ne_nil _ _)
          show first.toList ++ separator :: joinAt separator
            ((second :: front ++ back).map String.toList) = _
          rw [hjoin, ← List.cons_append, ← List.append_assoc]
          rfl

/-- Pieces are joined to no empty text unless they are one empty piece. -/
theorem joinText_ne_empty {separator : Char} {pieces : List String}
    (h : ∀ piece ∈ pieces, separator ∉ piece.toList) (hsome : pieces ≠ []) (hne : pieces ≠ [""]) :
    joinText separator pieces ≠ "" := by
  intro hempty
  have hsplit := splitText_joinText h hsome
  rw [hempty] at hsplit
  exact hne hsplit.symm

end Text

namespace FilePath

variable {path : String} {pieces init : List String} {last : String}

/-- Whether a piece means nothing where it stands. -/
def isIdle (piece : String) : Bool := piece = "" || piece = "."

theorem stepOf?_eq_none {piece : String} : stepOf? piece = none ↔ isIdle piece = true := by
  unfold stepOf? isIdle
  by_cases hempty : piece = "" <;> by_cases hhere : piece = "." <;>
    by_cases habove : piece = ".." <;> simp_all

/-- Idle pieces are dropped at the end, but never all of them. -/
theorem exists_dropIdle (hne : pieces ≠ []) : ∃ kept idle, pieces = kept ++ idle
    ∧ dropIdle pieces.reverse = kept.reverse ∧ (∀ piece ∈ idle, isIdle piece = true)
    ∧ (kept.length = 1 ∨ ∃ init last, kept = init ++ [last] ∧ isIdle last = false) := by
  induction pieces using List.reverseRecOn with
  | nil => exact absurd rfl hne
  | append_singleton pieces last ih =>
      by_cases hpieces : pieces = []
      · subst hpieces
        exact ⟨[last], [], rfl, rfl, List.forall_mem_nil _, .inl rfl⟩
      · obtain ⟨second, rest, hrest⟩ := List.exists_cons_of_ne_nil (mt List.reverse_eq_nil_iff.mp hpieces)
        have hdrop : dropIdle (pieces ++ [last]).reverse
            = if stepOf? last = none then dropIdle pieces.reverse else last :: pieces.reverse := by
          rw [List.reverse_append, List.reverse_singleton, List.singleton_append, hrest]
          rfl
        by_cases hidle : isIdle last = true
        · obtain ⟨kept, idle, rfl, hkept, hall, hend⟩ := ih hpieces
          refine ⟨kept, idle ++ [last], List.append_assoc _ _ _, ?_,
            List.forall_mem_append.mpr ⟨hall, List.forall_mem_singleton.mpr hidle⟩, hend⟩
          rw [hdrop, if_pos (stepOf?_eq_none.mpr hidle), hkept]
        · refine ⟨pieces ++ [last], [], (List.append_nil _).symm, ?_, List.forall_mem_nil _,
            .inr ⟨pieces, last, rfl, Bool.eq_false_iff.mpr hidle⟩⟩
          rw [hdrop, if_neg (mt stepOf?_eq_none.mp hidle), List.reverse_append]
          rfl

/-- Idle pieces behind the last one that is not are dropped. -/
theorem dropIdle_append {idle rest : List String} (hidle : ∀ piece ∈ idle, isIdle piece = true)
    (hlast : isIdle last = false) : dropIdle (idle ++ last :: rest) = last :: rest := by
  induction idle with
  | nil =>
      cases rest with
      | nil => rfl
      | cons next rest =>
          have hstep : stepOf? last ≠ none := fun hnone =>
            Bool.eq_false_iff.mp hlast (stepOf?_eq_none.mp hnone)
          show (if stepOf? last = none then dropIdle (next :: rest) else last :: next :: rest) = _
          rw [if_neg hstep]
  | cons piece idle ih =>
      obtain ⟨hpiece, hidle⟩ := List.forall_mem_cons.mp hidle
      obtain ⟨next, others, hmore⟩ : ∃ next others, idle ++ last :: rest = next :: others :=
        List.exists_cons_of_ne_nil (List.append_ne_nil_of_right_ne_nil _ (List.cons_ne_nil _ _))
      have hdrop : dropIdle (piece :: (idle ++ last :: rest))
          = if stepOf? piece = none then dropIdle (idle ++ last :: rest)
            else piece :: (idle ++ last :: rest) := by
        rw [hmore]
        rfl
      rw [List.cons_append, hdrop, if_pos (stepOf?_eq_none.mpr hpiece), ih hidle]

/-- A path starts at the root when its first piece is empty and not the only one. -/
theorem isAbsolute_iff (path : String) : isAbsolute path = true
    ↔ (Text.splitText '/' path).head? = some "" ∧ (Text.splitText '/' path).length ≠ 1 := by
  unfold isAbsolute Text.splitText
  cases path.toList with
  | nil => exact iff_of_false Bool.false_ne_true fun h => h.2 rfl
  | cons c cs =>
      dsimp only
      rw [decide_eq_true_iff, Text.splitAt]
      by_cases hc : c = '/'
      · rw [if_pos hc]
        refine iff_of_true hc ⟨rfl, ?_⟩
        have hrest := List.length_pos_iff.mpr (Text.splitAt_ne_nil '/' cs)
        rw [List.length_map, List.length_cons]
        omega
      · rw [if_neg hc]
        have hfirst : ∀ piece : List Char, String.ofList (c :: piece) ≠ "" := fun piece hempty => by
          have hlists := congrArg String.toList hempty
          rw [String.toList_ofList] at hlists
          exact List.cons_ne_nil c piece hlists
        refine iff_of_false hc fun h => ?_
        split at h
        · exact hfirst _ (Option.some.inj h.1)
        · exact hfirst _ (Option.some.inj h.1)

/-- Behind the last piece of a path there are slashes only. -/
theorem exists_splitText (hpieces : Store.pieces path = init ++ [last]) : ∃ front idle,
    Text.splitText '/' path = front ++ last :: idle ∧ front.filter (· ≠ "") = init
      ∧ last ≠ "" ∧ ∀ piece ∈ idle, piece = "" := by
  obtain ⟨front, rest, hraw, rfl, hrest⟩ := List.filter_eq_append_iff.mp hpieces
  obtain ⟨gap, idle, rfl, hgap, hreal, hidle⟩ := List.filter_eq_cons_iff.mp hrest
  refine ⟨front ++ gap, idle, by rw [hraw, List.append_assoc], ?_, of_decide_eq_true hreal,
    fun piece hpiece => ?_⟩
  · rw [List.filter_append, List.filter_eq_nil_iff.mpr hgap, List.append_nil]
  · simpa using List.filter_eq_nil_iff.mp hidle piece hpiece

/-- The directory of a path is joined from the pieces in front of the last one, without the idle
    ones that these end in. -/
theorem exists_kept (hpieces : Store.pieces path = init ++ [last]) (hlast : last ≠ ".")
    (hfar : isAbsolute path = true ∨ init ≠ []) : ∃ kept dots idle,
      Text.splitText '/' path = kept ++ dots ++ last :: idle ∧ last ≠ ""
        ∧ init = (kept ++ dots).filter (· ≠ "") ∧ (∀ dot ∈ dots, isIdle dot = true)
        ∧ (kept.length = 1 ∨ ∃ init last, kept = init ++ [last] ∧ isIdle last = false)
        ∧ parent? path = if kept = [""] then some "/" else some (Text.joinText '/' kept) := by
  obtain ⟨front, idle, hraw, rfl, hnonempty, hidle⟩ := exists_splitText hpieces
  have hlastIdle : isIdle last = false := by
    rw [isIdle, decide_eq_false hnonempty, decide_eq_false hlast]
    rfl
  have hfront : front ≠ [] := by
    rintro rfl
    rcases hfar with habsolute | hinit
    · rw [isAbsolute_iff, hraw] at habsolute
      exact hnonempty (Option.some.inj habsolute.1)
    · exact hinit rfl
  have hdropped : dropIdle (Text.splitText '/' path).reverse = last :: front.reverse := by
    rw [hraw, List.reverse_append, List.reverse_cons, List.append_assoc, List.singleton_append]
    refine dropIdle_append (fun piece hpiece => ?_) hlastIdle
    rw [hidle piece (List.mem_reverse.mp hpiece)]
    rfl
  obtain ⟨kept, dots, rfl, hkept, hdots, hends⟩ := exists_dropIdle hfront
  refine ⟨kept, dots, idle, hraw, hnonempty, rfl, hdots, hends, ?_⟩
  obtain ⟨next, others, hmore⟩ := List.exists_cons_of_ne_nil (mt List.reverse_eq_nil_iff.mp hfront)
  unfold parent?
  rw [hdropped, hmore]
  dsimp only
  rw [← hmore, hkept]
  split
  · rename_i hroot
    rw [if_pos (show kept = [""] from List.reverse_eq_iff.mp hroot)]
  · rename_i hroot
    rw [if_neg (show kept ≠ [""] from fun heq => hroot (by rw [heq]; rfl)), List.reverse_reverse]

/-- What the directory of a path is. -/
structure IsParent (path above : String) (init : List String) : Prop where
  parent : parent? path = some above
  nonempty : above ≠ ""
  front : ∃ behind, behind ≠ "" ∧ path = above ++ behind
  absolute : isAbsolute above = isAbsolute path
  pieces : ∃ dots, init = Store.pieces above ++ dots ∧ ∀ dot ∈ dots, dot = "."
  ends : (Store.pieces above).length ≤ 1 ∨ (Store.pieces above).getLast? ≠ some "."

/-- Pieces that end in no idle one, unless they are only one, end in no dot. -/
theorem getLast?_filter_ne (h : pieces.length = 1
      ∨ ∃ init last, pieces = init ++ [last] ∧ isIdle last = false) :
    (pieces.filter (· ≠ "")).length ≤ 1 ∨ (pieces.filter (· ≠ "")).getLast? ≠ some "." := by
  rcases h with hone | ⟨init, final, rfl, hfinal⟩
  · exact .inl (hone ▸ List.length_filter_le _ _)
  · rw [isIdle, Bool.or_eq_false_iff, decide_eq_false_iff_not, decide_eq_false_iff_not] at hfinal
    refine .inr fun hdot => hfinal.2 ?_
    rw [List.filter_append, List.filter_cons_of_pos (by simpa using hfinal.1),
      List.filter_nil, List.getLast?_concat] at hdot
    exact Option.some.inj hdot

/-- An idle piece that is not empty is a dot. -/
theorem eq_dot_of_isIdle {piece : String} (hidle : isIdle piece = true) (hne : piece ≠ "") :
    piece = "." := by
  rw [isIdle, Bool.or_eq_true, decide_eq_true_iff, decide_eq_true_iff] at hidle
  exact hidle.resolve_left hne

section Cut

variable {kept others : List String}

/-- A path that is cut behind some pieces is these, joined, a slash, and the others, joined. -/
theorem eq_joinText (hraw : Text.splitText '/' path = kept ++ others) (hkept : kept ≠ [])
    (hothers : others ≠ []) :
    path = Text.joinText '/' kept ++ ("/" ++ Text.joinText '/' others) := by
  have hjoin := (Text.joinText_splitText '/' path).1
  rw [hraw] at hjoin
  rw [← String.toList_inj, String.toList_append, String.toList_append, ← hjoin,
    Text.joinText_append hkept hothers]
  rfl

/-- The pieces in front, joined, are split into the same again, -/
theorem splitText_joinText_front (hraw : Text.splitText '/' path = kept ++ others)
    (hkept : kept ≠ []) : Text.splitText '/' (Text.joinText '/' kept) = kept :=
  Text.splitText_joinText (fun piece hpiece => (Text.joinText_splitText '/' path).2 piece
    (hraw ▸ List.mem_append_left _ hpiece)) hkept

/-- and they start where the path does, unless the slash behind them is its first. -/
theorem isAbsolute_joinText (hraw : Text.splitText '/' path = kept ++ others) (hkept : kept ≠ [])
    (hothers : others ≠ []) (hroot : kept ≠ [""]) :
    isAbsolute (Text.joinText '/' kept) = isAbsolute path := by
  rw [Bool.eq_iff_iff, isAbsolute_iff, isAbsolute_iff, splitText_joinText_front hraw hkept, hraw,
    List.head?_append_of_ne_nil _ hkept]
  refine and_congr_right fun hhead => iff_of_true (fun hone => hroot ?_) ?_
  · obtain ⟨only, rfl⟩ := List.length_eq_one_iff.mp hone
    rw [Option.some.inj hhead]
  · have hfront := List.length_pos_iff.mpr hkept
    have hbehind := List.length_pos_iff.mpr hothers
    rw [List.length_append]
    omega

end Cut

/-- **THE DIRECTORY** of a path that has one has its pieces in front of the last. -/
theorem exists_isParent (hpieces : Store.pieces path = init ++ [last]) (hlast : last ≠ ".")
    (hfar : isAbsolute path = true ∨ init ≠ []) : ∃ above, IsParent path above init := by
  obtain ⟨kept, dots, idle, hraw, hnonempty, rfl, hdots, hends, hparent⟩ :=
    exists_kept hpieces hlast hfar
  rw [List.append_assoc] at hraw
  have hkept : kept ≠ [] := by
    rcases hends with hone | ⟨init, last, rfl, -⟩
    · exact List.length_pos_iff.mp (hone ▸ Nat.one_pos)
    · exact List.append_ne_nil_of_right_ne_nil _ (List.cons_ne_nil _ _)
  have hothers : dots ++ last :: idle ≠ [] :=
    List.append_ne_nil_of_right_ne_nil _ (List.cons_ne_nil _ _)
  have hpath := eq_joinText hraw hkept hothers
  have hdotted : ∀ dot ∈ dots.filter (· ≠ ""), dot = "." := by
    intro dot hdot
    obtain ⟨hmem, hne⟩ := List.mem_filter.mp hdot
    exact eq_dot_of_isIdle (hdots dot hmem) (of_decide_eq_true hne)
  have hunslashed : ∀ piece ∈ kept ++ (dots ++ last :: idle), '/' ∉ piece.toList :=
    hraw ▸ (Text.joinText_splitText '/' path).2
  obtain ⟨hkeptUnslashed, hothersUnslashed⟩ := List.forall_mem_append.mp hunslashed
  by_cases hroot : kept = [""]
  · -- everything in front of the last name is the slash at the start
    subst hroot
    rw [if_pos rfl] at hparent
    have hbehind : Text.joinText '/' (dots ++ last :: idle) ≠ "" :=
      Text.joinText_ne_empty hothersUnslashed hothers fun heq =>
        hnonempty (List.mem_singleton.mp (heq ▸ List.mem_append_right _ List.mem_cons_self))
    refine ⟨"/", hparent, by decide, ⟨_, hbehind, hpath.trans String.empty_append⟩, ?_,
      ⟨_, List.filter_append _ _, hdotted⟩, .inl (by decide)⟩
    refine ((isAbsolute_iff path).mpr ⟨?_, ?_⟩).symm
    · rw [hraw]
      rfl
    · rw [hraw]
      simp
  · rw [if_neg hroot] at hparent
    have hsplit := splitText_joinText_front hraw hkept
    refine ⟨_, hparent, Text.joinText_ne_empty hkeptUnslashed hkept hroot, ⟨_, ?_, hpath⟩,
      isAbsolute_joinText hraw hkept hothers hroot, ⟨_, ?_, hdotted⟩, ?_⟩
    · exact fun hempty => absurd (congrArg String.toList hempty) (by simp)
    · rw [List.filter_append, Store.pieces, hsplit]
    · rw [Store.pieces, hsplit]
      exact getLast?_filter_ne hends

namespace IsParent

variable {above : String}

/-- The directory of a path is shorter. -/
theorem length_lt (h : IsParent path above init) : above.length < path.length := by
  obtain ⟨behind, hbehind, rfl⟩ := h.front
  have hlength : behind.length ≠ 0 := fun hzero => hbehind (String.length_eq_zero_iff.mp hzero)
  rw [String.length_append]
  omega

/-- A system that takes a path takes that of its directory. -/
theorem checkPath (h : IsParent path above init) (hpath : Store.checkPath path = .ok ()) :
    Store.checkPath above = .ok () := by
  obtain ⟨behind, -, rfl⟩ := h.front
  obtain ⟨hnul, -, hshort⟩ := Store.checkPath_eq_ok.mp hpath
  rw [String.utf8ByteSize_append] at hshort
  refine Store.checkPath_eq_ok.mpr ⟨fun c hc => hnul c ?_, h.nonempty, by omega⟩
  rw [String.toList_append]
  exact List.mem_append_left _ hc

end IsParent

end FilePath

end Bindery
