import Bindery.Proofs.Words

/-! # Two camel cases — names for which they agree

    Camel case by words starts a word between a lower-case and an upper-case letter
    and before the last capital of a run; the compact one, made in one pass, starts
    a word behind a digit and not within a run of capitals.  So they differ on
    names such as `NFTVault` or `Lane3d`.

    A text of ASCII is cut alike where no letter follows a digit and no lower-case
    letter two capitals (`CutsAlike`); the two camel cases of such a name are one
    (`camelCase_eq_compactCamelCase`).  The induction walks both at once, for a text
    where a word starts (`StartsAlike`) and for one within a word, of which `cut`
    has read all so far and the one pass the last character (`GoesOnAlike`). -/

namespace Bindery.Text

/-- Behind a digit stands no letter, and behind two capitals no lower-case letter. -/
def cutsAlike : List Char → Bool
  | c :: next :: rest =>
    !(isAsciiDigit c && isAsciiLetter next)
      && !(isAsciiUpper c && isAsciiUpper next && rest.head?.any isAsciiLower)
      && cutsAlike (next :: rest)
  | _ => true

/-- A name of ASCII characters that both camel cases cut at the same places. -/
structure CutsAlike (name : String) : Prop where
  ascii : ∀ c ∈ name.toList, isAscii c = true
  alike : cutsAlike name.toList = true

/-- Whether a name is cut alike can be computed. -/
instance decidableCutsAlike (name : String) : Decidable (CutsAlike name) :=
  decidable_of_iff (name.toList.all isAscii = true ∧ cutsAlike name.toList = true)
    ⟨fun ⟨hascii, halike⟩ => ⟨List.all_eq_true.mp hascii, halike⟩,
      fun h => ⟨List.all_eq_true.mpr h.ascii, h.alike⟩⟩

variable {c next : Char} {rest word : List Char} {started : Bool}

/-- What is cut alike is so behind its first character. -/
theorem cutsAlike_tail (h : cutsAlike (c :: rest) = true) : cutsAlike rest = true := by
  cases rest with
  | nil => rfl
  | cons next rest => exact (Bool.and_eq_true_iff.mp h).2

/-! ## Characters -/

/-- A letter or number of ASCII is a digit, a small letter or a capital, and one of these only. -/
theorem ascii_cases (hascii : isAscii c = true) (hc : isAlphanumeric c = true) :
    (isAsciiDigit c = true ∧ isAsciiLower c = false ∧ isAsciiUpper c = false)
      ∨ (isAsciiDigit c = false ∧ isAsciiLower c = true ∧ isAsciiUpper c = false)
      ∨ (isAsciiDigit c = false ∧ isAsciiLower c = false ∧ isAsciiUpper c = true) := by
  rw [isAlphanumeric, if_pos hascii] at hc
  simp only [isAsciiAlphanumeric, isAsciiDigit, isAsciiLower, isAsciiUpper, Bool.or_eq_true,
    Bool.and_eq_true, decide_eq_true_eq, Bool.and_eq_false_imp, decide_eq_false_iff_not] at hc ⊢
  omega

/-- A digit is the same in upper and in lower case. -/
theorem toUpper_eq_toLower (hascii : isAscii c = true) (hlower : isAsciiLower c = false)
    (hupper : isAsciiUpper c = false) : toUpper c = toLower c := by
  rw [toUpper, toLower, if_pos hascii, if_pos hascii, hlower, hupper]
  rfl

namespace Words

/-- A word of ASCII in lower case has its characters in lower case. -/
theorem lower_eq_flatMap (h : ∀ c ∈ word, isAscii c = true) :
    lower word = word.flatMap toLower := by
  induction word with
  | nil => rfl
  | cons first word ih =>
      obtain ⟨hfirst, hword⟩ := List.forall_mem_cons.mp h
      have hsigma : first ≠ 'Σ' := by
        rintro rfl
        exact absurd hfirst (by decide)
      cases word with
      | nil => rw [lower, if_neg hsigma, List.flatMap_singleton]
      | cons next rest =>
          have hlower : lower (first :: next :: rest) = toLower first ++ lower (next :: rest) := by
            rw [lower]
            exact List.cons_ne_nil _ _
          rw [hlower, ih hword, ← List.flatMap_cons]

/-- A word in camel case, behind other words or in front of all. -/
def cased (started : Bool) (word : List Char) : List Char :=
  if started then capitalized word else lower word

/-- Words in camel case, behind others or at the start of a name. -/
def camel (started : Bool) : List (List Char) → List Char
  | [] => []
  | first :: rest => cased started first ++ rest.flatMap capitalized

/-- Behind a word all words are capitalized. -/
theorem camel_cons (first : List Char) (words : List (List Char)) :
    camel started (first :: words) = cased started first ++ camel true words := by
  cases words with
  | nil => rfl
  | cons next words => rfl

/-- A word goes on in lower case. -/
theorem cased_concat (h : ∀ d ∈ word, isAscii d = true) (hc : isAscii c = true) (hne : word ≠ []) :
    cased started (word ++ [c]) = cased started word ++ toLower c := by
  obtain ⟨first, word, rfl⟩ := List.exists_cons_of_ne_nil hne
  have hword := (List.forall_mem_cons.mp h).2
  cases started with
  | true =>
      show toUpper first ++ lower (word ++ [c]) = toUpper first ++ lower word ++ toLower c
      rw [lower_eq_flatMap hword, lower_eq_flatMap (List.forall_mem_append.mpr
        ⟨hword, List.forall_mem_singleton.mpr hc⟩), List.flatMap_append, List.flatMap_singleton,
        List.append_assoc]
  | false =>
      show lower (first :: word ++ [c]) = lower (first :: word) ++ toLower c
      rw [lower_eq_flatMap h, lower_eq_flatMap (List.forall_mem_append.mpr
        ⟨h, List.forall_mem_singleton.mpr hc⟩), List.flatMap_append, List.flatMap_singleton]

/-! ## Words in one pass -/

/-- The words of a text that a word so far stands in front of. -/
def cutFrom (mode : Mode) (word cs : List Char) : List (List Char) :=
  match pieces cs with
  | [] => []
  | piece :: pieces => cut mode word piece ++ pieces.flatMap (cut .boundary [])

/-- The words of a text, from its start. -/
theorem flatMap_pieces (cs : List Char) :
    (pieces cs).flatMap (cut .boundary []) = cutFrom .boundary [] cs := by
  unfold cutFrom
  cases pieces cs with
  | nil => rfl
  | cons piece pieces => rfl

/-- What starts with a letter or number has a piece that does. -/
theorem exists_pieces_cons (hc : isAlphanumeric c = true) (rest : List Char) :
    ∃ piece others, pieces (c :: rest) = (c :: piece) :: others := by
  rw [pieces, if_pos hc]
  cases pieces rest with
  | nil => exact ⟨[], [], rfl⟩
  | cons piece others => exact ⟨piece, others, rfl⟩

variable {mode : Mode}

/-- What separates words belongs to none. -/
theorem cutFrom_separator (hc : isAlphanumeric c = false) (rest : List Char) :
    cutFrom .boundary [] (c :: rest) = cutFrom .boundary [] rest := by
  rw [← flatMap_pieces, ← flatMap_pieces, pieces, if_neg (by rw [hc]; exact Bool.false_ne_true)]
  rfl

/-- The last letter or number ends a word. -/
theorem cutFrom_last (hc : isAlphanumeric c = true) :
    cutFrom mode word [c] = [(c :: word).reverse] := by
  have hpieces : pieces [c] = [[c]] := by
    rw [pieces, if_pos hc]
    rfl
  rw [cutFrom, hpieces]
  rfl

/-- So does one in front of a separator. -/
theorem cutFrom_before (hc : isAlphanumeric c = true) (hnext : isAlphanumeric next = false) :
    cutFrom mode word (c :: next :: rest)
      = (c :: word).reverse :: cutFrom .boundary [] (next :: rest) := by
  have hpieces : pieces (c :: next :: rest) = [c] :: pieces rest := by
    rw [pieces, if_pos hc, pieces, if_neg (by rw [hnext]; exact Bool.false_ne_true)]
  rw [cutFrom_separator hnext, cutFrom, hpieces, ← flatMap_pieces]
  rfl

/-- Between two of them the word ends, ended before the first one, or goes on. -/
theorem cutFrom_between (hc : isAlphanumeric c = true) (hnext : isAlphanumeric next = true) :
    cutFrom mode word (c :: next :: rest)
      = if mode.after c = .lower ∧ isUpper next then
          (c :: word).reverse :: cutFrom .boundary [] (next :: rest)
        else if mode = .upper ∧ isUpper c ∧ isLower next then
          word.reverse :: cutFrom .boundary [c] (next :: rest)
        else cutFrom (mode.after c) (c :: word) (next :: rest) := by
  obtain ⟨piece, others, hpieces⟩ := exists_pieces_cons hnext rest
  have hboth : pieces (c :: next :: rest) = (c :: next :: piece) :: others := by
    rw [pieces, if_pos hc, hpieces]
  simp only [cutFrom, hboth, hpieces, cut]
  split
  · rfl
  · split
    · rfl
    · rfl

/-- One pass drops what separates words. -/
theorem compactCamel_separator (hc : isAlphanumeric c = false) (last : Option Char) :
    compactCamel started last (c :: rest) = compactCamel started none (c :: rest) := by
  simp only [compactCamel, hc]
  rfl

/-- One pass starts a word where nothing precedes. -/
theorem compactCamel_start (hascii : isAscii c = true) (hc : isAlphanumeric c = true) :
    compactCamel started none (c :: rest)
      = cased started [c] ++ compactCamel true (some c) rest := by
  have hlower : lower [c] = toLower c := by
    rw [lower_eq_flatMap (List.forall_mem_singleton.mpr hascii), List.flatMap_singleton]
  have hcased : cased started [c] = if started then toUpper c else toLower c := by
    cases started with
    | true => exact List.append_nil _
    | false => exact hlower
  simp only [compactCamel, hc, hcased, Bool.not_true, Bool.true_and]
  rfl

/-- **ONE STEP OF BOTH**: between two letters or numbers of a text that is cut alike, either both
    start a word or neither does. -/
theorem cutFrom_step (hascii : isAscii c = true) (hascii' : isAscii next = true)
    (hc : isAlphanumeric c = true) (hnext : isAlphanumeric next = true)
    (halike : cutsAlike (c :: next :: rest) = true)
    (hcapital : mode = .upper → isAsciiUpper c = true → isAsciiLower next = false) :
    (cutFrom mode word (c :: next :: rest)
          = (c :: word).reverse :: cutFrom .boundary [] (next :: rest)
        ∧ compactCamel true (some c) (next :: rest) = compactCamel true none (next :: rest))
      ∨ (cutFrom mode word (c :: next :: rest) = cutFrom (mode.after c) (c :: word) (next :: rest)
        ∧ compactCamel true (some c) (next :: rest)
            = toLower next ++ compactCamel true (some next) rest
        ∧ (mode.after c = .upper → isAsciiUpper next = true →
            rest.head?.any isAsciiLower = false)) := by
  have hlower : isLower c = isAsciiLower c := if_pos hascii
  have hupper : isUpper c = isAsciiUpper c := if_pos hascii
  have hdigit : isNumeric c = isAsciiDigit c := if_pos hascii
  have hlower' : isLower next = isAsciiLower next := if_pos hascii'
  have hupper' : isUpper next = isAsciiUpper next := if_pos hascii'
  obtain ⟨hstep, -⟩ := Bool.and_eq_true_iff.mp halike
  obtain ⟨hletter, hcapitals⟩ := Bool.and_eq_true_iff.mp hstep
  simp only [Bool.not_eq_true', Bool.and_eq_false_imp, isAsciiLetter, Bool.or_eq_false_iff,
    Bool.and_eq_true, and_imp] at hletter hcapitals
  rw [cutFrom_between hc hnext]
  rcases ascii_cases hascii hc with ⟨hd, hl, hu⟩ | ⟨hd, hl, hu⟩ | ⟨hd, hl, hu⟩
  · -- behind a digit stands a digit
    obtain ⟨hl', hu'⟩ := hletter hd
    refine .inr ⟨?_, ?_, fun _ h => absurd (hu'.symm.trans h) Bool.false_ne_true⟩
    · simp [hupper, hupper', hu, hu']
    · simp [compactCamel, hnext, hdigit, hd, toUpper_eq_toLower hascii' hl' hu']
  · -- behind a small letter a word starts with a capital
    cases hu' : isAsciiUpper next with
    | true =>
        refine .inl ⟨?_, ?_⟩
        · simp [Mode.after, hlower, hl, hupper', hu']
        · simp [compactCamel, hnext, hlower, hl, hupper', hu']
    | false =>
        refine .inr ⟨?_, ?_, fun _ h => absurd h Bool.false_ne_true⟩
        · simp [hupper, hupper', hu, hu']
        · simp [compactCamel, hnext, hdigit, hd, hupper', hu']
  · -- behind a capital none does, since no small letter follows a second one
    refine .inr ⟨?_, ?_, fun _ => hcapitals hu⟩
    · have hafter : mode.after c = .upper := by simp [Mode.after, hlower, hupper, hl, hu]
      have hsecond : ¬ (mode = .upper ∧ isUpper c = true ∧ isLower next = true) := by
        rintro ⟨hmode, -, hsmall⟩
        rw [hlower', hcapital hmode hu] at hsmall
        exact absurd hsmall Bool.false_ne_true
      rw [if_neg (by rw [hafter]; exact fun h => Mode.noConfusion h.1), if_neg hsecond]
    · simp [compactCamel, hnext, hdigit, hd, hlower, hl]

/-- Where a word starts, the words of a text in camel case are one pass over it. -/
def StartsAlike (cs : List Char) : Prop :=
  ∀ started, camel started (cutFrom .boundary [] cs) = compactCamel started none cs

/-- Within a word, of which a last character is read, they are the word and one pass over what
    is behind it. -/
def GoesOnAlike (c : Char) (rest : List Char) : Prop :=
  ∀ (started : Bool) {mode : Mode} {word : List Char}, isAlphanumeric c = true →
    (∀ d ∈ word, isAscii d = true) →
    (mode = .upper → isAsciiUpper c = true → rest.head?.any isAsciiLower = false) →
    camel started (cutFrom mode word (c :: rest))
      = cased started (c :: word).reverse ++ compactCamel true (some c) rest

/-- A word goes on alike if what is behind its last character does, and starts alike. -/
theorem goesOnAlike_cons (hascii : ∀ d ∈ c :: next :: rest, isAscii d = true)
    (halike : cutsAlike (c :: next :: rest) = true) (hstarts : StartsAlike (next :: rest))
    (hgoes : GoesOnAlike next rest) : GoesOnAlike c (next :: rest) := by
  intro started mode word hc hword hcapital
  obtain ⟨hc', hrest⟩ := List.forall_mem_cons.mp hascii
  have hnext' := hrest next List.mem_cons_self
  cases hnext : isAlphanumeric next with
  | false =>
      rw [cutFrom_before hc hnext, camel_cons, hstarts, compactCamel_separator hnext (some c)]
  | true =>
      rcases cutFrom_step hc' hnext' hc hnext halike hcapital
        with ⟨hcut, hpass⟩ | ⟨hcut, hpass, hcapital'⟩
      · rw [hcut, hpass, camel_cons, hstarts]
      · have hread : ∀ d ∈ c :: word, isAscii d = true := List.forall_mem_cons.mpr ⟨hc', hword⟩
        have hread' : ∀ d ∈ (c :: word).reverse, isAscii d = true :=
          fun d hd => hread d (List.mem_reverse.mp hd)
        rw [hcut, hpass, hgoes started hnext hread hcapital', List.reverse_cons,
          cased_concat hread' hnext' (List.reverse_ne_nil_iff.mpr (List.cons_ne_nil _ _)),
          List.append_assoc]

/-- A text starts alike if it goes on so, and what is behind its first character starts so. -/
theorem startsAlike_cons (hascii : isAscii c = true) (hstarts : StartsAlike rest)
    (hgoes : GoesOnAlike c rest) : StartsAlike (c :: rest) := by
  intro started
  cases hc : isAlphanumeric c with
  | false =>
      rw [cutFrom_separator hc, hstarts]
      simp only [compactCamel, hc]
      rfl
  | true =>
      have hboundary : Mode.boundary = .upper → isAsciiUpper c = true →
          rest.head?.any isAsciiLower = false := fun h => Mode.noConfusion h
      rw [hgoes started hc (List.forall_mem_nil _) hboundary, compactCamel_start hascii hc]
      rfl

/-- **BOTH AT ONCE**: a text of ASCII that is cut alike starts alike, and goes on so. -/
theorem camel_cutFrom : ∀ cs : List Char, (∀ d ∈ cs, isAscii d = true) → cutsAlike cs = true →
    StartsAlike cs ∧ ∀ c rest, cs = c :: rest → GoesOnAlike c rest := by
  intro cs
  induction cs with
  | nil => exact fun _ _ => ⟨fun _ => rfl, fun _ _ h => absurd h.symm (List.cons_ne_nil _ _)⟩
  | cons c cs ih =>
      intro hascii halike
      obtain ⟨hc, hcs⟩ := List.forall_mem_cons.mp hascii
      obtain ⟨hstarts, hgoes⟩ := ih hcs (cutsAlike_tail halike)
      have hgoesOn : GoesOnAlike c cs := by
        cases cs with
        | nil =>
            intro started mode word halphanumeric _ _
            rw [cutFrom_last halphanumeric]
            rfl
        | cons next rest => exact goesOnAlike_cons hascii halike hstarts (hgoes next rest rfl)
      refine ⟨startsAlike_cons hc hstarts hgoesOn, fun d rest heq => ?_⟩
      obtain ⟨rfl, rfl⟩ := List.cons.inj heq
      exact hgoesOn

end Words

/-- **ONE CAMEL CASE**: names of ASCII that are cut alike have the same plain and compact camel
    case. -/
theorem camelCase_eq_compactCamelCase {name : String} (h : CutsAlike name) :
    camelCase name = compactCamelCase name := by
  have hcamel : camelCase name = String.ofList (Words.camel false (Words.ofName name)) := by
    rw [camelCase]
    cases Words.ofName name <;> rfl
  rw [hcamel, Words.ofName, Words.flatMap_pieces,
    (Words.camel_cutFrom name.toList h.ascii h.alike).1, compactCamelCase]

-- a lower-case letter behind two capitals starts a word in front of it, but not in one pass
example : camelCase "NFTVault" = "nftVault" ∧ compactCamelCase "NFTVault" = "nftvault" := by
  decide +kernel

end Bindery.Text
