import Bindery.Proofs.Files.Names
import Mathlib.Data.List.Chain

/-! # Words of a name — what is cut, what it is cut from, and how it is cased

    Cutting a name loses no letter and no number and makes no empty word
    (`Words.flatten_ofName`, `Words.ne_nil_of_mem_ofName`).  So the first letter of
    a name is the first letter of its first word, and of a simple name, with
    ASCII letters, digits and underscores only and a letter in front, the snake case and
    the upper camel case are simple too (`simple_snakeCase`, `simple_upperCamelCase`).

    The tables of mappings lead around the underscore, so that cased words have none,
    and those to upper case around the lower-case letters of ASCII.
    Therefore a name in upper camel case has no underscore and starts with no such
    letter (`capital_upperCamelCase`), in snake case it neither starts nor ends with
    one (`snakeCase_ends`), and in shouty case underscores stand one by one, and
    between words only (`spaced_shoutyCase`). -/

namespace Bindery.Text

namespace Words

variable {c : Char} {cs word : List Char} {name : String} {mode : Mode}

/-- The words of some characters, put together, are these characters. -/
theorem flatten_cut : ∀ {cs before : List Char} {mode : Mode}, cs ≠ [] →
    (cut mode before cs).flatten = before.reverse ++ cs := by
  intro cs
  induction cs with
  | nil => exact fun hne => absurd rfl hne
  | cons first cs ih =>
      intro before mode _
      cases cs with
      | nil =>
          show [(first :: before).reverse].flatten = before.reverse ++ [first]
          rw [List.flatten_singleton, List.reverse_cons]
      | cons next rest =>
          have hnext : next :: rest ≠ [] := List.cons_ne_nil _ _
          unfold cut
          split
          · rw [List.flatten_cons, ih hnext, List.reverse_cons, List.append_assoc]
            rfl
          · split
            · rw [List.flatten_cons, ih hnext]
              rfl
            · rw [ih hnext, List.reverse_cons, List.append_assoc]
              rfl

/-- No word is empty: one ends in front of a capital only behind another. -/
theorem ne_nil_of_mem_cut : ∀ {cs before : List Char} {mode : Mode},
    (before = [] → mode ≠ .upper) → word ∈ cut mode before cs → word ≠ [] := by
  intro cs
  induction cs with
  | nil => exact fun _ h => absurd h List.not_mem_nil
  | cons first cs ih =>
      have hboundary : Mode.boundary ≠ .upper := by decide
      intro before mode hmode h
      cases cs with
      | nil =>
          rw [List.mem_singleton.mp h]
          exact List.reverse_ne_nil_iff.mpr (List.cons_ne_nil _ _)
      | cons next rest =>
          unfold cut at h
          split at h
          · rcases List.mem_cons.mp h with rfl | h
            · exact List.reverse_ne_nil_iff.mpr (List.cons_ne_nil _ _)
            · exact ih (fun _ => hboundary) h
          · split at h
            · next hupper =>
                rcases List.mem_cons.mp h with rfl | h
                · exact List.reverse_ne_nil_iff.mpr fun hnil => hmode hnil hupper.1
                · exact ih (fun _ => hboundary) h
            · exact ih (fun hnil => absurd hnil (List.cons_ne_nil _ _)) h

/-- The runs of letters and numbers, put together, are all of these. -/
theorem flatten_pieces : ∀ cs : List Char, (pieces cs).flatten = cs.filter isAlphanumeric := by
  intro cs
  induction cs with
  | nil => rfl
  | cons c cs ih =>
      unfold pieces
      split
      · next hc =>
          rw [List.filter_cons_of_pos hc, ← ih]
          cases pieces cs with
          | nil => rfl
          | cons piece rest => rfl
      · next hc =>
          rw [List.filter_cons_of_neg hc, ← ih]
          rfl

/-- **NOTHING IS LOST**: the words of a name, put together, are its letters and numbers. -/
theorem flatten_ofName (name : String) :
    (ofName name).flatten = name.toList.filter isAlphanumeric := by
  have hcut : ∀ piece : List Char, (cut .boundary [] piece).flatten = piece := by
    intro piece
    cases piece with
    | nil => rfl
    | cons c cs => exact flatten_cut (List.cons_ne_nil _ _)
  rw [← flatten_pieces, ofName, List.flatMap_def, List.flatten_flatten, List.map_map]
  refine congrArg List.flatten ((List.map_congr_left fun piece _ => ?_).trans (List.map_id _))
  exact hcut piece

/-- No word of a name is empty. -/
theorem ne_nil_of_mem_ofName (h : word ∈ ofName name) : word ≠ [] := by
  obtain ⟨piece, -, hcut⟩ := List.mem_flatMap.mp h
  exact ne_nil_of_mem_cut (fun _ => by decide) hcut

/-- A name that starts with a letter or number has a first word that starts with it. -/
theorem exists_ofName_eq (hname : name.toList = c :: cs) (hc : isAlphanumeric c = true) :
    ∃ word words, ofName name = (c :: word) :: words := by
  have hflatten := flatten_ofName name
  rw [hname, List.filter_cons_of_pos hc] at hflatten
  cases hwords : ofName name with
  | nil => rw [hwords] at hflatten; exact nomatch hflatten
  | cons first words =>
      have hfirst : first ≠ [] := ne_nil_of_mem_ofName (hwords ▸ List.mem_cons_self)
      obtain ⟨d, word, rfl⟩ := List.exists_cons_of_ne_nil hfirst
      rw [hwords] at hflatten
      rw [(List.cons.inj hflatten).1]
      exact ⟨word, words, rfl⟩

/-- The characters of a word are letters and numbers of the name. -/
theorem mem_of_mem_ofName (h : word ∈ ofName name) (hc : c ∈ word) :
    c ∈ name.toList ∧ isAlphanumeric c = true := by
  have hmem : c ∈ (ofName name).flatten := List.mem_flatten.mpr ⟨word, h, hc⟩
  rw [flatten_ofName] at hmem
  exact List.mem_filter.mp hmem

end Words

/-! ## Simple names -/

/-- Whether a character is an ASCII letter. -/
def isAsciiLetter (c : Char) : Bool := isAsciiLower c || isAsciiUpper c

/-- A name of ASCII letters, digits and underscores that starts with a letter. -/
structure Simple (name : String) : Prop where
  starts : name.toList.head?.any isAsciiLetter = true
  characters : ∀ c ∈ name.toList, isAsciiAlphanumeric c = true ∨ c = '_'

/-- Whether a name is simple can be computed. -/
instance decidableSimple (name : String) : Decidable (Simple name) :=
  decidable_of_iff (name.toList.head?.any isAsciiLetter = true
      ∧ name.toList.all (fun c => decide (isAsciiAlphanumeric c = true ∨ c = '_')) = true)
    ⟨fun ⟨hstarts, hcharacters⟩ =>
        ⟨hstarts, fun c hc => of_decide_eq_true (List.all_eq_true.mp hcharacters c hc)⟩,
      fun h => ⟨h.starts, List.all_eq_true.mpr fun c hc => decide_eq_true (h.characters c hc)⟩⟩

variable {c d : Char} {word : List Char} {name : String}

/-- A letter is no digit. -/
theorem isAsciiDigit_of_isAsciiLetter (h : isAsciiLetter c = true) : isAsciiDigit c = false := by
  simp only [isAsciiLetter, isAsciiLower, isAsciiUpper, Bool.or_eq_true, Bool.and_eq_true,
    decide_eq_true_eq] at h
  rw [isAsciiDigit, Bool.and_eq_false_iff, decide_eq_false_iff_not, decide_eq_false_iff_not]
  omega

/-- Letters and digits of ASCII are ASCII characters. -/
theorem isAscii_of_isAsciiAlphanumeric (h : isAsciiAlphanumeric c = true) : isAscii c = true := by
  simp only [isAsciiAlphanumeric, isAsciiDigit, isAsciiLower, isAsciiUpper, Bool.or_eq_true,
    Bool.and_eq_true, decide_eq_true_eq] at h
  rw [isAscii, decide_eq_true_eq]
  omega

/-- Characters of small code points have these. -/
theorem toNat_ofNat {code : Nat} (h : code < 128) : (Char.ofNat code).toNat = code := by
  have hvalid : code.isValidChar := .inl (by omega)
  unfold Char.ofNat
  rw [dif_pos hvalid]
  rfl

/-- In lower case an ASCII letter or digit is one that is no capital. -/
theorem toLower_of_isAsciiAlphanumeric (h : isAsciiAlphanumeric c = true) :
    ∃ d, toLower c = [d] ∧ isAsciiAlphanumeric d = true ∧ isAsciiUpper d = false
      ∧ (isAsciiLetter c = true → isAsciiLetter d = true) := by
  rw [toLower, if_pos (isAscii_of_isAsciiAlphanumeric h)]
  split
  · next hupper =>
      simp only [isAsciiUpper, Bool.and_eq_true, decide_eq_true_eq] at hupper
      have hcode : (Char.ofNat (c.toNat + 32)).toNat = c.toNat + 32 := toNat_ofNat (by omega)
      refine ⟨_, rfl, ?_⟩
      simp only [isAsciiAlphanumeric, isAsciiLetter, isAsciiDigit, isAsciiLower, isAsciiUpper,
        hcode, Bool.or_eq_true, Bool.and_eq_true, decide_eq_true_eq, Bool.and_eq_false_imp,
        decide_eq_false_iff_not]
      omega
  · next hlower =>
      exact ⟨c, rfl, h, Bool.eq_false_iff.mpr hlower, id⟩

/-- In upper case an ASCII letter or digit is one too. -/
theorem toUpper_of_isAsciiAlphanumeric (h : isAsciiAlphanumeric c = true) :
    ∃ d, toUpper c = [d] ∧ isAsciiAlphanumeric d = true
      ∧ (isAsciiLetter c = true → isAsciiLetter d = true) := by
  rw [toUpper, if_pos (isAscii_of_isAsciiAlphanumeric h)]
  split
  · next hlower =>
      simp only [isAsciiLower, Bool.and_eq_true, decide_eq_true_eq] at hlower
      have hcode : (Char.ofNat (c.toNat - 32)).toNat = c.toNat - 32 := toNat_ofNat (by omega)
      refine ⟨_, rfl, ?_⟩
      simp only [isAsciiAlphanumeric, isAsciiLetter, isAsciiDigit, isAsciiLower, isAsciiUpper,
        hcode, Bool.or_eq_true, Bool.and_eq_true, decide_eq_true_eq]
      omega
  · exact ⟨c, rfl, h, id⟩

/-- A word of ASCII letters and digits has such in lower case. -/
theorem Words.isAsciiAlphanumeric_of_mem_lower : ∀ {word : List Char},
    (∀ c ∈ word, isAsciiAlphanumeric c = true) →
      ∀ d ∈ lower word, isAsciiAlphanumeric d = true := by
  intro word
  induction word with
  | nil => exact fun _ d hd => (nomatch hd)
  | cons first word ih =>
      intro h d hd
      obtain ⟨hfirst, hword⟩ := List.forall_mem_cons.mp h
      obtain ⟨lowered, hlowered, hascii, -⟩ := toLower_of_isAsciiAlphanumeric hfirst
      have hsigma : first ≠ 'Σ' := by
        rintro rfl
        exact absurd hfirst (by decide)
      cases word with
      | nil =>
          rw [lower, if_neg hsigma, hlowered] at hd
          rwa [List.mem_singleton.mp hd]
      | cons next rest =>
          rw [lower, hlowered] at hd
          rcases List.mem_append.mp hd with hd | hd
          · rwa [List.mem_singleton.mp hd]
          · exact ih hword d hd
          · nofun

/-- ASCII letters are letters or digits of ASCII, -/
theorem isAsciiAlphanumeric_of_isAsciiLetter (h : isAsciiLetter c = true) :
    isAsciiAlphanumeric c = true := by
  simp only [isAsciiLetter, isAsciiAlphanumeric, Bool.or_eq_true] at h ⊢
  tauto

/-- and these are letters or numbers. -/
theorem isAlphanumeric_of_isAsciiAlphanumeric (h : isAsciiAlphanumeric c = true) :
    isAlphanumeric c = true := by
  rw [isAlphanumeric, if_pos (isAscii_of_isAsciiAlphanumeric h)]
  exact h

/-- A word that starts with an ASCII letter does so in lower case. -/
theorem Words.head?_lower (h : isAsciiLetter c = true) :
    (lower (c :: word)).head?.any isAsciiLetter = true := by
  obtain ⟨lowered, hlowered, -, -, hletter⟩ :=
    toLower_of_isAsciiAlphanumeric (isAsciiAlphanumeric_of_isAsciiLetter h)
  have hsigma : c ≠ 'Σ' := by
    rintro rfl
    exact absurd h (by decide)
  have hlower : ∃ rest, lower (c :: word) = lowered :: rest := by
    cases word with
    | nil => exact ⟨[], by rw [lower, if_neg hsigma, hlowered]⟩
    | cons next rest => exact ⟨lower (next :: rest), by rw [lower, hlowered]; rfl; nofun⟩
  obtain ⟨rest, hlower⟩ := hlower
  rw [hlower]
  exact hletter h

/-- Joined pieces start as the first of them does. -/
theorem head?_joinAt {separator : Char} {piece : List Char} {pieces : List (List Char)}
    (h : piece ≠ []) : (joinAt separator (piece :: pieces)).head? = piece.head? := by
  cases pieces with
  | nil => rfl
  | cons next rest =>
      obtain ⟨c, cs, rfl⟩ := List.exists_cons_of_ne_nil h
      rfl

/-- The words of a simple name have ASCII letters and digits only. -/
theorem Simple.isAsciiAlphanumeric_of_mem (h : Simple name) (hword : word ∈ Words.ofName name) :
    ∀ c ∈ word, isAsciiAlphanumeric c = true := by
  intro c hc
  obtain ⟨hmem, halphanumeric⟩ := Words.mem_of_mem_ofName hword hc
  rcases h.characters c hmem with hascii | rfl
  · exact hascii
  · exact absurd halphanumeric (by decide)

/-- The first word of a simple name starts with an ASCII letter. -/
theorem Simple.exists_ofName_eq (h : Simple name) :
    ∃ c word words, isAsciiLetter c = true ∧ Words.ofName name = (c :: word) :: words := by
  obtain ⟨c, hhead, hletter⟩ := (Option.any_eq_true _ _).mp h.starts
  obtain ⟨cs, hname⟩ := List.head?_eq_some_iff.mp hhead
  have hc : isAlphanumeric c = true :=
    isAlphanumeric_of_isAsciiAlphanumeric (isAsciiAlphanumeric_of_isAsciiLetter hletter)
  obtain ⟨word, words, hwords⟩ := Words.exists_ofName_eq hname hc
  exact ⟨c, word, words, hletter, hwords⟩

/-- **SNAKE CASE OF A SIMPLE NAME**: it is simple. -/
theorem simple_snakeCase (h : Simple name) : Simple (snakeCase name) := by
  constructor
  · obtain ⟨c, word, words, hletter, hfirst⟩ := h.exists_ofName_eq
    have hstarts : (Words.lower (c :: word)).head?.any isAsciiLetter = true :=
      Words.head?_lower hletter
    have hne : Words.lower (c :: word) ≠ [] := by
      intro hnil
      rw [hnil] at hstarts
      exact nomatch hstarts
    rw [snakeCase, String.toList_ofList, hfirst, List.map_cons, head?_joinAt hne]
    exact hstarts
  · intro d hd
    rw [snakeCase, String.toList_ofList] at hd
    rcases mem_of_mem_joinAt hd with rfl | ⟨piece, hpiece, hd⟩
    · exact .inr rfl
    · obtain ⟨word, hword, rfl⟩ := List.mem_map.mp hpiece
      have hascii := h.isAsciiAlphanumeric_of_mem hword
      exact .inl (Words.isAsciiAlphanumeric_of_mem_lower hascii d hd)

/-- **UPPER CAMEL CASE OF A SIMPLE NAME**: it is simple. -/
theorem simple_upperCamelCase (h : Simple name) : Simple (upperCamelCase name) := by
  constructor
  · obtain ⟨c, word, words, hletter, hfirst⟩ := h.exists_ofName_eq
    obtain ⟨d, hd, -, hstarts⟩ :=
      toUpper_of_isAsciiAlphanumeric (isAsciiAlphanumeric_of_isAsciiLetter hletter)
    rw [upperCamelCase, String.toList_ofList, hfirst, List.flatMap_cons, Words.capitalized, hd]
    exact hstarts hletter
  · intro d hd
    rw [upperCamelCase, String.toList_ofList] at hd
    obtain ⟨word, hword, hd⟩ := List.mem_flatMap.mp hd
    have hascii := h.isAsciiAlphanumeric_of_mem hword
    cases word with
    | nil => exact absurd hd List.not_mem_nil
    | cons first word =>
        obtain ⟨hfirst, hrest⟩ := List.forall_mem_cons.mp hascii
        rcases List.mem_append.mp hd with hd | hd
        · obtain ⟨e, he, hupper, -⟩ := toUpper_of_isAsciiAlphanumeric hfirst
          rw [he] at hd
          rw [List.mem_singleton.mp hd]
          exact .inl hupper
        · exact .inl (Words.isAsciiAlphanumeric_of_mem_lower hrest d hd)

/-! ## Casing — mappings of characters -/

/-- Characters outside of the underscore are all others. -/
theorem ne_underscore_iff : c ≠ '_' ↔ Outside 95 95 c := by
  have hcode : c = '_' ↔ c.toNat = 95 := by
    rw [← Char.toNat_inj]
    rfl
  rw [ne_eq, hcode]
  unfold Outside
  omega

/-- They have their cases. -/
theorem hasCases_ne_underscore : HasCases (· ≠ '_') := by
  have houtside : HasCases (Outside 95 95) := hasCases_outside (by decide) (by decide) (by decide)
    ⟨by decide +kernel, by decide +kernel⟩ ⟨by decide +kernel, by decide +kernel⟩
  rwa [← funext fun c => propext (ne_underscore_iff (c := c))] at houtside

/-- Lower-case forms have characters. -/
theorem toLower_ne_nil (c : Char) : toLower c ≠ [] := by
  unfold toLower
  split
  · split <;> exact List.cons_ne_nil _ _
  · next hascii =>
      have htable : LeadsAround 95 95 Table.toLowerMany Table.toLower :=
        ⟨by decide +kernel, by decide +kernel⟩
      have hc : Outside 95 95 c := by
        simp only [isAscii, decide_eq_true_eq] at hascii
        exact .inr (by omega)
      exact (htable.mapped (by decide) hc).1

/-- So have upper-case forms, which have no lower-case letters of ASCII. -/
theorem toUpper_around (c : Char) :
    toUpper c ≠ [] ∧ ∀ d ∈ toUpper c, isAsciiLower d = false := by
  have haround : ∀ d : Char, Outside 97 122 d → isAsciiLower d = false := by
    intro d hd
    unfold Outside at hd
    simp only [isAsciiLower, Bool.and_eq_false_imp, decide_eq_true_eq, decide_eq_false_iff_not]
    omega
  unfold toUpper
  split
  · split
    · rename_i hlower
      simp only [isAsciiLower, Bool.and_eq_true, decide_eq_true_eq] at hlower
      refine ⟨List.cons_ne_nil _ _, List.forall_mem_singleton.mpr (haround _ ?_)⟩
      exact outside_ofNat (by decide) (by omega)
    · next hlower =>
        exact ⟨List.cons_ne_nil _ _, List.forall_mem_singleton.mpr (Bool.eq_false_iff.mpr hlower)⟩
  · next hascii =>
      have htable : LeadsAround 97 122 Table.toUpperMany Table.toUpper :=
        ⟨by decide +kernel, by decide +kernel⟩
      have hc : Outside 97 122 c := by
        simp only [isAscii, decide_eq_true_eq] at hascii
        exact .inr (by omega)
      obtain ⟨hne, hmapped⟩ := htable.mapped (by decide) hc
      exact ⟨hne, fun d hd => haround d (hmapped d hd)⟩

/-! ## Casing — words -/

namespace Words

/-- Letters and numbers are no underscores. -/
theorem ne_underscore_of_isAlphanumeric (h : isAlphanumeric c = true) : c ≠ '_' := by
  rintro rfl
  exact absurd h (by decide)

/-- Words of a name have none. -/
theorem ne_underscore_of_mem (hword : word ∈ ofName name) : ∀ c ∈ word, c ≠ '_' := fun c hc =>
  ne_underscore_of_isAlphanumeric (isAlphanumeric_of_mem_ofName hword c hc)

/-- A word in lower case is not empty if it was not, -/
theorem lower_ne_nil (h : word ≠ []) : lower word ≠ [] := by
  obtain ⟨c, cs, rfl⟩ := List.exists_cons_of_ne_nil h
  cases cs with
  | nil =>
      unfold lower
      split
      · exact List.cons_ne_nil _ _
      · exact toLower_ne_nil c
  | cons next rest => exact List.append_ne_nil_of_left_ne_nil (toLower_ne_nil c) _

/-- nor is one in upper case. -/
theorem upper_ne_nil (h : word ≠ []) : upper word ≠ [] := by
  obtain ⟨c, cs, rfl⟩ := List.exists_cons_of_ne_nil h
  rw [upper, List.flatMap_cons]
  exact List.append_ne_nil_of_left_ne_nil (toUpper_around c).1 _

end Words

/-! ## Casing — names -/

/-- A text without underscores that starts with no lower-case letter of ASCII. -/
structure Capital (text : String) : Prop where
  unspaced : '_' ∉ text.toList
  starts : ∀ c, text.toList.head? = some c → isAsciiLower c = false

/-- **UPPER CAMEL CASE** is capital. -/
theorem capital_upperCamelCase (name : String) : Capital (upperCamelCase name) := by
  constructor
  · intro hmem
    exact hasCases_ne_underscore.upperCamelCase
      (fun _ => Words.ne_underscore_of_isAlphanumeric) _ hmem rfl
  · intro c hc
    rw [upperCamelCase, String.toList_ofList] at hc
    cases hwords : Words.ofName name with
    | nil => rw [hwords] at hc; exact absurd hc (Option.some_ne_none c).symm
    | cons first rest =>
        have hfirst : first ≠ [] := Words.ne_nil_of_mem_ofName (hwords ▸ List.mem_cons_self)
        obtain ⟨d, word, rfl⟩ := List.exists_cons_of_ne_nil hfirst
        obtain ⟨hne, hupper⟩ := toUpper_around d
        obtain ⟨e, es, heq⟩ := List.exists_cons_of_ne_nil hne
        have hcapitalized : Words.capitalized (d :: word) = e :: (es ++ Words.lower word) := by
          rw [Words.capitalized, heq, List.cons_append]
        rw [hwords, List.flatMap_cons, hcapitalized, List.cons_append, List.head?_cons] at hc
        obtain rfl := Option.some.inj hc
        exact hupper e (heq ▸ List.mem_cons_self)

/-- A capital text stays so with a capital one behind it. -/
theorem Capital.append {text ending : String} (h : Capital text) (hending : Capital ending) :
    Capital (text ++ ending) := by
  constructor
  · rw [String.toList_append, List.mem_append]
    exact not_or.mpr ⟨h.unspaced, hending.unspaced⟩
  · intro c hc
    rw [String.toList_append, List.head?_append] at hc
    rcases Option.or_eq_some_iff.mp hc with hc | ⟨-, hc⟩
    · exact h.starts c hc
    · exact hending.starts c hc

/-- Whether a text is capital can be computed. -/
instance decidableCapital (text : String) : Decidable (Capital text) :=
  decidable_of_iff ('_' ∉ text.toList ∧ text.toList.head?.any isAsciiLower = false)
    ⟨fun ⟨hunspaced, hstarts⟩ => ⟨hunspaced, (Option.any_eq_false _ _).mp hstarts⟩,
      fun h => ⟨h.unspaced, (Option.any_eq_false _ _).mpr h.starts⟩⟩

/-- No two characters side by side are underscores. -/
def Spaced (cs : List Char) : Prop := cs.IsChain fun c d => ¬ (c = '_' ∧ d = '_')

/-- Whether underscores stand one by one can be computed. -/
instance decidableSpaced (cs : List Char) : Decidable (Spaced cs) :=
  inferInstanceAs (Decidable (cs.IsChain fun c d => ¬ (c = '_' ∧ d = '_')))

/-- Without underscores none are side by side. -/
theorem spaced_of_unspaced {cs : List Char} (h : ∀ c ∈ cs, c ≠ '_') : Spaced cs := by
  refine List.Pairwise.isChain (List.pairwise_of_forall_mem_list fun c hc d _ => ?_)
  exact fun hboth => h c hc hboth.1

/-- Words without underscores, joined by them, have them one by one, and none at the end. -/
theorem spaced_joinAt : ∀ {pieces : List (List Char)},
    (∀ piece ∈ pieces, piece ≠ [] ∧ ∀ c ∈ piece, c ≠ '_') →
      Spaced (joinAt '_' pieces) ∧ ∀ c ∈ (joinAt '_' pieces).getLast?, c ≠ '_' := by
  intro pieces
  induction pieces with
  | nil => exact fun _ => ⟨.nil, fun _ hc => (nomatch hc)⟩
  | cons piece pieces ih =>
      intro h
      obtain ⟨⟨hne, hunspaced⟩, hrest⟩ := List.forall_mem_cons.mp h
      cases pieces with
      | nil =>
          exact ⟨spaced_of_unspaced hunspaced, fun c hc => hunspaced c (List.mem_of_getLast? hc)⟩
      | cons next rest =>
          obtain ⟨hspaced, hlast⟩ := ih hrest
          obtain ⟨hnext, hunspaced'⟩ := hrest next List.mem_cons_self
          have hhead : (joinAt '_' (next :: rest)).head? = next.head? := head?_joinAt hnext
          have hjoined : joinAt '_' (next :: rest) ≠ [] := by
            intro hnil
            rw [hnil] at hhead
            exact hnext (List.head?_eq_none_iff.mp hhead.symm)
          have hcons : joinAt '_' (piece :: next :: rest)
              = piece ++ '_' :: joinAt '_' (next :: rest) := rfl
          rw [hcons]
          constructor
          · refine List.IsChain.append (spaced_of_unspaced hunspaced) ?_ ?_
            · refine List.isChain_cons.mpr ⟨fun d hd hboth => ?_, hspaced⟩
              rw [hhead] at hd
              exact hunspaced' d (List.mem_of_head? hd) hboth.2
            · exact fun c hc _ _ hboth => hunspaced c (List.mem_of_getLast? hc) hboth.1
          · intro c hc
            rw [List.getLast?_append_of_ne_nil _ (List.cons_ne_nil _ _),
              List.getLast?_cons_of_ne_nil hjoined] at hc
            exact hlast c hc

/-- **SNAKE CASE** has no underscores at its ends. -/
theorem snakeCase_ends (name : String) : (∀ c ∈ (snakeCase name).toList.head?, c ≠ '_')
    ∧ ∀ c ∈ (snakeCase name).toList.getLast?, c ≠ '_' := by
  have hpieces : ∀ piece ∈ (Words.ofName name).map Words.lower,
      piece ≠ [] ∧ ∀ c ∈ piece, c ≠ '_' := List.forall_mem_map.mpr fun word hword =>
    ⟨Words.lower_ne_nil (Words.ne_nil_of_mem_ofName hword),
      Words.of_mem_lower hasCases_ne_underscore (Words.ne_underscore_of_mem hword)⟩
  rw [snakeCase, String.toList_ofList]
  refine ⟨fun c hc => ?_, (spaced_joinAt hpieces).2⟩
  cases hwords : (Words.ofName name).map Words.lower with
  | nil => rw [hwords] at hc; exact absurd hc (Option.not_mem_none c)
  | cons piece pieces =>
      rw [hwords] at hc hpieces
      obtain ⟨hne, hunspaced⟩ := hpieces piece List.mem_cons_self
      rw [head?_joinAt hne] at hc
      exact hunspaced c (List.mem_of_head? hc)

/-- **SHOUTY CASE** has underscores one by one, and none at its end. -/
theorem spaced_shoutyCase (name : String) :
    Spaced (shoutyCase name).toList ∧ ∀ c ∈ (shoutyCase name).toList.getLast?, c ≠ '_' := by
  rw [shoutyCase, String.toList_ofList]
  refine spaced_joinAt fun piece hpiece => ?_
  obtain ⟨word, hword, rfl⟩ := List.mem_map.mp hpiece
  exact ⟨Words.upper_ne_nil (Words.ne_nil_of_mem_ofName hword),
    Words.of_mem_upper hasCases_ne_underscore (Words.ne_underscore_of_mem hword)⟩

end Bindery.Text
