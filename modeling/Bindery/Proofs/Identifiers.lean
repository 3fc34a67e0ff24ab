import Bindery.Crate.Token
import Bindery.Proofs.Words
import Mathlib.Data.List.Basic
import Mathlib.Data.Set.Function

/-! # Identifiers — the texts that are their own

    An identifier keeps ASCII letters, digits and underscores of its text, puts
    underscores for all else, and has one more in front of a digit or behind a word
    that the language keeps for itself.  A text is the word of its identifier
    exactly when none of this happens to it (`Name.word_of_eq_iff`), and the word of
    any identifier is such a text (`Name.spoken_word`): putting identifiers for
    identifiers changes nothing.

    Texts that are kept, do not end in an underscore and have none in front of a
    digit have different identifiers (`Name.of_injOn`): what is put in front or behind
    can be taken away again. -/

namespace Bindery.Crate

variable {c : Char} {text other : String}

/-- Whether identifiers keep a character. -/
def isKept (c : Char) : Bool := Text.isAsciiAlphanumeric c || c = '_'

/-- What identifiers have for a character. -/
def kept (c : Char) : Char := if isKept c then c else '_'

/-- What stands for a character is kept, -/
theorem isKept_kept (c : Char) : isKept (kept c) = true := by
  unfold kept
  split
  · next hc => exact hc
  · decide

/-- and it is the character itself where it is no underscore. -/
theorem kept_eq_of_ne (h : kept c ≠ '_') : kept c = c := by
  unfold kept at h ⊢
  split
  · rfl
  · next hc => exact absurd (if_neg hc) h

/-- A character stands for itself exactly when it is kept. -/
theorem kept_eq_iff : kept c = c ↔ isKept c = true := by
  refine ⟨fun h => h ▸ isKept_kept c, fun h => if_pos h⟩

/-- A text of which identifiers keep all characters. -/
def Kept (text : String) : Prop := ∀ c ∈ text.toList, isKept c = true

instance : DecidablePred Kept := fun _ => List.decidableBAll _ _

/-- Characters are all kept exactly when they stand for themselves. -/
theorem map_kept_eq_iff : text.toList.map kept = text.toList ↔ Kept text := by
  have hmap : text.toList.map kept = text.toList.map id ↔ ∀ c ∈ text.toList, kept c = id c :=
    List.map_inj_left
  rw [List.map_id] at hmap
  exact hmap.trans (forall₂_congr fun _ _ => kept_eq_iff)

/-- A text that is the word of its identifier: all of its characters are kept, the first is no
    digit, and the language does not keep it for itself. -/
structure Spoken (text : String) : Prop where
  kept : Kept text
  begins : text.toList.head?.any (fun c => !Text.isAsciiDigit c) = true
  free : text ∉ restrictedWords

instance decidableSpoken (text : String) : Decidable (Spoken text) :=
  decidable_of_iff (Kept text ∧ text.toList.head?.any (fun c => !Text.isAsciiDigit c) = true
      ∧ text ∉ restrictedWords)
    ⟨fun ⟨hkept, hbegins, hfree⟩ => ⟨hkept, hbegins, hfree⟩,
      fun h => ⟨h.kept, h.begins, h.free⟩⟩

/-! ## Sanitized texts -/

/-- A sanitized text has the characters of the text as they are kept, behind an underscore if the
    first is a digit. -/
theorem toList_sanitized (h : text.toList ≠ []) :
    (sanitized text).toList = text.toList.map kept
        ∧ (text.toList.map kept).head?.any (fun c => !Text.isAsciiDigit c) = true
      ∨ (sanitized text).toList = '_' :: text.toList.map kept
        ∧ (text.toList.map kept).head?.any Text.isAsciiDigit = true := by
  obtain ⟨first, rest, htext⟩ := List.exists_cons_of_ne_nil h
  have hsanitized : sanitized text
      = String.ofList (if Text.isAsciiDigit (kept first) then '_' :: text.toList.map kept
          else text.toList.map kept) := by
    unfold sanitized
    rw [htext]
    rfl
  rw [hsanitized, String.toList_ofList]
  have hhead : (text.toList.map kept).head? = some (kept first) := by
    rw [htext]
    rfl
  rw [hhead]
  by_cases hdigit : Text.isAsciiDigit (kept first) = true
  · exact .inr ⟨if_pos hdigit, hdigit⟩
  · have hfalse : Text.isAsciiDigit (kept first) = false := eq_false_of_ne_true hdigit
    exact .inl ⟨if_neg hdigit, congrArg (! ·) hfalse⟩

/-- A sanitized text has kept characters only, and does not start with a digit. -/
theorem sanitized_kept (text : String) : Kept (sanitized text)
    ∧ (sanitized text).toList.head?.any (fun c => !Text.isAsciiDigit c) = true := by
  have hmap : ∀ c ∈ text.toList.map kept, isKept c = true :=
    List.forall_mem_map.mpr fun c _ => isKept_kept c
  by_cases hnil : text.toList = []
  · rw [String.toList_eq_nil_iff.mp hnil]
    exact ⟨by decide, by decide⟩
  · rcases toList_sanitized hnil with ⟨heq, hbegins⟩ | ⟨heq, -⟩
    · rw [Kept, heq]
      exact ⟨hmap, hbegins⟩
    · rw [Kept, heq]
      exact ⟨List.forall_mem_cons.mpr ⟨by decide, hmap⟩, rfl⟩

/-- A text is sanitized already exactly when its characters are kept and the first is no digit. -/
theorem sanitized_eq_iff : sanitized text = text
    ↔ Kept text ∧ text.toList.head?.any (fun c => !Text.isAsciiDigit c) = true := by
  refine ⟨fun h => h ▸ sanitized_kept text, fun ⟨hkept, hbegins⟩ => ?_⟩
  have hmap := map_kept_eq_iff.mpr hkept
  have hnil : text.toList ≠ [] := by
    intro hnil
    rw [hnil] at hbegins
    exact Bool.false_ne_true hbegins
  rcases toList_sanitized hnil with ⟨heq, -⟩ | ⟨-, hdigit⟩
  · exact String.toList_inj.mp (heq.trans hmap)
  · rw [hmap] at hdigit
    obtain ⟨first, hfirst⟩ := Option.ne_none_iff_exists'.mp (mt List.head?_eq_none_iff.mp hnil)
    rw [hfirst] at hbegins hdigit
    rw [Option.any_some] at hbegins hdigit
    rw [hdigit] at hbegins
    exact absurd hbegins Bool.false_ne_true

/-- A sanitized text without underscores is the text. -/
theorem sanitized_eq_of_notMem (h : '_' ∉ (sanitized text).toList) : sanitized text = text := by
  by_cases hnil : text.toList = []
  · rw [String.toList_eq_nil_iff.mp hnil] at h
    exact absurd (by decide) h
  · rcases toList_sanitized hnil with ⟨heq, -⟩ | ⟨heq, -⟩
    · rw [heq] at h
      refine String.toList_inj.mp (heq.trans (map_kept_eq_iff.mpr fun c hc => ?_))
      exact kept_eq_iff.mp (kept_eq_of_ne fun hc' => h (hc' ▸ List.mem_map_of_mem hc))
    · exact absurd (heq ▸ List.mem_cons_self) h

/-! ## Characters of identifiers -/

/-- The characters that identifiers keep go on an identifier, -/
theorem isIdentifierPart_of_isKept (h : isKept c = true) : Text.isIdentifierPart c = true := by
  rcases (Bool.or_eq_true _ _).mp h with h | h
  · rw [Text.isIdentifierPart, if_pos (Text.isAscii_of_isAsciiAlphanumeric h), h]
    rfl
  · rw [of_decide_eq_true h]
    decide

/-- and those that are no digits start one. -/
theorem starts_of_isKept (h : isKept c = true) (hdigit : Text.isAsciiDigit c = false) :
    (Text.isIdentifierStart c || decide (c = '_')) = true := by
  rcases (Bool.or_eq_true _ _).mp h with h | h
  · have hascii := Text.isAscii_of_isAsciiAlphanumeric h
    rw [Text.isAsciiAlphanumeric, hdigit, Bool.false_or] at h
    rw [Text.isIdentifierStart, if_pos hascii, h, Bool.true_or]
  · rw [h, Bool.or_true]

/-- A text of characters that identifiers keep is an identifier unless it starts with a digit. -/
theorem Kept.isIdentifier (h : Kept text)
    (hbegins : text.toList.head?.any (fun c => !Text.isAsciiDigit c) = true) :
    isIdentifier text = true := by
  obtain ⟨first, hhead, hdigit⟩ := (Option.any_eq_true _ _).mp hbegins
  obtain ⟨rest, htext⟩ := List.head?_eq_some_iff.mp hhead
  rw [Kept, htext] at h
  obtain ⟨hfirst, hrest⟩ := List.forall_mem_cons.mp h
  rw [Bool.not_eq_true'] at hdigit
  rw [Crate.isIdentifier, htext]
  refine (Bool.and_eq_true _ _).mpr ⟨starts_of_isKept hfirst hdigit, ?_⟩
  exact List.all_eq_true.mpr fun d hd => isIdentifierPart_of_isKept (hrest d hd)

/-- An identifier goes on with characters of identifiers. -/
theorem isIdentifier_append {ending : String} (h : isIdentifier text = true)
    (hending : ending.toList.all Text.isIdentifierPart = true) :
    isIdentifier (text ++ ending) = true := by
  rw [isIdentifier] at h ⊢
  rw [String.toList_append]
  cases htext : text.toList with
  | nil => rw [htext] at h; exact nomatch h
  | cons first rest =>
      rw [htext] at h
      obtain ⟨hstart, hrest⟩ := (Bool.and_eq_true _ _).mp h
      refine (Bool.and_eq_true _ _).mpr ⟨hstart, ?_⟩
      show (rest ++ ending.toList).all Text.isIdentifierPart = true
      rw [List.all_append, hrest, hending]
      rfl

/-! ## Words of identifiers -/

namespace Name

/-- The identifier for a word that the language keeps for itself has an underscore behind it. -/
theorem of_eq_of_mem (h : sanitized text ∈ restrictedWords) :
    of text = ⟨sanitized text ++ "_", false⟩ := if_pos h

/-- The identifier for any other is the sanitized text. -/
theorem of_eq_of_notMem (h : sanitized text ∉ restrictedWords) :
    of text = ⟨sanitized text, decide (sanitized text ∈ keywords)⟩ := if_neg h

/-- Whether an identifier is raw is told by its word. -/
theorem raw_of (text : String) : (of text).raw = decide ((of text).word ∈ keywords) := by
  have hrestricted : ∀ word ∈ restrictedWords, word ++ "_" ∉ keywords := by decide
  by_cases h : sanitized text ∈ restrictedWords
  · rw [of_eq_of_mem h]
    exact (decide_eq_false (hrestricted _ h)).symm
  · rw [of_eq_of_notMem h]

/-- So identifiers are the same exactly when their words are. -/
theorem of_eq_iff : of text = of other ↔ (of text).word = (of other).word := by
  refine ⟨congrArg word, fun h => ?_⟩
  have hraw : (of text).raw = (of other).raw := by rw [raw_of, raw_of, h]
  show (⟨(of text).word, (of text).raw⟩ : Name) = ⟨(of other).word, (of other).raw⟩
  rw [h, hraw]

/-- **IDENTIFIERS ARE SPOKEN**: the word of an identifier is the word of its own identifier. -/
theorem spoken_word (text : String) : Spoken (of text).word := by
  have hrestricted : ∀ word ∈ restrictedWords, Spoken (word ++ "_") := by decide
  by_cases h : sanitized text ∈ restrictedWords
  · rw [of_eq_of_mem h]
    exact hrestricted _ h
  · rw [of_eq_of_notMem h]
    exact ⟨(sanitized_kept text).1, (sanitized_kept text).2, h⟩

/-- A text is the word of its identifier exactly when it is spoken. -/
theorem word_of_eq_iff : (of text).word = text ↔ Spoken text := by
  refine ⟨fun h => h ▸ spoken_word text, fun h => ?_⟩
  have hsanitized := sanitized_eq_iff.mpr ⟨h.kept, h.begins⟩
  have hfree : sanitized text ∉ restrictedWords := by
    rw [hsanitized]
    exact h.free
  rw [of_eq_of_notMem hfree, hsanitized]

/-- A word without underscores is that of no other text. -/
theorem word_of_eq_of_notMem (h : '_' ∉ (of text).word.toList) : (of text).word = text := by
  by_cases hrestricted : sanitized text ∈ restrictedWords
  · rw [of_eq_of_mem hrestricted, String.toList_append] at h
    exact absurd (List.mem_append_right _ (List.mem_singleton_self _)) h
  · rw [of_eq_of_notMem hrestricted] at h ⊢
    exact sanitized_eq_of_notMem h

end Name

/-! ## Texts with different identifiers -/

/-- A text of which identifiers keep all characters, that does not end in an underscore and has
    none in front of a digit. -/
structure Clear (text : String) : Prop where
  kept : Kept text
  ends : ∀ c ∈ text.toList.getLast?, c ≠ '_'
  begins : ∀ c ∈ (text.toList.tail).head?, text.toList.head? = some '_' →
    Text.isAsciiDigit c = false

/-- A clear text is sanitized by an underscore in front of it, or not at all. -/
theorem Clear.toList_sanitized (h : Clear text) :
    (sanitized text).toList = text.toList
      ∨ (sanitized text).toList = '_' :: text.toList ∧ text.toList.head?.all Text.isAsciiDigit := by
  by_cases hnil : text.toList = []
  · rw [hnil, String.toList_eq_nil_iff.mp hnil]
    exact .inr ⟨rfl, rfl⟩
  · have hmap := map_kept_eq_iff.mpr h.kept
    rcases Crate.toList_sanitized hnil with ⟨heq, -⟩ | ⟨heq, hdigit⟩
    · exact .inl (heq.trans hmap)
    · rw [hmap] at heq hdigit
      obtain ⟨first, hfirst, hdigit⟩ := (Option.any_eq_true _ _).mp hdigit
      rw [hfirst]
      exact .inr ⟨heq, hdigit⟩

/-- What is put in front of one clear text does not make it another. -/
theorem Clear.toList_ne (h : Clear text)
    (hdigit : other.toList.head?.all Text.isAsciiDigit = true) :
    text.toList ≠ '_' :: other.toList := by
  intro heq
  cases hother : other.toList with
  | nil =>
      rw [hother] at heq
      exact h.ends '_' (heq ▸ rfl) rfl
  | cons first rest =>
      rw [hother] at heq hdigit
      have hfalse := h.begins first (heq ▸ rfl) (heq ▸ rfl)
      rw [List.head?_cons, Option.all_some, hfalse] at hdigit
      exact Bool.false_ne_true hdigit

/-- Clear texts are told apart when they are sanitized. -/
theorem Clear.sanitized_injective (h : Clear text) (h' : Clear other)
    (heq : sanitized text = sanitized other) : text = other := by
  have hlist := congrArg String.toList heq
  refine String.toList_inj.mp ?_
  rcases h.toList_sanitized with htext | ⟨htext, hdigit⟩ <;>
    rcases h'.toList_sanitized with hother | ⟨hother, hdigit'⟩ <;>
    rw [htext, hother] at hlist
  · exact hlist
  · exact absurd hlist (h.toList_ne hdigit')
  · exact absurd hlist.symm (h'.toList_ne hdigit)
  · exact (List.cons.inj hlist).2

/-- The word of the identifier of a clear text ends in an underscore only where the language keeps
    the sanitized text for itself. -/
theorem Clear.getLast?_word (h : Clear text) :
    (Name.of text).word.toList.getLast? = some '_' ↔ sanitized text ∈ restrictedWords := by
  by_cases hrestricted : sanitized text ∈ restrictedWords
  · rw [Name.of_eq_of_mem hrestricted, String.toList_append]
    exact iff_of_true (List.getLast?_append_of_ne_nil _ (List.cons_ne_nil _ _)) hrestricted
  · refine iff_of_false (fun hlast => ?_) hrestricted
    rw [Name.of_eq_of_notMem hrestricted] at hlast
    rcases h.toList_sanitized with heq | ⟨heq, -⟩
    · rw [heq] at hlast
      exact h.ends '_' hlast rfl
    · rw [heq] at hlast
      cases htext : text.toList with
      | nil =>
          -- the empty text is sanitized to an underscore, which is kept by the language
          rw [String.toList_eq_nil_iff.mp htext] at hrestricted
          exact hrestricted (by decide)
      | cons first rest =>
          rw [htext, List.getLast?_cons_cons, ← htext] at hlast
          exact h.ends '_' hlast rfl

/-- **CLEAR TEXTS** have different identifiers. -/
theorem Name.of_injOn : Set.InjOn Name.of {text | Clear text} := by
  intro text h other h' heq
  have hword := Name.of_eq_iff.mp heq
  refine h.sanitized_injective h' ?_
  by_cases hrestricted : sanitized text ∈ restrictedWords
  · have hlast := h.getLast?_word.mpr hrestricted
    rw [hword] at hlast
    rw [of_eq_of_mem hrestricted, of_eq_of_mem (h'.getLast?_word.mp hlast)] at hword
    exact (String.append_left_inj _).mp hword
  · have hother : sanitized other ∉ restrictedWords := fun hmem =>
      hrestricted (h.getLast?_word.mp (hword ▸ h'.getLast?_word.mpr hmem))
    rw [of_eq_of_notMem hrestricted, of_eq_of_notMem hother] at hword
    exact hword

end Bindery.Crate
