import Bindery.Proofs.Files.Paths
import Bindery.Text.Words

/-! # Names of files — cased names are plain

    A word of a name has letters and numbers only
    (`Words.isAlphanumeric_of_mem_ofName`).  A class of characters that has all
    letters and numbers and the cases of its characters therefore has those of cased
    names (`HasCases.camelCase` and the others).  Where the tables of mappings lead
    around a range of code points, the characters outside of it are such a class
    (`hasCases_outside`): no case of a letter is a slash or a dot, so that what a
    name is in snake case or camel case is plain, and the name of a file once it
    has an ending. -/

namespace Bindery.Text

/-- A character that neither parts the names of a path nor ends the name of a file. -/
def PlainChar (c : Char) : Prop := c ≠ '/' ∧ c ≠ '.'

/-- A text of plain characters. -/
def Plain (text : String) : Prop := ∀ c ∈ text.toList, PlainChar c

/-- Whether a character is plain can be computed. -/
instance decidablePlainChar (c : Char) : Decidable (PlainChar c) :=
  inferInstanceAs (Decidable (c ≠ '/' ∧ c ≠ '.'))

/-- Whether a text is plain can be computed. -/
instance decidablePlain (text : String) : Decidable (Plain text) :=
  List.decidableBAll PlainChar text.toList

variable {c d : Char} {word : List Char} {name : String} {P : Char → Prop} {low high : Nat}

/-! ## Cases of characters -/

/-- A class of characters that has the cases of its characters. -/
structure HasCases (P : Char → Prop) : Prop where
  lower : ∀ c, P c → ∀ d ∈ toLower c, P d
  upper : ∀ c, P c → ∀ d ∈ toUpper c, P d
  final : P 'ς'

/-- A character outside of a range of code points. -/
def Outside (low high : Nat) (c : Char) : Prop := c.toNat < low ∨ high < c.toNat

/-- Whether a character is outside of a range can be computed. -/
instance decidableOutside (low high : Nat) (c : Char) : Decidable (Outside low high c) :=
  inferInstanceAs (Decidable (c.toNat < low ∨ high < c.toNat))

/-- A table of mappings leads around a range of code points. -/
structure LeadsAround (low high : Nat) (many : List (Nat × List Nat)) (one : List Shift) :
    Prop where
  many : ∀ entry ∈ many, entry.2 ≠ [] ∧ ∀ code ∈ entry.2, code < low ∨ high < code
  one : ∀ shift ∈ one, (shift.last : Int) + shift.distance < low
    ∨ (high : Int) < shift.first + shift.distance

/-- Code points around a range that has not the first of all are characters around it. -/
theorem outside_ofNat {code : Nat} (hlow : 0 < low) (h : code < low ∨ high < code) :
    Outside low high (Char.ofNat code) := by
  unfold Outside Char.ofNat
  by_cases hvalid : code.isValidChar
  · rw [dif_pos hvalid]
    exact h
  · rw [dif_neg hvalid]
    exact .inl hlow

/-- What such a table maps a character around the range to is around it, and there is some. -/
theorem LeadsAround.mapped {many : List (Nat × List Nat)} {one : List Shift}
    (htable : LeadsAround low high many one) (hlow : 0 < low) (hc : Outside low high c) :
    mapped many one c ≠ [] ∧ ∀ d ∈ mapped many one c, Outside low high d := by
  unfold Text.mapped
  cases hmany : many.find? (·.1 = c.toNat) with
  | some entry =>
      obtain ⟨hne, haround⟩ := htable.many entry (List.mem_of_find?_eq_some hmany)
      refine ⟨fun hnil => hne (List.map_eq_nil_iff.mp hnil), fun d hd => ?_⟩
      obtain ⟨code, hcode, rfl⟩ := List.mem_map.mp hd
      exact outside_ofNat hlow (haround code hcode)
  | none =>
      simp only
      cases hone : one.find? fun s => Run.holds ⟨s.first, s.last, s.step⟩ c.toNat with
      | none =>
          simp only [shifted?, hone, Option.map_none]
          exact ⟨List.cons_ne_nil _ _, List.forall_mem_singleton.mpr hc⟩
      | some shift =>
          simp only [shifted?, hone, Option.map_some]
          refine ⟨List.cons_ne_nil _ _, List.forall_mem_singleton.mpr ?_⟩
          have hrun : shift.first ≤ c.toNat ∧ c.toNat ≤ shift.last := by
            have hholds := List.find?_some hone
            simp only [Run.holds, Bool.and_eq_true, decide_eq_true_eq] at hholds
            exact hholds.1
          have hshift := htable.one shift (List.mem_of_find?_eq_some hone)
          exact outside_ofNat hlow (by omega)

/-- The characters outside of a range without letters of ASCII have their cases, if the tables lead
    around the range. -/
theorem hasCases_outside (hlow : 0 < low) (hletters : high < 65 ∨ 90 < low ∧ high < 97)
    (hfinal : Outside low high 'ς') (hlower : LeadsAround low high Table.toLowerMany Table.toLower)
    (hupper : LeadsAround low high Table.toUpperMany Table.toUpper) :
    HasCases (Outside low high) where
  final := hfinal
  lower c hc d hd := by
    unfold toLower at hd
    split at hd
    · split at hd
      · next hcase =>
          simp only [isAsciiUpper, Bool.and_eq_true, decide_eq_true_eq] at hcase
          rw [List.mem_singleton.mp hd]
          exact outside_ofNat hlow (by omega)
      · rwa [List.mem_singleton.mp hd]
    · exact (hlower.mapped hlow hc).2 d hd
  upper c hc d hd := by
    unfold toUpper at hd
    split at hd
    · split at hd
      · next hcase =>
          simp only [isAsciiLower, Bool.and_eq_true, decide_eq_true_eq] at hcase
          rw [List.mem_singleton.mp hd]
          exact outside_ofNat hlow (by omega)
      · rwa [List.mem_singleton.mp hd]
    · exact (hupper.mapped hlow hc).2 d hd

/-! ## Words -/

namespace Words

/-- Words are cut from the characters that are there. -/
theorem mem_of_mem_cut : ∀ {cs before word : List Char} {mode : Mode},
    word ∈ cut mode before cs → c ∈ word → c ∈ before ∨ c ∈ cs := by
  intro cs
  induction cs with
  | nil => intro before word mode hword _; exact nomatch hword
  | cons first cs ih =>
      intro before word mode hword hc
      have hended : c ∈ (first :: before).reverse → c ∈ before ∨ c ∈ first :: cs := by
        intro hmem
        rcases List.mem_cons.mp (List.mem_reverse.mp hmem) with rfl | hmem
        · exact .inr List.mem_cons_self
        · exact .inl hmem
      -- a word ends here, in front of here, or further on
      cases cs with
      | nil =>
          rw [List.mem_singleton.mp hword] at hc
          exact hended hc
      | cons next rest =>
          unfold cut at hword
          split at hword
          · rcases List.mem_cons.mp hword with rfl | hword
            · exact hended hc
            · rcases ih hword hc with hmem | hmem
              · exact nomatch hmem
              · exact .inr (List.mem_cons_of_mem first hmem)
          · split at hword
            · rcases List.mem_cons.mp hword with rfl | hword
              · exact .inl (List.mem_reverse.mp hc)
              · rcases ih hword hc with hmem | hmem
                · exact .inr (List.mem_singleton.mp hmem ▸ List.mem_cons_self)
                · exact .inr (List.mem_cons_of_mem first hmem)
            · rcases ih hword hc with hmem | hmem
              · exact hended (List.mem_reverse.mpr hmem)
              · exact .inr (List.mem_cons_of_mem first hmem)

/-- Pieces have letters and numbers only. -/
theorem isAlphanumeric_of_mem_pieces : ∀ {cs piece : List Char}, piece ∈ pieces cs →
    c ∈ piece → isAlphanumeric c = true := by
  intro cs
  induction cs with
  | nil =>
      intro piece hpiece hc
      rw [List.mem_singleton.mp hpiece] at hc
      exact nomatch hc
  | cons first cs ih =>
      intro piece hpiece hc
      unfold pieces at hpiece
      split at hpiece
      · rename_i hfirst
        cases hcs : pieces cs with
        | nil =>
            simp only [hcs, List.mem_singleton] at hpiece
            rw [hpiece] at hc
            rwa [List.mem_singleton.mp hc]
        | cons next rest =>
            simp only [hcs, List.mem_cons] at hpiece
            rcases hpiece with rfl | hpiece
            · rcases List.mem_cons.mp hc with rfl | hc
              · exact hfirst
              · exact ih (hcs ▸ List.mem_cons_self) hc
            · exact ih (hcs ▸ List.mem_cons_of_mem next hpiece) hc
      · rcases List.mem_cons.mp hpiece with rfl | hpiece
        · exact nomatch hc
        · exact ih hpiece hc

/-- Words have letters and numbers only. -/
theorem isAlphanumeric_of_mem_ofName (hword : word ∈ ofName name) :
    ∀ c ∈ word, isAlphanumeric c = true := by
  intro c hc
  obtain ⟨piece, hpiece, hcut⟩ := List.mem_flatMap.mp hword
  rcases mem_of_mem_cut hcut hc with hbefore | hmem
  · exact nomatch hbefore
  · exact isAlphanumeric_of_mem_pieces hpiece hmem

/-- A word in lower case stays in a class with cases, -/
theorem of_mem_lower (hP : HasCases P) : ∀ {word : List Char}, (∀ c ∈ word, P c) →
    ∀ d ∈ lower word, P d := by
  intro word
  induction word with
  | nil => exact fun _ d hd => (nomatch hd)
  | cons first word ih =>
      intro h d hd
      obtain ⟨hfirst, hword⟩ := List.forall_mem_cons.mp h
      cases word with
      | nil =>
          unfold lower at hd
          split at hd
          · rw [List.mem_singleton.mp hd]
            exact hP.final
          · exact hP.lower first hfirst d hd
      | cons next rest =>
          rcases List.mem_append.mp hd with hd | hd
          · exact hP.lower first hfirst d hd
          · exact ih hword d hd

/-- and so does one in upper case, -/
theorem of_mem_upper (hP : HasCases P) (h : ∀ c ∈ word, P c) : ∀ d ∈ upper word, P d := by
  intro d hd
  obtain ⟨c, hc, hd⟩ := List.mem_flatMap.mp hd
  exact hP.upper c (h c hc) d hd

/-- or a capitalized one. -/
theorem of_mem_capitalized (hP : HasCases P) (h : ∀ c ∈ word, P c) :
    ∀ d ∈ capitalized word, P d := by
  intro d hd
  cases word with
  | nil => exact nomatch hd
  | cons first word =>
      obtain ⟨hfirst, hword⟩ := List.forall_mem_cons.mp h
      rcases List.mem_append.mp hd with hd | hd
      · exact hP.upper first hfirst d hd
      · exact of_mem_lower hP hword d hd

end Words

/-- Joined pieces have their characters and separators. -/
theorem mem_of_mem_joinAt {separator : Char} : ∀ {pieces : List (List Char)},
    c ∈ joinAt separator pieces → c = separator ∨ ∃ piece ∈ pieces, c ∈ piece := by
  intro pieces
  induction pieces with
  | nil => intro h; exact nomatch h
  | cons piece pieces ih =>
      intro h
      cases pieces with
      | nil => exact .inr ⟨piece, List.mem_cons_self, h⟩
      | cons next rest =>
          rcases List.mem_append.mp h with h | h
          · exact .inr ⟨piece, List.mem_cons_self, h⟩
          · rcases List.mem_cons.mp h with h | h
            · exact .inl h
            · rcases ih h with h | ⟨found, hfound, h⟩
              · exact .inl h
              · exact .inr ⟨found, List.mem_cons_of_mem piece hfound, h⟩

/-! ## Cases of names -/

section Cased

variable (hP : HasCases P) (h : ∀ c, isAlphanumeric c = true → P c)

include hP h

/-- A name in camel case has characters of a class with cases that has letters and numbers, -/
theorem HasCases.camelCase : ∀ c ∈ (camelCase name).toList, P c := by
  have hwords : ∀ word ∈ Words.ofName name, ∀ c ∈ word, P c := fun word hword c hc =>
    h c (Words.isAlphanumeric_of_mem_ofName hword c hc)
  intro c hc
  rw [Text.camelCase, String.toList_ofList] at hc
  cases hname : Words.ofName name with
  | nil => simp only [hname] at hc; exact nomatch hc
  | cons first rest =>
      rw [hname] at hwords
      simp only [hname] at hc
      obtain ⟨hfirst, hrest⟩ := List.forall_mem_cons.mp hwords
      rcases List.mem_append.mp hc with hc | hc
      · exact Words.of_mem_lower hP hfirst c hc
      · obtain ⟨word, hword, hc⟩ := List.mem_flatMap.mp hc
        exact Words.of_mem_capitalized hP (hrest word hword) c hc

/-- in upper camel case, -/
theorem HasCases.upperCamelCase : ∀ c ∈ (upperCamelCase name).toList, P c := by
  intro c hc
  rw [Text.upperCamelCase, String.toList_ofList] at hc
  obtain ⟨word, hword, hc⟩ := List.mem_flatMap.mp hc
  exact Words.of_mem_capitalized hP
    (fun d hd => h d (Words.isAlphanumeric_of_mem_ofName hword d hd)) c hc

/-- and, if it has the underscore, in snake case -/
theorem HasCases.snakeCase (hscore : P '_') : ∀ c ∈ (snakeCase name).toList, P c := by
  intro c hc
  rw [Text.snakeCase, String.toList_ofList] at hc
  rcases mem_of_mem_joinAt hc with rfl | ⟨piece, hpiece, hc⟩
  · exact hscore
  · obtain ⟨word, hword, rfl⟩ := List.mem_map.mp hpiece
    exact Words.of_mem_lower hP
      (fun d hd => h d (Words.isAlphanumeric_of_mem_ofName hword d hd)) c hc

/-- and in shouty case. -/
theorem HasCases.shoutyCase (hscore : P '_') : ∀ c ∈ (shoutyCase name).toList, P c := by
  intro c hc
  rw [Text.shoutyCase, String.toList_ofList] at hc
  rcases mem_of_mem_joinAt hc with rfl | ⟨piece, hpiece, hc⟩
  · exact hscore
  · obtain ⟨word, hword, rfl⟩ := List.mem_map.mp hpiece
    exact Words.of_mem_upper hP
      (fun d hd => h d (Words.isAlphanumeric_of_mem_ofName hword d hd)) c hc

end Cased

/-! ## Plain names -/

/-- Slashes and dots have the two code points of a range. -/
theorem plainChar_iff : PlainChar c ↔ Outside 46 47 c := by
  have hcode : ∀ d : Char, c = d ↔ c.toNat = d.toNat := fun d => Char.toNat_inj.symm
  unfold PlainChar Outside
  rw [ne_eq, ne_eq, hcode, hcode]
  show ¬ c.toNat = 47 ∧ ¬ c.toNat = 46 ↔ _
  omega

/-- Letters and numbers are plain, -/
theorem plain_of_isAlphanumeric (h : isAlphanumeric c = true) : PlainChar c := by
  constructor
  · rintro rfl
    exact absurd h (by decide)
  · rintro rfl
    exact absurd h (by decide)

/-- and so are the cases of plain characters. -/
theorem hasCases_plain : HasCases PlainChar := by
  have houtside : HasCases (Outside 46 47) := hasCases_outside (by decide) (by decide) (by decide)
    ⟨by decide +kernel, by decide +kernel⟩ ⟨by decide +kernel, by decide +kernel⟩
  rwa [← funext fun c => propext (plainChar_iff (c := c))] at houtside

/-- **SNAKE CASE IS PLAIN**, -/
theorem plain_snakeCase (name : String) : Plain (snakeCase name) :=
  hasCases_plain.snakeCase (fun _ => plain_of_isAlphanumeric) (by decide)

/-- **AND SO IS CAMEL CASE**. -/
theorem plain_camelCase (name : String) : Plain (camelCase name) :=
  hasCases_plain.camelCase fun _ => plain_of_isAlphanumeric

end Bindery.Text

namespace Bindery.FilePath

open Text (Plain)

variable {name ending : String}

/-- What stands behind the name of a file: a dot and some letters. -/
structure Ending (ending : String) : Prop where
  unslashed : '/' ∉ ending.toList
  dotted : '.' ∈ ending.toList
  long : 2 < ending.toList.length

/-- A plain name is that of a directory. -/
theorem ordinary_of_plain (h : Plain name) (hne : name ≠ "") : Ordinary name where
  nonempty := hne
  unslashed hslash := (h '/' hslash).1 rfl
  notHere := by
    rintro rfl
    exact (h '.' (by decide)).2 rfl
  notAbove := by
    rintro rfl
    exact (h '.' (by decide)).2 rfl

/-- A name without slashes that has an ending is that of a file, -/
theorem ordinary_ending (h : '/' ∉ name.toList) (hending : Ending ending) :
    Ordinary (name ++ ending) := by
  have hlong : 2 < (name ++ ending).toList.length := by
    rw [String.toList_append, List.length_append]
    exact Nat.lt_add_left _ hending.long
  constructor
  · intro heq
    rw [heq] at hlong
    exact absurd hlong (by decide)
  · rw [String.toList_append, List.mem_append]
    exact not_or.mpr ⟨h, hending.unslashed⟩
  · intro heq
    rw [heq] at hlong
    exact absurd hlong (by decide)
  · intro heq
    rw [heq] at hlong
    exact absurd hlong (by decide)

/-- and so is a plain one. -/
theorem ordinary_file (h : Plain name) (hending : Ending ending) : Ordinary (name ++ ending) :=
  ordinary_ending (fun hslash => (h '/' hslash).1 rfl) hending

/-- A directory has no name of a file. -/
theorem plain_ne_file {directory : String} (h : Plain directory) (hending : Ending ending) :
    directory ≠ name ++ ending := by
  rintro rfl
  refine (h '.' ?_).2 rfl
  rw [String.toList_append]
  exact List.mem_append_right _ hending.dotted

end Bindery.FilePath
