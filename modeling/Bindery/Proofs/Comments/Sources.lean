import Bindery.Package.Printer
import Bindery.Proofs.Comments.Lexical
import Bindery.Proofs.Words

/-! # Comments in source — what pieces of source are read as

    Generated source is put together from phrases of the printer, names, literals and
    comments.  Names are cased, and so they are inert: no character of one opens or
    closes anything, in code or in a literal (`Inert`).  A piece of source is read from
    code to code, with some block comments in between (`Source.Reads`), and pieces that
    are put together have the comments of each (`Source.Reads.append`).

    Lemmas for the kinds of pieces are for `simp`, which takes the pieces of a chain
    away from the left (`Source.reads_behind`).  That a phrase is one is decided for
    its letters (`Phrase`, and `Opening` and `Closing` for phrases next to what stands
    in quotes). -/

namespace Bindery.Package

open Text (HasCases Outside hasCases_outside)

/-! ## Characters -/

/-- Whether a character stands for itself in code. -/
def isQuiet (c : Char) : Bool := c ≠ '\'' && c ≠ '"' && c ≠ '/' && c.toNat ≠ 0x60

/-- Whether a character stands for itself in a literal. -/
def isQuoted (c : Char) : Bool := c ≠ '\'' && c ≠ '\\' && c ≠ '\n' && c ≠ '\r'

section Run

variable {cs : List Char}

/-- Such characters are read as code, -/
theorem run_quiet : ∀ {cs : List Char}, cs.all isQuiet = true →
    run .code cs = some (.code, cs.map .code) := by
  intro cs
  induction cs with
  | nil => exact fun _ => rfl
  | cons c cs ih =>
      intro h
      obtain ⟨hc, hcs⟩ := Bool.and_eq_true_iff.mp h
      simp only [isQuiet, Bool.and_eq_true, decide_eq_true_eq] at hc
      obtain ⟨⟨⟨hquote, hdouble⟩, hslash⟩, hback⟩ := hc
      have hstep : step .code c = some (.code, [.code c]) := by
        rw [step, if_neg hquote, if_neg hslash, if_neg (by simp [hdouble, hback])]
      exact run_cons_eq_some.mpr ⟨_, _, _, hstep, ih hcs, rfl⟩

/-- or as the value of a literal. -/
theorem run_quoted : ∀ {cs : List Char} {units : List UInt16}, cs.all isQuoted = true →
    run (.literal units) cs = some (.literal (units ++ utf16 cs), []) := by
  intro cs
  induction cs with
  | nil =>
      intro units _
      rw [utf16, List.flatMap_nil, List.append_nil, run]
  | cons c cs ih =>
      intro units h
      obtain ⟨hc, hcs⟩ := Bool.and_eq_true_iff.mp h
      simp only [isQuoted, Bool.and_eq_true, decide_eq_true_eq] at hc
      obtain ⟨⟨⟨hquote, hbackslash⟩, hfeed⟩, hreturn⟩ := hc
      have hstep : step (.literal units) c = some (.literal (units ++ unitsOf c.toNat), []) :=
        stepLiteral_self hquote hbackslash hfeed hreturn
      rw [utf16, List.flatMap_cons, ← List.append_assoc]
      exact run_cons_eq_some.mpr ⟨_, _, _, hstep, ih hcs, rfl⟩

/-- Code has no comments. -/
theorem blocksOf_map_code : blocksOf (cs.map .code) = [] := by
  refine List.filterMap_eq_nil_iff.mpr fun piece hmem => ?_
  obtain ⟨c, -, rfl⟩ := List.mem_map.mp hmem
  rfl

end Run

/-! ## Phrases and names -/

/-- Whether a text opens a literal behind some code. -/
def opensLiteral : List Char → Bool
  | [] => false
  | c :: cs => if c = '\'' then cs.all isQuoted else isQuiet c && opensLiteral cs

/-- Whether a text closes a literal in front of some code. -/
def closesLiteral : List Char → Bool
  | [] => false
  | c :: cs => if c = '\'' then cs.all isQuiet else isQuoted c && closesLiteral cs

/-- A phrase of the printer that stands for itself in code, -/
inductive Phrase : String → Prop
  | spelled {cs : List Char} (h : cs.all isQuiet = true) : Phrase (String.ofList cs)

/-- one that opens a literal, -/
inductive Opening : String → Prop
  | spelled {cs : List Char} (h : opensLiteral cs = true) : Opening (String.ofList cs)

/-- and one that closes it. -/
inductive Closing : String → Prop
  | spelled {cs : List Char} (h : closesLiteral cs = true) : Closing (String.ofList cs)

/-- Behind the first reading goes on in a literal, -/
theorem Opening.run {text : String} (h : Opening text) : ∃ units pieces,
    run .code text.toList = some (.literal units, pieces) ∧ blocksOf pieces = [] := by
  obtain ⟨h⟩ := h
  rename_i cs
  rw [String.toList_ofList]
  induction cs with
  | nil => exact absurd h Bool.false_ne_true
  | cons c cs ih =>
      rw [opensLiteral] at h
      split at h
      · next hquote =>
          subst hquote
          exact ⟨_, [], run_cons_eq_some.mpr ⟨_, [], [], rfl, run_quoted h, rfl⟩, rfl⟩
      · obtain ⟨hc, hcs⟩ := Bool.and_eq_true_iff.mp h
        obtain ⟨units, pieces, hrun, hnone⟩ := ih hcs
        have hfirst : Package.run .code [c] = some (.code, [.code c]) :=
          run_quiet (by rw [List.all_cons, hc]; rfl)
        exact ⟨units, .code c :: pieces, run_append hfirst hrun, hnone⟩

/-- and behind the second in code. -/
theorem Closing.run {text : String} (h : Closing text) (units : List UInt16) : ∃ pieces,
    run (.literal units) text.toList = some (.code, pieces) ∧ blocksOf pieces = [] := by
  obtain ⟨h⟩ := h
  rename_i cs
  rw [String.toList_ofList]
  induction cs generalizing units with
  | nil => exact absurd h Bool.false_ne_true
  | cons c cs ih =>
      rw [closesLiteral] at h
      split at h
      · next hquote =>
          subst hquote
          exact ⟨_, run_cons_eq_some.mpr ⟨_, [.literal units], _, rfl, run_quiet h, rfl⟩,
            blocksOf_map_code⟩
      · obtain ⟨hc, hcs⟩ := Bool.and_eq_true_iff.mp h
        obtain ⟨pieces, hrun, hnone⟩ := ih (units ++ utf16 [c]) hcs
        have hfirst : Package.run (.literal units) [c]
            = some (.literal (units ++ utf16 [c]), []) :=
          run_quoted (by rw [List.all_cons, hc]; rfl)
        exact ⟨pieces, run_append hfirst hrun, hnone⟩

/-- A text that stands for itself in code and in literals. -/
class Inert (text : String) : Prop where
  quiet : text.toList.all isQuiet = true
  quoted : text.toList.all isQuoted = true

/-- A character that does so. -/
def isInert (c : Char) : Bool := isQuiet c && isQuoted c

section Names

variable {text other name : String}

/-- Inert texts have inert characters. -/
theorem inert_iff : Inert text ↔ ∀ c ∈ text.toList, isInert c = true := by
  simp only [isInert, Bool.and_eq_true, forall_and, ← List.all_eq_true]
  exact ⟨fun h => ⟨h.quiet, h.quoted⟩, fun h => ⟨h.1, h.2⟩⟩

/-- A phrase can be inert. -/
theorem Inert.spelled {cs : List Char} (h : cs.all isInert = true) : Inert (String.ofList cs) := by
  rw [inert_iff, String.toList_ofList]
  exact List.all_eq_true.mp h

instance Inert.append [Inert text] [Inert other] : Inert (text ++ other) := by
  rw [inert_iff, String.toList_append]
  exact List.forall_mem_append.mpr ⟨inert_iff.mp ‹_›, inert_iff.mp ‹_›⟩

/-- A character outside of three ranges of code points, in which are the marks, the quotes, the
    slashes and the backslashes. -/
structure Unmarked (c : Char) : Prop where
  marks : Outside 1 47 c
  backslash : Outside 92 92 c
  backtick : Outside 96 96 c

/-- Such characters are inert, -/
theorem Unmarked.isInert {c : Char} (h : Unmarked c) : isInert c = true := by
  obtain ⟨hmarks, hbackslash, hbacktick⟩ := h
  have hcode : ∀ d : Char, c = d ↔ c.toNat = d.toNat := fun d => Char.toNat_inj.symm
  unfold Outside at hmarks hbackslash hbacktick
  simp only [Package.isInert, isQuiet, isQuoted, ne_eq, hcode, Bool.and_eq_true,
    decide_eq_true_eq, Char.reduceToNat]
  omega

/-- letters and numbers are among them, -/
theorem unmarked_of_isAlphanumeric {c : Char} (h : Text.isAlphanumeric c = true) :
    Unmarked c := by
  suffices hcode : 47 < c.toNat ∧ c.toNat ≠ 92 ∧ c.toNat ≠ 96 by
    constructor <;> (unfold Outside; omega)
  unfold Text.isAlphanumeric at h
  split at h
  · simp only [Text.isAsciiAlphanumeric, Text.isAsciiUpper, Text.isAsciiLower,
      Text.isAsciiDigit, Bool.or_eq_true, Bool.and_eq_true, decide_eq_true_eq] at h
    omega
  · next hascii =>
      simp only [Text.isAscii, decide_eq_true_eq] at hascii
      omega

/-- and they have their cases. -/
theorem hasCases_unmarked : HasCases Unmarked := by
  have hmarks : HasCases (Outside 1 47) := hasCases_outside (by decide) (by decide) (by decide)
    ⟨by decide +kernel, by decide +kernel⟩ ⟨by decide +kernel, by decide +kernel⟩
  have hbackslash : HasCases (Outside 92 92) := hasCases_outside (by decide) (by decide) (by decide)
    ⟨by decide +kernel, by decide +kernel⟩ ⟨by decide +kernel, by decide +kernel⟩
  have hbacktick : HasCases (Outside 96 96) := hasCases_outside (by decide) (by decide) (by decide)
    ⟨by decide +kernel, by decide +kernel⟩ ⟨by decide +kernel, by decide +kernel⟩
  refine ⟨fun c hc d hd => ?_, fun c hc d hd => ?_, ?_⟩
  · exact ⟨hmarks.lower c hc.marks d hd, hbackslash.lower c hc.backslash d hd,
      hbacktick.lower c hc.backtick d hd⟩
  · exact ⟨hmarks.upper c hc.marks d hd, hbackslash.upper c hc.backslash d hd,
      hbacktick.upper c hc.backtick d hd⟩
  · exact ⟨hmarks.final, hbackslash.final, hbacktick.final⟩

/-- So names in camel case are inert, -/
instance Inert.camelCase : Inert (Text.camelCase name) :=
  inert_iff.mpr fun c hc =>
    (hasCases_unmarked.camelCase (fun _ => unmarked_of_isAlphanumeric) c hc).isInert

/-- in upper camel case, -/
instance Inert.upperCamelCase : Inert (Text.upperCamelCase name) :=
  inert_iff.mpr fun c hc =>
    (hasCases_unmarked.upperCamelCase (fun _ => unmarked_of_isAlphanumeric) c hc).isInert

/-- and in shouty case. -/
instance Inert.shoutyCase : Inert (Text.shoutyCase name) := by
  have hscore : Unmarked '_' := ⟨by decide, by decide, by decide⟩
  exact inert_iff.mpr fun c hc =>
    (hasCases_unmarked.shoutyCase (fun _ => unmarked_of_isAlphanumeric) hscore c hc).isInert

/-- Digits are inert, -/
theorem isInert_of_mem_toDigits {base : Nat} {c : Char} (hone : 1 < base) (hbase : base ≤ 16) :
    ∀ {n : Nat}, c ∈ Nat.toDigits base n → isInert c = true := by
  have hdigit : ∀ d < 16, isInert (Nat.digitChar d) = true := by decide
  intro n
  induction n using Nat.strongRecOn with
  | ind n ih =>
      intro h
      rw [Nat.toDigits_eq_if hone] at h
      split at h
      · next hsmall =>
          rw [List.mem_singleton.mp h]
          exact hdigit n (hsmall.trans_le hbase)
      · next hlarge =>
          rcases List.mem_append.mp h with h | h
          · exact ih (n / base) (Nat.div_lt_self (by omega) hone) h
          · rw [List.mem_singleton.mp h]
            exact hdigit _ ((Nat.mod_lt n (by omega)).trans_le hbase)

/-- and so are numbers. -/
instance Inert.hexadecimal {n : Nat} : Inert (String.ofList (Nat.toDigits 16 n)) :=
  .spelled (List.all_eq_true.mpr fun _ => isInert_of_mem_toDigits (by decide) (by decide))

instance Inert.nat {n : Nat} : Inert (toString n) :=
  .spelled (List.all_eq_true.mpr fun _ => isInert_of_mem_toDigits (by decide) (by decide))

instance Inert.uint64 {n : UInt64} : Inert (toString n) := Inert.nat (n := n.toNat)

instance Inert.int64 {n : Int64} : Inert (toString n) := by
  have hsign : Inert "-" := .spelled (by decide)
  show Inert (toString n.toInt)
  cases n.toInt with
  | ofNat m => exact Inert.nat (n := m)
  | negSucc m => exact inferInstanceAs (Inert ("-" ++ toString (m + 1)))

instance Inert.functionName [Inert text] : Inert (Codec.functionName text) := by
  have hbefore : Inert "get" := .spelled (by decide)
  have hbehind : Inert "Codec" := .spelled (by decide)
  exact inferInstanceAs (Inert ("get" ++ text ++ "Codec"))

instance Inert.finderName : Inert (finderName text) := by
  have hbefore : Inert "find" := .spelled (by decide)
  have hbehind : Inert "Pda" := .spelled (by decide)
  exact inferInstanceAs (Inert ("find" ++ Text.upperCamelCase text ++ "Pda"))

end Names

/-! ## Source that is read -/

/-- A name of another module that an import line can hold. -/
structure Import.Legible (i : Import) : Prop where
  source : i.source.toList.all isQuoted = true
  name : i.name.toList.all isQuiet = true

/-- Source that is read from code to code, with some block comments in between. -/
structure Source.Reads (source : Source) (comments : List String) : Prop where
  text : ∃ pieces, run .code source.text.toList = some (.code, pieces)
    ∧ blocksOf pieces = comments.map String.toList
  imports : ∀ i ∈ source.imports, i.Legible

namespace Source

variable {a b c : Source} {comments others : List String} {text behind name : String}
  {pieces : List Piece}

/-- Texts that are read are source without imports. -/
theorem Reads.of_run (h : run .code text.toList = some (.code, pieces))
    (hblocks : blocksOf pieces = comments.map String.toList) : Reads (text : Source) comments :=
  ⟨⟨pieces, h, hblocks⟩, fun _ hi => nomatch hi⟩

/-- **PIECES OF SOURCE** are read one after the other. -/
theorem Reads.append (ha : a.Reads comments) (hb : b.Reads others) :
    (a ++ b).Reads (comments ++ others) := by
  obtain ⟨pieces, hrun, hblocks⟩ := ha.text
  obtain ⟨rest, hrest, hothers⟩ := hb.text
  refine ⟨⟨pieces ++ rest, ?_, ?_⟩, List.forall_mem_append.mpr ⟨ha.imports, hb.imports⟩⟩
  · show run .code (a.text ++ b.text).toList = _
    rw [String.toList_append]
    exact run_append hrun hrest
  · rw [blocksOf_append, List.map_append, hblocks, hothers]

/-- In front of one without comments there are those of the piece, -/
theorem Reads.before (ha : a.Reads comments) (hb : b.Reads []) : (a ++ b).Reads comments := by
  have happend := ha.append hb
  rwa [List.append_nil] at happend

/-- and behind one the others are read as if it was not there. -/
theorem reads_behind (ha : a.Reads []) : (a ++ b).Reads comments ↔ b.Reads comments := by
  refine ⟨fun h => ?_, fun h => ha.append h⟩
  obtain ⟨before, hbefore, hnone⟩ := ha.text
  obtain ⟨pieces, hrun, hblocks⟩ := h.text
  have htext : (a ++ b).text.toList = a.text.toList ++ b.text.toList := String.toList_append
  rw [htext] at hrun
  obtain ⟨rest, hrest, rfl⟩ := (run_append_eq_some hbefore).mp hrun
  refine ⟨⟨rest, hrest, ?_⟩, fun i hi => h.imports i (List.mem_append_right _ hi)⟩
  rw [← hblocks, blocksOf_append, hnone, List.map_nil, List.nil_append]

/-- Pieces can be put together in any order, -/
@[simp] theorem append_assoc : a ++ b ++ c = a ++ (b ++ c) :=
  congrArg₂ mk String.append_assoc (List.append_assoc _ _ _)

/-- texts can be pieces of their own, -/
@[simp] theorem mk_append : (mk (text ++ behind) [] : Source) = mk text [] ++ mk behind [] := rfl

/-- also where several are joined, -/
theorem mk_join {texts : List String} :
    mk (String.join texts) [] = join (texts.map fun text => mk text []) := by
  induction texts with
  | nil => rfl
  | cons text texts ih =>
      have htext : String.join (text :: texts) = text ++ String.join texts := by
        rw [← String.toList_inj, String.toList_append, String.toList_join, String.toList_join,
          List.flatMap_cons]
      rw [htext, mk_append, ih]
      rfl

/-- with a text in between. -/
theorem mk_intercalate {texts : List String} :
    mk (text.intercalate texts) [] = intercalate text (texts.map fun text => mk text []) := by
  induction texts with
  | nil => rfl
  | cons first texts ih =>
      cases texts with
      | nil => exact congrArg (mk · []) String.intercalate_singleton
      | cons next rest =>
          rw [String.intercalate_cons_cons, mk_append, mk_append, ih]
          rfl

/-! ### Texts -/

/-- Phrases are read, -/
@[simp] theorem reads_phrase (h : Phrase text) : Reads text [] := by
  obtain ⟨hquiet⟩ := h
  refine .of_run (run_quiet ?_) blocksOf_map_code
  rwa [String.toList_ofList]

/-- inert texts, -/
@[simp high] theorem reads_inert [Inert text] : Reads text [] :=
  .of_run (run_quiet Inert.quiet) blocksOf_map_code

/-- literals, -/
@[simp] theorem reads_stringLiteral : Reads (stringLiteral text) [] :=
  .of_run (run_stringLiteral text) rfl

/-- and what stands in quotes. -/
theorem reads_quoted {opening closing : String} (hopening : Opening opening)
    (hname : name.toList.all isQuoted = true) (hclosing : Closing closing) :
    Reads (mk opening [] ++ (mk name [] ++ mk closing [])) [] := by
  obtain ⟨units, before, hbefore, hnone⟩ := hopening.run
  obtain ⟨behind, hbehind, hnone'⟩ := hclosing.run (units ++ utf16 name.toList)
  have hrun := run_append hbefore (run_append (run_quoted hname) hbehind)
  rw [← String.toList_append, ← String.toList_append] at hrun
  refine .of_run hrun ?_
  rw [blocksOf_append, List.nil_append, hnone, hnone']
  rfl

@[simp] theorem reads_quote {opening closing : String} [Inert name] (hopening : Opening opening)
    (hclosing : Closing closing) : Reads (mk opening [] ++ (mk name [] ++ mk closing [])) [] :=
  reads_quoted hopening Inert.quoted hclosing

theorem quoted_kitModule : kitModule.toList.all isQuoted = true := by
  rw [kitModule, String.toList_ofList]
  decide

/-- A name of the library is read, and imported, -/
@[simp] theorem reads_kit (h : Phrase name) : (kit name).Reads [] := by
  refine ⟨(reads_phrase h).text, List.forall_mem_singleton.mpr ⟨quoted_kitModule, ?_⟩⟩
  obtain ⟨hquiet⟩ := h
  rwa [String.toList_ofList]

/-- and so is an inert name of another module. -/
@[simp high] theorem reads_imported {source : String} [Inert name]
    (hsource : source.toList.all isQuoted = true) : (imported source name).Reads [] :=
  have hname : Reads name [] := reads_inert
  ⟨hname.text, List.forall_mem_singleton.mpr ⟨hsource, Inert.quiet⟩⟩

/-- Imports are not read with a piece. -/
theorem reads_needing {source : String} (h : a.Reads comments)
    (hi : (Import.mk source name).Legible) : (needing source name a).Reads comments :=
  ⟨h.text, List.forall_mem_cons.mpr ⟨hi, h.imports⟩⟩

/-- Whatever is behind a piece of these kinds is read as if the piece was not there. -/
@[simp] theorem reads_phrase_append (h : Phrase text) :
    (mk text [] ++ b).Reads comments ↔ b.Reads comments := reads_behind (reads_phrase h)

@[simp high] theorem reads_inert_append [Inert text] :
    (mk text [] ++ b).Reads comments ↔ b.Reads comments := reads_behind reads_inert

@[simp] theorem reads_stringLiteral_append :
    (mk (stringLiteral text) [] ++ b).Reads comments ↔ b.Reads comments :=
  reads_behind reads_stringLiteral

@[simp] theorem reads_quote_append {opening closing : String} [Inert name]
    (hopening : Opening opening) (hclosing : Closing closing) :
    (mk opening [] ++ (mk name [] ++ (mk closing [] ++ b))).Reads comments ↔ b.Reads comments := by
  rw [← append_assoc (a := mk name []), ← append_assoc]
  exact reads_behind (reads_quote hopening hclosing)

@[simp] theorem reads_kit_append (h : Phrase name) :
    (kit name ++ b).Reads comments ↔ b.Reads comments := reads_behind (reads_kit h)

/-! ### Several pieces -/

@[simp] theorem reads_empty : empty.Reads [] := reads_phrase (.spelled (by decide))

variable {α : Type} {items : List α} {f : α → Source} {g : α → List String}

/-- Joined pieces have the comments of each, -/
theorem reads_join (h : ∀ item ∈ items, (f item).Reads (g item)) :
    (join (items.map f)).Reads (items.flatMap g) := by
  induction items with
  | nil => exact reads_empty
  | cons item items ih =>
      obtain ⟨hitem, hitems⟩ := List.forall_mem_cons.mp h
      exact hitem.append (ih hitems)

/-- so that without comments there are none, -/
theorem reads_join_nil (h : ∀ item ∈ items, (f item).Reads []) : (join (items.map f)).Reads [] := by
  have hjoin := reads_join h
  rwa [List.flatMap_eq_nil_iff.mpr fun _ _ => rfl] at hjoin

/-- also with a text in between. -/
theorem reads_intercalate (htext : Phrase text) : ∀ {sources : List Source},
    (∀ source ∈ sources, source.Reads []) → (intercalate text sources).Reads [] := by
  intro sources
  induction sources with
  | nil => exact fun _ => reads_empty
  | cons source sources ih =>
      intro h
      obtain ⟨hsource, hsources⟩ := List.forall_mem_cons.mp h
      cases sources with
      | nil => exact hsource
      | cons next rest => exact (hsource.append (reads_phrase htext)).append (ih hsources)

/-! ### Comments -/

/-- A comment is read as one. -/
theorem reads_comment (h : Comment text) : Reads text [text] :=
  .of_run h.run rfl

/-- A line comment is none of these, -/
theorem reads_line (h : ∀ c ∈ text.toList, isLineEnd c = false) :
    Reads (mk "// " [] ++ (mk text [] ++ mk "\n" [])) [] := by
  have hopened : run .code "// ".toList = some (.line ['/', '/', ' '], []) := by
    rw [String.toList_ofList]
    rfl
  have hclosed : ∀ line, run (.line line) "\n".toList = some (.code, [.line line, .code '\n']) := by
    intro line
    rw [String.toList_ofList]
    rfl
  have hrun := run_append hopened (run_append (run_line h) (hclosed _))
  rw [← String.toList_append, ← String.toList_append] at hrun
  exact .of_run hrun rfl

/-- nor is one with a number behind a statement. -/
@[simp] theorem reads_remark {n : UInt32} :
    Reads (mk "; // " [] ++ (mk (toString n) [] ++ mk "\n" [])) [] := by
  have hnumber : ∀ c ∈ (toString n).toList, isLineEnd c = false := by
    intro c hc
    have hdigits : (toString n).toList = Nat.toDigits 10 n.toNat := Nat.toList_repr
    rw [hdigits] at hc
    exact isLineEnd_of_isDigit (Nat.isDigit_of_mem_toDigits (by decide) (by decide) hc)
  have hsplit : mk "; // " [] = mk "; " [] ++ mk "// " [] := rfl
  have hsemicolon : Phrase "; " := .spelled (by decide)
  rw [hsplit, append_assoc]
  exact (reads_phrase_append hsemicolon).mpr (reads_line hnumber)

/-- Documentation is a comment, if there is any. -/
theorem reads_docBlock {indent : String} (hindent : Blank indent) :
    ∀ {docs : List String}, Reads (docBlock indent docs) (docComment indent docs) := by
  have hcode : Reads indent [] := by
    refine .of_run (run_quiet (List.all_eq_true.mpr fun c hc => ?_)) blocksOf_map_code
    rw [hindent c hc]
    decide
  have hfeed : Reads "\n" [] := reads_phrase (.spelled (by decide))
  intro docs
  rcases docBlock_eq indent docs with ⟨htext, hnone⟩ | ⟨comment, htext, hone⟩
  · rw [htext, hnone]
    exact reads_empty
  · rw [htext, hone]
    have hcomment : Comment comment := comment_docComment hindent (hone ▸ List.mem_cons_self)
    exact hcode.append ((reads_comment hcomment).append hfeed)

/-- Braces are read around a piece. -/
theorem reads_braced (h : a.Reads []) : (braced a).Reads [] := by
  unfold braced
  simp (disch := (constructor; decide)) only [append_assoc, reads_phrase_append, reads_behind h,
    reads_phrase]

end Source

end Bindery.Package
