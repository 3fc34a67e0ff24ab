import Bindery.Json.Text
import Bindery.Package.Source
import Bindery.Text.Char
import Mathlib.Data.List.Induction

/-! # Lexical pieces — how generated TypeScript is read

    Source is read from left to right, one character at a time: in code, in a comment
    or in a literal in single quotes, with the escapes that the standard of 2019 gives
    for those (`Reading`, `step`).  What has been read is a list of pieces, each a
    character of code, the value of a literal, or the text of a comment (`lex`).
    Templates, literals in double quotes, divisions and regular expressions are not
    read at all: generated source has none.

    Reading is compositional (`run_append`).  Whatever text is written as a literal is
    read as that one literal, with the text as its value (`lex_stringLiteral`), and
    whatever is read, a block comment is at its end where its first terminator is
    (`endOnce_of_lex`). -/

namespace Bindery.Package

/-! ## Pieces -/

/-- A piece of source: a character of code, a literal by its value, or a comment by its text. -/
inductive Piece where
  | code (c : Char)
  | literal (units : List UInt16)
  | line (text : List Char)
  | block (text : List Char)
deriving DecidableEq

/-- The text of a block comment. -/
def Piece.block? : Piece → Option (List Char)
  | .block text => some text
  | .code _ | .literal _ | .line _ => none

/-- The block comments among some pieces. -/
def blocksOf (pieces : List Piece) : List (List Char) := pieces.filterMap Piece.block?

/-- Two lists of pieces have the comments of both. -/
theorem blocksOf_append {pieces others : List Piece} :
    blocksOf (pieces ++ others) = blocksOf pieces ++ blocksOf others := List.filterMap_append

/-- The units of a code point: itself, or two surrogates. -/
def unitsOf (code : Nat) : List UInt16 :=
  if code < 0x10000 then [UInt16.ofNat code]
  else [UInt16.ofNat (0xD800 + (code - 0x10000) / 0x400),
    UInt16.ofNat (0xDC00 + (code - 0x10000) % 0x400)]

/-- The value of a text in the language: the units of its characters. -/
def utf16 (cs : List Char) : List UInt16 := cs.flatMap fun c => unitsOf c.toNat

/-! ## Reading -/

/-- Where reading is: in code, behind a slash there, in a comment whose text so far is known, behind
    an asterisk in one, or in a literal whose value so far is known.  In a literal that is
    between escapes, behind a backslash, behind the escape of the null character, at the hexadecimal
    digits of an escape, or behind an escaped carriage return. -/
inductive Reading where
  | code
  | slash
  | line (text : List Char)
  | block (text : List Char)
  | star (text : List Char)
  | literal (units : List UInt16)
  | escape (units : List UInt16)
  | null (units : List UInt16)
  | unicode (units : List UInt16)
  | digits (units : List UInt16) (missing value : Nat)
  | braced (units : List UInt16) (value? : Option Nat)
  | carriage (units : List UInt16)
deriving DecidableEq

/-- The line separator and the paragraph separator. -/
def isLineSeparator (c : Char) : Bool := c.toNat = 0x2028 || c.toNat = 0x2029

/-- The characters that end a line. -/
def isLineEnd (c : Char) : Bool := c = '\n' || c = '\r' || isLineSeparator c

/-- The escapes of single letters. -/
def letterEscapes : List (Char × Nat) :=
  [('b', 0x08), ('t', 0x09), ('n', 0x0A), ('v', 0x0B), ('f', 0x0C), ('r', 0x0D)]

/-- A character between the escapes of a literal. -/
def stepLiteral (units : List UInt16) (c : Char) : Option (Reading × List Piece) :=
  if c = '\'' then some (.code, [.literal units])
  else if c = '\\' then some (.escape units, [])
  else if c = '\n' || c = '\r' then none
  else some (.literal (units ++ unitsOf c.toNat), [])

/-- A hexadecimal digit where `missing + 1` of them are expected. -/
def stepDigit (units : List UInt16) (missing value : Nat) (c : Char) :
    Option (Reading × List Piece) := do
  let value := 16 * value + (← Draft.hexValue? c)
  match missing with
  | 0 => return (.literal (units ++ [UInt16.ofNat value]), [])
  | missing + 1 => return (.digits units missing value, [])

/-- A character behind a backslash in a literal.  Line ends are passed over, and so is the backslash
    in front of a character that has no escape of its own; digits have none but zero. -/
def stepEscape (units : List UInt16) (c : Char) : Option (Reading × List Piece) :=
  match letterEscapes.find? (·.1 = c) with
  | some (_, code) => some (.literal (units ++ unitsOf code), [])
  | none =>
    if c = '0' then some (.null units, [])
    else if c = 'x' then some (.digits units 1 0, [])
    else if c = 'u' then some (.unicode units, [])
    else if c = '\r' then some (.carriage units, [])
    else if c = '\n' || isLineSeparator c then some (.literal units, [])
    else if Text.isAsciiDigit c then none
    else some (.literal (units ++ unitsOf c.toNat), [])

/-- A digit or the closing brace of the escape of a code point. -/
def stepBraced (units : List UInt16) (value? : Option Nat) (c : Char) :
    Option (Reading × List Piece) := do
  if c = '\x7d' then return (.literal (units ++ unitsOf (← value?)), [])
  let value := 16 * value?.getD 0 + (← Draft.hexValue? c)
  if value ≤ 0x10FFFF then return (.braced units (some value), []) else none

/-- The next character: where reading goes on, and the pieces that end with it. -/
def step : Reading → Char → Option (Reading × List Piece)
  | .code, c =>
    if c = '\'' then some (.literal [], [])
    else if c = '/' then some (.slash, [])
    else if c = '"' || c.toNat = 0x60 then none
    else some (.code, [.code c])
  | .slash, c =>
    if c = '/' then some (.line ['/', '/'], [])
    else if c = '*' then some (.block ['/', '*'], [])
    else none
  | .line text, c =>
    if isLineEnd c then some (.code, [.line text, .code c]) else some (.line (text ++ [c]), [])
  | .block text, c => some (if c = '*' then .star (text ++ [c]) else .block (text ++ [c]), [])
  | .star text, c =>
    if c = '/' then some (.code, [.block (text ++ [c])])
    else some (if c = '*' then .star (text ++ [c]) else .block (text ++ [c]), [])
  | .literal units, c => stepLiteral units c
  | .escape units, c => stepEscape units c
  | .null units, c => if Text.isAsciiDigit c then none else stepLiteral (units ++ [0]) c
  | .unicode units, c => if c = '\x7b' then some (.braced units none, []) else stepDigit units 3 0 c
  | .digits units missing value, c => stepDigit units missing value c
  | .braced units value?, c => stepBraced units value? c
  | .carriage units, c => if c = '\n' then some (.literal units, []) else stepLiteral units c

/-- All characters of a text, one after another. -/
def run : Reading → List Char → Option (Reading × List Piece)
  | reading, [] => some (reading, [])
  | reading, c :: cs => (step reading c).bind fun (next, pieces) =>
    (run next cs).map fun (last, rest) => (last, pieces ++ rest)

/-- The pieces of source, which has to end in code. -/
def lex (cs : List Char) : Option (List Piece) :=
  match run .code cs with
  | some (.code, pieces) => some pieces
  | _ => none

section Run

variable {reading next last : Reading} {cs rest : List Char} {pieces others : List Piece} {c : Char}
  {units : List UInt16}

/-- What is read has a first step and the others. -/
theorem run_cons_eq_some : run reading (c :: cs) = some (last, others) ↔
    ∃ next pieces rest, step reading c = some (next, pieces) ∧ run next cs = some (last, rest)
      ∧ others = pieces ++ rest := by
  rw [run, Option.bind_eq_some_iff]
  constructor
  · rintro ⟨⟨next, pieces⟩, hstep, h⟩
    obtain ⟨⟨last', rest⟩, hrun, h⟩ := Option.map_eq_some_iff.mp h
    obtain ⟨rfl, rfl⟩ := Prod.mk.inj h
    exact ⟨next, pieces, rest, hstep, hrun, rfl⟩
  · rintro ⟨next, pieces, rest, hstep, hrun, rfl⟩
    refine ⟨(next, pieces), hstep, ?_⟩
    dsimp only
    rw [hrun, Option.map_some]

/-- **READING GOES ON** where it was, behind any part of a text. -/
theorem run_append_eq_some : ∀ {cs : List Char} {reading next last : Reading}
    {pieces others : List Piece}, run reading cs = some (next, pieces) →
      (run reading (cs ++ rest) = some (last, others)
        ↔ ∃ more, run next rest = some (last, more) ∧ others = pieces ++ more) := by
  intro cs
  induction cs with
  | nil =>
      intro reading next last pieces others h
      obtain ⟨rfl, rfl⟩ := Prod.mk.inj (Option.some.inj h)
      exact ⟨fun h => ⟨others, h, rfl⟩, fun ⟨more, h, heq⟩ => heq ▸ h⟩
  | cons c cs ih =>
      intro reading next last pieces others h
      obtain ⟨middle, first, found, hstep, hrun, rfl⟩ := run_cons_eq_some.mp h
      rw [List.cons_append, run_cons_eq_some]
      constructor
      · rintro ⟨middle', first', all, hstep', hall, rfl⟩
        obtain ⟨rfl, rfl⟩ := Prod.mk.inj (Option.some.inj (hstep.symm.trans hstep'))
        obtain ⟨more, hmore, rfl⟩ := (ih hrun).mp hall
        exact ⟨more, hmore, (List.append_assoc first found more).symm⟩
      · rintro ⟨more, hmore, rfl⟩
        exact ⟨middle, first, found ++ more, hstep, (ih hrun).mpr ⟨more, hmore, rfl⟩,
          List.append_assoc first found more⟩

/-- Two parts of a text are read one after the other. -/
theorem run_append (h : run reading cs = some (next, pieces))
    (h' : run next rest = some (last, others)) :
    run reading (cs ++ rest) = some (last, pieces ++ others) :=
  (run_append_eq_some h).mpr ⟨others, h', rfl⟩

/-- Characters that are read alike are read one after another. -/
theorem run_flatMap {f : Char → List Char} (h : ∀ units c,
      run (.literal units) (f c) = some (.literal (units ++ unitsOf c.toNat), [])) :
    ∀ {cs : List Char} {units : List UInt16},
      run (.literal units) (cs.flatMap f) = some (.literal (units ++ utf16 cs), []) := by
  intro cs
  induction cs with
  | nil =>
      intro units
      rw [List.flatMap_nil, utf16, List.flatMap_nil, List.append_nil, run]
  | cons c cs ih =>
      intro units
      rw [List.flatMap_cons, utf16, List.flatMap_cons, ← List.append_assoc]
      exact run_append (h units c) ih

/-! ## Literals -/

/-- A character without an escape stands for itself in a literal. -/
theorem stepLiteral_self (hquote : c ≠ '\'') (hbackslash : c ≠ '\\') (hfeed : c ≠ '\n')
    (hreturn : c ≠ '\r') : stepLiteral units c = some (.literal (units ++ unitsOf c.toNat), []) := by
  unfold stepLiteral
  rw [if_neg hquote, if_neg hbackslash, if_neg (by simp [hfeed, hreturn])]

/-- Every character is read as itself. -/
theorem run_escapeChar (units : List UInt16) (c : Char) :
    run (.literal units) (escapeChar c) = some (.literal (units ++ unitsOf c.toNat), []) := by
  have hcode : ∀ d : Char, c.toNat = d.toNat → c = d := fun d => Char.toNat_inj.mp
  unfold escapeChar
  split
  · next h =>
      obtain rfl := hcode '\'' h
      rfl
  · next hquote =>
      split
      · next h =>
          obtain rfl := hcode '\\' h
          rfl
      · next hbackslash =>
          split
          · next h =>
              obtain rfl := hcode '\n' h
              rfl
          · next hfeed =>
              split
              · next h =>
                  obtain rfl := hcode '\r' h
                  rfl
              · next hreturn =>
                  have hstep : stepLiteral units c
                      = some (.literal (units ++ unitsOf c.toNat), []) := by
                    refine stepLiteral_self ?_ ?_ ?_ ?_
                    · rintro rfl; exact hquote rfl
                    · rintro rfl; exact hbackslash rfl
                    · rintro rfl; exact hfeed rfl
                    · rintro rfl; exact hreturn rfl
                  exact run_cons_eq_some.mpr ⟨_, [], [], hstep, rfl, rfl⟩

/-- **ONE LITERAL**: a text that is written as a literal is read as one, whose value it is. -/
theorem run_stringLiteral (text : String) :
    run .code (stringLiteral text).toList = some (.code, [.literal (utf16 text.toList)]) := by
  have hopened : run .code ['\''] = some (.literal [], []) := rfl
  have hclosed : ∀ units, run (.literal units) ['\''] = some (.code, [.literal units]) :=
    fun units => rfl
  rw [stringLiteral, String.toList_append, String.toList_append, String.toList_ofList,
    String.toList_ofList]
  exact run_append (run_append hopened (run_flatMap run_escapeChar)) (hclosed _)

/-- On its own a text that is written as a literal is that literal. -/
theorem lex_stringLiteral (text : String) :
    lex (stringLiteral text).toList = some [.literal (utf16 text.toList)] := by
  rw [lex, run_stringLiteral]

end Run

/-! ## Ends of comments -/

/-- A text in which no comment ends. -/
def Endless (cs : List Char) : Prop := ∀ before after, cs ≠ before ++ '*' :: '/' :: after

/-- A block comment whose only terminator is its end. -/
structure EndsOnce (comment : List Char) : Prop where
  split : ∃ inside, comment = '/' :: '*' :: inside ++ ['*', '/']
    ∧ ∀ before after, inside ++ ['*', '/'] = before ++ '*' :: '/' :: after → after = []

/-- Some character more ends no comment, unless it is the slash behind an asterisk. -/
theorem Endless.concat {cs : List Char} {c : Char} (h : Endless cs)
    (hc : c = '/' → cs.getLast? ≠ some '*') : Endless (cs ++ [c]) := by
  intro before after heq
  rcases List.eq_nil_or_concat after with rfl | ⟨after, last, rfl⟩
  · have hsplit : cs ++ [c] = (before ++ ['*']) ++ ['/'] := by simpa using heq
    obtain ⟨rfl, hlast⟩ := List.append_inj' hsplit rfl
    exact hc (List.singleton_inj.mp hlast) List.getLast?_concat
  · have hsplit : cs ++ [c] = (before ++ '*' :: '/' :: after) ++ [last] := by simpa using heq
    exact h before after (List.append_inj' hsplit rfl).1

/-- A comment that ends behind an endless text ends there for the first time. -/
theorem Endless.endsOnce {inside : List Char} (h : Endless (inside ++ ['*'])) :
    EndsOnce ('/' :: '*' :: inside ++ ['*', '/']) := by
  refine ⟨inside, rfl, fun before after heq => ?_⟩
  rcases List.eq_nil_or_concat after with rfl | ⟨after, last, rfl⟩
  · rfl
  · have hsplit : (inside ++ ['*']) ++ ['/'] = (before ++ '*' :: '/' :: after) ++ [last] := by
      simpa using heq
    exact absurd (List.append_inj' hsplit rfl).1 (h before after)

/-- What is known of a comment while it is read: nothing behind its opening ends it, and reading is
    behind an asterisk of it where it says so. -/
def Reading.Sound : Reading → Prop
  | .block text => ∃ inside, text = '/' :: '*' :: inside ∧ Endless inside
      ∧ inside.getLast? ≠ some '*'
  | .star text => ∃ inside, text = '/' :: '*' :: inside ++ ['*'] ∧ Endless (inside ++ ['*'])
  | _ => True

/-- The block comments among some pieces end once. -/
def EndOnce (pieces : List Piece) : Prop := ∀ comment ∈ blocksOf pieces, EndsOnce comment

/-- Reading one more character of a comment. -/
theorem sound_more {inside : List Char} {c : Char} (h : Endless inside)
    (hc : c = '/' → inside.getLast? ≠ some '*') :
    Reading.Sound (if c = '*' then .star ('/' :: '*' :: inside ++ [c])
      else .block ('/' :: '*' :: inside ++ [c])) := by
  split
  · next hstar =>
      subst hstar
      exact ⟨inside, rfl, h.concat hc⟩
  · next hother =>
      refine ⟨inside ++ [c], rfl, h.concat hc, ?_⟩
      rw [List.getLast?_concat]
      exact fun heq => hother (Option.some.inj heq)

section Sound

variable {reading next last : Reading} {pieces others : List Piece} {c : Char} {cs : List Char}
  {units : List UInt16}

/-- A step, if there is one, leads to a sound reading and ends comments once. -/
def Kept (outcome : Option (Reading × List Piece)) : Prop :=
  ∀ next pieces, outcome = some (next, pieces) → next.Sound ∧ EndOnce pieces

theorem kept_none : Kept none := fun _ _ h => nomatch h

theorem kept_some (hnext : next.Sound) (hpieces : EndOnce pieces) : Kept (some (next, pieces)) := by
  intro next' pieces' h
  obtain ⟨rfl, rfl⟩ := Prod.mk.inj (Option.some.inj h)
  exact ⟨hnext, hpieces⟩

/-- Without pieces there are no comments, -/
theorem endOnce_nil : EndOnce [] := fun _ hmem => nomatch hmem

/-- and with two lists of pieces there are those of both. -/
theorem EndOnce.append (h : EndOnce pieces) (h' : EndOnce others) : EndOnce (pieces ++ others) := by
  intro comment hmem
  rw [blocksOf_append, List.mem_append] at hmem
  exact hmem.elim (h comment) (h' comment)

/-- In a literal there are no comments, -/
theorem kept_stepLiteral : Kept (stepLiteral units c) := by
  unfold stepLiteral
  split
  · exact kept_some trivial fun _ hmem => nomatch hmem
  · split
    · exact kept_some trivial endOnce_nil
    · split
      · exact kept_none
      · exact kept_some trivial endOnce_nil

/-- at the digits of an escape, -/
theorem kept_stepDigit {missing value : Nat} : Kept (stepDigit units missing value c) := by
  unfold stepDigit
  cases Draft.hexValue? c with
  | none => exact kept_none
  | some digit => cases missing <;> exact kept_some trivial endOnce_nil

/-- in braces, -/
theorem kept_stepBraced {value? : Option Nat} : Kept (stepBraced units value? c) := by
  unfold stepBraced
  split
  · cases value? with
    | none => exact kept_none
    | some value => exact kept_some trivial endOnce_nil
  · cases Draft.hexValue? c with
    | none => exact kept_none
    | some digit =>
        dsimp only [Option.bind_eq_bind, Option.bind_some]
        split
        · exact kept_some trivial endOnce_nil
        · exact kept_none

/-- or behind a backslash. -/
theorem kept_stepEscape : Kept (stepEscape units c) := by
  unfold stepEscape
  split
  · exact kept_some trivial endOnce_nil
  · repeat' split
    all_goals first
      | exact kept_some trivial endOnce_nil
      | exact kept_none

/-- **ONE CHARACTER** of whatever source keeps reading sound. -/
theorem Reading.Sound.step (h : reading.Sound) : Kept (step reading c) := by
  cases reading with
  | code =>
      rw [Package.step]
      repeat' split
      all_goals first
        | exact kept_none
        | exact kept_some trivial fun _ hmem => nomatch hmem
  | slash =>
      rw [Package.step]
      split
      · exact kept_some trivial endOnce_nil
      · split
        · refine kept_some ⟨[], rfl, fun before after heq => ?_, fun heq => nomatch heq⟩ endOnce_nil
          cases before <;> exact nomatch heq
        · exact kept_none
  | line text =>
      rw [Package.step]
      split
      · exact kept_some trivial fun _ hmem => nomatch hmem
      · exact kept_some trivial endOnce_nil
  | block text =>
      obtain ⟨inside, rfl, hendless, hlast⟩ := h
      exact kept_some (sound_more hendless fun _ => hlast) endOnce_nil
  | star text =>
      obtain ⟨inside, rfl, hendless⟩ := h
      rw [Package.step]
      split
      · next hslash =>
          subst hslash
          refine kept_some trivial fun comment hmem => ?_
          rw [List.mem_singleton.mp hmem]
          have hends := hendless.endsOnce
          simpa using hends
      · next hother =>
          exact kept_some (sound_more hendless fun heq => absurd heq hother) endOnce_nil
  | literal units => exact kept_stepLiteral
  | escape units => exact kept_stepEscape
  | null units =>
      rw [Package.step]
      split
      · exact kept_none
      · exact kept_stepLiteral
  | unicode units =>
      rw [Package.step]
      split
      · exact kept_some trivial endOnce_nil
      · exact kept_stepDigit
  | digits units missing value => exact kept_stepDigit
  | braced units value? => exact kept_stepBraced
  | carriage units =>
      rw [Package.step]
      split
      · exact kept_some trivial endOnce_nil
      · exact kept_stepLiteral

/-- **ANY SOURCE**: the block comments that are read in it end once. -/
theorem Reading.Sound.run : ∀ {cs : List Char} {reading last : Reading} {pieces : List Piece},
    reading.Sound → run reading cs = some (last, pieces) → last.Sound ∧ EndOnce pieces := by
  intro cs
  induction cs with
  | nil =>
      intro reading last pieces hs h
      obtain ⟨rfl, rfl⟩ := Prod.mk.inj (Option.some.inj h)
      exact ⟨hs, endOnce_nil⟩
  | cons c cs ih =>
      intro reading last pieces hs h
      obtain ⟨next, first, rest, hstep, hrun, rfl⟩ := run_cons_eq_some.mp h
      obtain ⟨hnext, hfirst⟩ := hs.step _ _ hstep
      obtain ⟨hlast, hrest⟩ := ih hnext hrun
      exact ⟨hlast, hfirst.append hrest⟩

/-- So do those of whole source. -/
theorem endOnce_of_lex (h : lex cs = some pieces) : EndOnce pieces := by
  unfold lex at h
  split at h
  · next found hrun =>
      obtain rfl := Option.some.inj h
      have hcode : Reading.code.Sound := trivial
      exact (hcode.run hrun).2
  · exact nomatch h

end Sound

/-! ## Comments that are written -/

section Written

variable {cs rest text : List Char} {c : Char}

/-- Text without an end of a comment is read as text of the comment. -/
theorem run_block (h : Endless cs) : run (.block text) cs = some (if cs.getLast? = some '*'
    then .star (text ++ cs) else .block (text ++ cs), []) := by
  induction cs using List.reverseRecOn with
  | nil => rw [List.getLast?_nil, if_neg (nofun), List.append_nil, run]
  | append_singleton cs c ih =>
      have hcs : Endless cs := fun before after heq =>
        h before (after ++ [c]) (by rw [heq, List.append_assoc]; rfl)
      have hlast : cs.getLast? = some '*' → c ≠ '/' := by
        rintro hstar rfl
        obtain ⟨before, rfl⟩ := List.getLast?_eq_some_iff.mp hstar
        exact h before [] (List.append_assoc _ _ _)
      refine (run_append_eq_some (ih hcs)).mpr ⟨[], ?_, rfl⟩
      rw [List.getLast?_concat, ← List.append_assoc]
      split
      · next hstar => simp [run, step, hlast hstar]
      · simp [run, step]

/-- A text after which a comment goes on. -/
def Contained (cs : List Char) : Prop :=
  ∀ text, run (.block text) cs = some (.block (text ++ cs), [])

/-- Such texts can be put together, -/
theorem Contained.append (h : Contained cs) (h' : Contained rest) : Contained (cs ++ rest) := by
  intro text
  rw [← List.append_assoc]
  exact run_append (h text) (h' (text ++ cs))

/-- also one for each item of a list. -/
theorem contained_flatMap {α : Type} {items : List α} {f : α → List Char}
    (h : ∀ item ∈ items, Contained (f item)) : Contained (items.flatMap f) := by
  induction items with
  | nil =>
      intro text
      rw [List.flatMap_nil, List.append_nil, run]
  | cons item items ih =>
      obtain ⟨hitem, hitems⟩ := List.forall_mem_cons.mp h
      exact hitem.append (ih hitems)

/-- A text without an end of a comment is one with a blank, or the like, behind it. -/
theorem contained_concat (h : Endless cs) (hstar : c ≠ '*') (hslash : c ≠ '/') :
    Contained (cs ++ [c]) := by
  intro text
  have hrest : ∀ next, next = .star (text ++ cs) ∨ next = .block (text ++ cs) →
      run next [c] = some (.block (text ++ cs ++ [c]), []) := by
    rintro next (rfl | rfl) <;> simp [run, step, hstar, hslash]
  rw [← List.append_assoc]
  refine (run_append_eq_some (run_block h)).mpr ⟨[], hrest _ ?_, rfl⟩
  split
  · exact .inl rfl
  · exact .inr rfl

/-- Texts without slashes have no ends of comments, -/
theorem endless_of_not_mem (h : '/' ∉ cs) : Endless cs := by
  rintro before after rfl
  exact h (List.mem_append_right _ (List.mem_cons_of_mem _ List.mem_cons_self))

/-- nor has a text with a character in front that it makes none with. -/
theorem Endless.cons (h : Endless cs) (hc : c = '*' → cs.head? ≠ some '/') :
    Endless (c :: cs) := by
  intro before after heq
  cases before with
  | nil =>
      obtain ⟨rfl, rfl⟩ := List.cons.inj heq
      exact hc rfl rfl
  | cons first before => exact h before after (List.cons.inj heq).2

/-- A line starts as it does when it is escaped, -/
theorem head?_escapeEnds : (escapeEnds cs).head? = cs.head? := by
  fun_cases escapeEnds cs <;> rfl

/-- but has no ends of comments then. -/
theorem endless_escapeEnds : Endless (escapeEnds cs) := by
  fun_induction escapeEnds cs with
  | case1 rest ih =>
      have hslash : Endless ('/' :: escapeEnds rest) := ih.cons fun h => absurd h (by decide)
      have hbackslash : Endless ('\\' :: '/' :: escapeEnds rest) :=
        hslash.cons fun h => absurd h (by decide)
      exact hbackslash.cons fun _ h => absurd (Option.some.inj h) (by decide)
  | case2 c rest hother ih =>
      refine ih.cons fun hstar hslash => ?_
      rw [head?_escapeEnds] at hslash
      obtain ⟨behind, rfl⟩ := List.head?_eq_some_iff.mp hslash
      exact hother behind hstar rfl
  | case3 => exact endless_of_not_mem List.not_mem_nil

/-- A line stands in a comment with a blank, or the like, behind it, -/
theorem contained_commentLine (line : String) (hstar : c ≠ '*') (hslash : c ≠ '/') :
    Contained ((commentLine line).toList ++ [c]) := by
  rw [commentLine, String.toList_ofList]
  exact contained_concat endless_escapeEnds hstar hslash

/-- and so does a phrase without slashes. -/
theorem contained_phrase {phrase : List Char} (h : '/' ∉ phrase) (hstar : phrase.getLast? ≠ some '*') :
    Contained phrase := by
  cases phrase using List.reverseRecOn with
  | nil =>
      intro text
      rw [List.append_nil, run]
  | append_singleton init last =>
      rw [List.mem_append, not_or] at h
      rw [List.getLast?_concat] at hstar
      refine contained_concat (endless_of_not_mem h.1) (fun heq => hstar (congrArg _ heq)) ?_
      rintro rfl
      exact h.2 List.mem_cons_self

/-- A text that is a comment with text inside. -/
inductive Comment : String → Prop
  | enclosed {text : String} {inside : List Char} (h : Contained inside)
      (htext : text.toList = '/' :: '*' :: inside ++ ['*', '/']) : Comment text

/-- A comment is read as one. -/
theorem Comment.run {text : String} (h : Comment text) :
    run .code text.toList = some (.code, [.block text.toList]) := by
  obtain ⟨h, htext⟩ := h
  rename_i inside
  have hopened : Package.run .code ['/', '*'] = some (.block ['/', '*'], []) := rfl
  have hclosed : Package.run (.block (['/', '*'] ++ inside)) ['*', '/']
      = some (.code, [.block (['/', '*'] ++ inside ++ ['*', '/'])]) := by
    simp [Package.run, step]
  rw [htext]
  exact run_append (run_append hopened (h _)) hclosed

/-- Documentation as a comment, without the indentation in front. -/
def docComment (indent : String) : List String → List String
  | [] => []
  | [line] => ["/** " ++ commentLine line ++ " */"]
  | lines => ["/**\n"
      ++ String.join (lines.map fun line => indent ++ " * " ++ commentLine line ++ "\n")
      ++ indent ++ " */"]

/-- A text of blanks. -/
def Blank (indent : String) : Prop := ∀ c ∈ indent.toList, c = ' '

/-- Documentation is a comment, whatever its lines. -/
theorem comment_docComment {indent comment : String} (hindent : Blank indent)
    {docs : List String} (h : comment ∈ docComment indent docs) : Comment comment := by
  have hstar : Contained ['*', ' '] := contained_phrase (by decide) (by decide)
  have hfeed : Contained ['*', '\n'] := contained_phrase (by decide) (by decide)
  match docs with
  | [line] =>
      have hinside : Contained (['*', ' '] ++ ((commentLine line).toList ++ [' '])) :=
        hstar.append (contained_commentLine line (by decide) (by decide))
      rw [List.mem_singleton.mp h]
      exact .enclosed hinside (by simp [String.toList_append])
  | first :: second :: rest =>
      have hblank : Contained (indent.toList ++ [' ']) := by
        have hall : ∀ c ∈ indent.toList ++ [' '], c = ' ' :=
          List.forall_mem_append.mpr ⟨hindent, List.forall_mem_singleton.mpr rfl⟩
        refine contained_phrase (fun hmem => absurd (hall _ hmem) (by decide)) ?_
        rw [List.getLast?_concat]
        decide
      have hlines : Contained ((first :: second :: rest).flatMap fun line =>
          indent.toList ++ [' '] ++ ['*', ' '] ++ ((commentLine line).toList ++ ['\n'])) :=
        contained_flatMap fun line _ => (hblank.append hstar).append
          (contained_commentLine line (by decide) (by decide))
      rw [List.mem_singleton.mp h]
      exact .enclosed ((hfeed.append hlines).append hblank)
        (by simp [String.toList_append, List.flatMap_map])

/-- A block of documentation is its comment on lines of its own. -/
theorem docBlock_eq (indent : String) (docs : List String) :
    (docBlock indent docs = "" ∧ docComment indent docs = [])
      ∨ ∃ comment, docBlock indent docs = indent ++ (comment ++ "\n")
        ∧ docComment indent docs = [comment] := by
  match docs with
  | [] => exact .inl ⟨rfl, rfl⟩
  | [line] =>
      refine .inr ⟨_, ?_, rfl⟩
      simp [docBlock, String.append_assoc]
  | first :: second :: rest =>
      refine .inr ⟨_, ?_, rfl⟩
      simp [docBlock, String.append_assoc]

/-- A line comment goes on up to the end of the line, -/
theorem run_line (h : ∀ c ∈ cs, isLineEnd c = false) :
    run (.line text) cs = some (.line (text ++ cs), []) := by
  induction cs generalizing text with
  | nil => rw [List.append_nil, run]
  | cons c cs ih =>
      obtain ⟨hc, hcs⟩ := List.forall_mem_cons.mp h
      have hstep : step (.line text) c = some (.line (text ++ [c]), []) := by
        rw [step, if_neg (Bool.eq_false_iff.mp hc)]
      rw [← List.singleton_append, ← List.append_assoc]
      exact run_cons_eq_some.mpr ⟨_, _, _, hstep, ih hcs, rfl⟩

/-- which is no digit. -/
theorem isLineEnd_of_isDigit (h : c.isDigit = true) : isLineEnd c = false := by
  have hcode : ∀ d : Char, c.toNat = d.toNat → c = d := fun d => Char.toNat_inj.mp
  refine Bool.eq_false_iff.mpr fun hend => ?_
  simp only [isLineEnd, isLineSeparator, Bool.or_eq_true, decide_eq_true_eq] at hend
  rcases hend with (rfl | rfl) | hcodes | hcodes
  · exact absurd h (by decide)
  · exact absurd h (by decide)
  · obtain rfl := hcode '\u2028' hcodes
    exact absurd h (by decide)
  · obtain rfl := hcode '\u2029' hcodes
    exact absurd h (by decide)

end Written

end Bindery.Package
