import Bindery.Text.Run
import Bindery.Text.Split
import Bindery.Text.Table.Display

/-!
# Columns of a line, and ruled tables

How many columns of a terminal a line of text takes. Most characters take one, wide ones
two and marks none, but some characters join into one glyph: emoji sequences, flags, and
ligatures of several scripts.

A table is a header and rows of texts, drawn with box characters. Every column is as wide
as its widest line, with a blank on either side; a cell with line breaks makes its row
several lines high.

* **`columns`** — the columns of a character that stands alone.
* **`Glyph`** — what the glyph that starts behind a character may join with;
  **`Behind`** — that glyph with the joiner and the variation selector in front of it.
* **`place`** — the columns that a character adds in front of what is behind it.
* **`lineColumns`** — the columns of a line, counted from its end.
* **`Grid`** — the texts of a table; **`Grid.widths`** — the columns that each of its
  columns takes.
* **`Grid.draw`** — the table as lines of text.
-/

namespace Bindery.Text

-- ── one character ────────────────────────────────────────────────────────────────

/-- The columns that a character takes by itself. Controls take one. -/
def columns (c : Char) : Nat :=
  if c.toNat ≤ 0xA0 then 1
  else if c.toNat = 0x17D8 then 3
  else if inRuns Table.zeroWidth c.toNat then 0
  else if inRuns Table.wide c.toNat then 2
  else 1

/-- Whether a character is between two others, ends included. -/
def isWithin (c : Char) (first last : Nat) : Bool := first ≤ c.toNat && c.toNat ≤ last

/-- The letters that flags are spelled with. -/
def isRegional (c : Char) : Bool := isWithin c 0x1F1E6 0x1F1FF

/-- The colours of skin that an emoji may be given. -/
def isSkinTone (c : Char) : Bool := isWithin c 0x1F3FB 0x1F3FF

/-- Whether a variation selector draws a character as an emoji of two columns. -/
def takesEmojiForm (c : Char) : Bool := inRuns Table.emojiVariation c.toNat

/-- Whether a variation selector draws a character as text of one column. Enclosed
    ideographs stay wide. -/
def takesTextForm (c : Char) : Bool :=
  takesEmojiForm c && inRuns Table.emojiPresentation c.toNat && !isWithin c 0x1F200 0x1F2FF

/-- The quotation marks that a variation selector makes as wide as ideographs. -/
def isQuote (c : Char) : Bool := c.toNat ∈ [0x2018, 0x2019, 0x201C, 0x201D]

/-- Marks without a glyph that leave the letters around them joined. -/
def isInvisibleMark (c : Char) : Bool :=
  c.toNat = 0x34F || isWithin c 0x17B4 0x17B5 || isWithin c 0x180B 0x180D || c.toNat = 0x180F
    || isWithin c 0xFE00 0xFE0F || isWithin c 0xE0100 0xE01EF

/-- The letters lam, which join with an alef behind them. -/
def isLam (c : Char) : Bool :=
  c.toNat ∈ [0x644, 0x76A, 0x8A6, 0x8C7] || isWithin c 0x6B5 0x6B8

/-- The letters alef, which join with a lam before them. -/
def isAlef (c : Char) : Bool :=
  c.toNat ∈ [0x622, 0x623, 0x625, 0x627, 0x675, 0x773, 0x774] || isWithin c 0x671 0x673
    || isWithin c 0x870 0x882

/-- The Khmer letters that may stand below the letter before them. -/
def isSubscriptLetter (c : Char) : Bool :=
  [(0x1780, 0x1782), (0x1784, 0x1787), (0x1789, 0x178C), (0x178E, 0x1793), (0x1795, 0x1798),
    (0x179B, 0x179D), (0x17A0, 0x17A0), (0x17A2, 0x17A2), (0x17A7, 0x17A7), (0x17AB, 0x17AC),
    (0x17AF, 0x17AF)].any fun (first, last) => isWithin c first last

/-- The Tifinagh letters that join in pairs. -/
def isTifinagh (c : Char) : Bool := isWithin c 0x2D31 0x2D65 || c.toNat = 0x2D6F

-- ── glyphs ───────────────────────────────────────────────────────────────────────

/-- What a glyph may join with in front of it. In `joined…` a joiner has been read, so an
    emoji before it becomes part of the glyph. -/
inductive Glyph where
  | plain
  | skinTone
  | regional
  | regionals
  | emoji
  | joinedEmoji
  | joinedKeycap
  | joinedRegional
  | joinedFlag
  | joinedFlagAndRegional
  | joinedTags (letters digits : Nat)
  | alef
  | hebrewLamed
  | bugineseYa
  | bugineseVowelYa
  | tifinagh
  | tifinaghPair
  | lisuTone
  | orkhonI
  | khmerLetter
  | kiratVowelE
  | kiratVowelAi
deriving DecidableEq

/-- The glyphs whose letters marks do not part. -/
def Glyph.isLigature : Glyph → Bool
  | .hebrewLamed | .bugineseYa | .bugineseVowelYa | .tifinagh | .tifinaghPair | .lisuTone
  | .orkhonI | .khmerLetter => true
  | _ => false

/-- The glyphs of emoji that a joiner in front joins with the emoji before them. -/
def Glyph.takesJoiner : Glyph → Bool
  | .emoji | .regionals | .joinedFlag | .joinedFlagAndRegional | .skinTone => true
  | _ => false

/-- How a character is drawn that a variation selector follows. -/
inductive Selector where
  | emoji | text | narrow | full
deriving DecidableEq

/-- The selector that a character is. -/
def Selector.of? (c : Char) : Option Selector :=
  if c.toNat = 0xFE0F then some .emoji
  else if c.toNat = 0xFE0E then some .text
  else if c.toNat = 0xFE00 ∨ c.toNat = 0xFE02 then some .narrow
  else if c.toNat = 0xFE01 then some .full
  else none

/-- What stands behind a character: a glyph, whether a joiner is in front of its letters,
    and the selector that the character is drawn by. -/
structure Behind where
  glyph : Glyph
  joiner : Bool
  selector : Option Selector
deriving DecidableEq

namespace Behind

/-- A glyph without a joiner or a selector in front of it. -/
def of (glyph : Glyph) : Behind := ⟨glyph, false, none⟩

/-- What a selector makes of what is behind it. It parts what is no ligature, except that
    an emoji may follow a selector and a joiner. -/
def select (behind : Behind) (selector : Selector) : Behind :=
  if behind.glyph.isLigature ∨ behind.glyph = .alef
      ∨ (selector = .emoji ∧ (behind.glyph = .joinedEmoji ∨ behind.glyph = .joinedKeycap)) then
    { behind with selector := some selector }
  else ⟨.plain, false, some selector⟩

/-- What is behind a character that a selector does not change. -/
def unselect (behind : Behind) : Behind :=
  if behind.selector = none then behind
  else if behind.glyph.isLigature ∨ behind.glyph = .alef then { behind with selector := none }
  else of .plain

end Behind

/-- The glyph that starts with a character. -/
def Glyph.startingWith (c : Char) : Glyph :=
  if isWithin c 0xA4FC 0xA4FD then .lisuTone
  else if c.toNat = 0x5DC then .hebrewLamed
  else if isAlef c then .alef
  else if isSubscriptLetter c then .khmerLetter
  else if c.toNat = 0x1A10 then .bugineseYa
  else if isTifinagh c then .tifinagh
  else if c.toNat = 0x10C03 then .orkhonI
  else if c.toNat = 0x16D67 then .kiratVowelE
  else if c.toNat = 0x16D68 then .kiratVowelAi
  else if isRegional c then .regional
  else if isSkinTone c then .skinTone
  else if inRuns Table.emojiPresentation c.toNat then .emoji
  else .plain

/-- The columns and the glyph of a character that joins with letters behind it. -/
def joinLetters? (c : Char) (joiner : Bool) : Glyph → Option (Int × Glyph)
  | .alef =>
    if isLam c then some (0, .plain)
    else if inRuns Table.transparent c.toNat then some (0, .alef)
    else none
  | .hebrewLamed => if joiner ∧ c.toNat = 0x5D0 then some (0, .plain) else none
  | .khmerLetter => if c.toNat = 0x17D2 then some (-1, .plain) else none
  | .bugineseYa => if joiner ∧ c.toNat = 0x1A17 then some (0, .bugineseVowelYa) else none
  | .bugineseVowelYa => if c.toNat = 0x1A15 then some (0, .plain) else none
  | .tifinagh =>
    if c.toNat = 0x2D7F then some (1, .tifinaghPair)
    else if joiner ∧ isTifinagh c then some (0, .plain)
    else none
  | .tifinaghPair => if isTifinagh c then some (-1, .plain) else none
  | .lisuTone => if isWithin c 0xA4F8 0xA4FB then some (0, .plain) else none
  | .orkhonI => if joiner ∧ c.toNat = 0x10C32 then some (0, .plain) else none
  | .kiratVowelE =>
    if c.toNat = 0x16D63 ∨ c.toNat = 0x16D69 then some (0, .plain)
    else if c.toNat = 0x16D67 then some (0, .kiratVowelAi)
    else if c.toNat = 0x16D68 then some (1, .kiratVowelE)
    else none
  | .kiratVowelAi => if c.toNat = 0x16D63 then some (0, .plain) else none
  | _ => none

/-- The columns and the glyph of a character that joins with a tag sequence behind it: a
    flag with three to six letters, or up to three digits, that an end mark closes. -/
def joinTags? (c : Char) (letters digits : Nat) : Option (Int × Glyph) :=
  if isWithin c 0xE0061 0xE007A ∧ digits = 0 ∧ letters < 6 then
    some (0, .joinedTags (letters + 1) 0)
  else if isWithin c 0xE0030 0xE0039 ∧ digits < 3 ∧ (digits ≠ 0 ∨ letters ≤ 4) then
    some (0, .joinedTags letters (digits + 1))
  else if c.toNat = 0x1F3F4 ∧ (digits = 3 ∨ (digits = 0 ∧ 3 ≤ letters)) then some (0, .emoji)
  else none

/-- The columns and the glyph of a character that joins with an emoji behind it. -/
def joinEmoji? (c : Char) : Glyph → Option (Int × Glyph)
  | .regional | .regionals => if isRegional c then some (1, .regionals) else none
  | .skinTone => if inRuns Table.emojiModifierBase c.toNat then some (0, .emoji) else none
  | .joinedEmoji =>
    if c.toNat = 0x20E3 then some (0, .joinedKeycap)
    else if isRegional c then some (1, .joinedRegional)
    else if isSkinTone c then some (0, .skinTone)
    else if c.toNat = 0xE007F then some (0, .joinedTags 0 0)
    else if inRuns Table.emojiPresentation c.toNat then some (0, .emoji)
    else none
  | .joinedRegional | .joinedFlagAndRegional =>
    if isRegional c then some (-1, .joinedFlag) else none
  | .joinedFlag => if isRegional c then some (3, .joinedFlagAndRegional) else none
  | .joinedTags letters digits => joinTags? c letters digits
  | _ => none

/-- The columns of a character that no selector follows, and the glyph it starts. -/
def placeUnselected (c : Char) (behind : Behind) : Int × Behind :=
  if behind.glyph.isLigature ∧ c.toNat = 0x200D then (0, { behind with joiner := true })
  else if behind.glyph.isLigature ∧ isInvisibleMark c then (0, behind)
  else if behind.glyph.takesJoiner ∧ c.toNat = 0x200D then (0, .of .joinedEmoji)
  else
    match (joinLetters? c behind.joiner behind.glyph).or (joinEmoji? c behind.glyph) with
    | some (width, glyph) => (width, .of glyph)
    | none => (columns c, .of (.startingWith c))

/-- The columns that a character adds in front of what is behind it, and what is then
    behind the character before it. -/
def place (c : Char) (behind : Behind) : Int × Behind :=
  if behind.selector = some .emoji ∧ takesEmojiForm c then
    (if behind.glyph = .joinedEmoji ∨ behind.glyph = .joinedKeycap then 0 else 2, .of .emoji)
  else if behind.selector = some .text ∧ takesTextForm c then (1, .of .plain)
  else if behind.selector = some .narrow ∧ isQuote c then (1, .of .plain)
  else if behind.selector = some .full ∧ isQuote c then (2, .of .plain)
  else if c.toNat ≤ 0xA0 then (1, .of .plain)
  else
    match Selector.of? c with
    | some selector => (0, behind.unselect.select selector)
    | none => placeUnselected c behind.unselect

-- ── lines ────────────────────────────────────────────────────────────────────────

/-- The columns that characters add in front of what is behind them, and what is then
    behind the character before them. -/
def placeAll (behind : Behind) : List Char → Int × Behind
  | [] => (0, behind)
  | c :: cs =>
    let (width, rest) := placeAll behind cs
    let (own, front) := place c rest
    (width + own, front)

/-- The columns that a line takes. -/
def lineColumns (line : String) : Nat := (placeAll (.of .plain) line.toList).1.toNat

/-- A line filled up with blanks to a number of columns. -/
def padTo (width : Nat) (line : String) : String :=
  line ++ String.ofList (List.replicate (width - lineColumns line) ' ')

/-- A table: a header and rows of as many cells. -/
structure Grid where
  header : List String
  rows : List (List String)

namespace Grid

/-- The columns that a cell takes: those of its widest line. -/
def cellWidth (cell : String) : Nat :=
  ((splitText '\n' cell).map lineColumns).foldl max 0

/-- The width of each column of a table. -/
def widths (grid : Grid) : List Nat :=
  grid.rows.foldl (fun widths row => List.zipWith max widths (row.map cellWidth))
    (grid.header.map cellWidth)

/-- A rule across a table: what each column is filled with, and what stands at the left
    end, between two columns and at the right end. -/
def rule (fill : Char) (left between right : String) (widths : List Nat) : String :=
  left ++ between.intercalate
    (widths.map fun width => String.ofList (List.replicate (width + 2) fill)) ++ right

/-- The lines of a row. A cell with fewer lines than the row is blank at its end. -/
def rowLines (widths : List Nat) (row : List String) : List String :=
  let cells := row.map (splitText '\n')
  let height := (cells.map List.length).foldl max 0
  (List.range height).map fun i =>
    "│ " ++ " ┆ ".intercalate
      (List.zipWith (fun width cell => padTo width (cell[i]?.getD "")) widths cells) ++ " │"

/-- The lines of a table. -/
def lines (grid : Grid) : List String :=
  let widths := grid.widths
  [rule '─' "┌" "┬" "┐" widths] ++ rowLines widths grid.header
    ++ [rule '═' "╞" "╪" "╡" widths]
    ++ grid.rows.flatMap (rowLines widths)
    ++ [rule '─' "└" "┴" "┘" widths]

/-- A table as text, without a line break at its end. -/
def draw (grid : Grid) : String := joinText '\n' grid.lines

end Grid

end Bindery.Text
