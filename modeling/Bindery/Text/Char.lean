import Bindery.Text.Table.Cases
import Bindery.Text.Table.Display
import Bindery.Text.Table.Identifiers
import Bindery.Text.Table.Letters

/-!
# Classes and sets of characters

The classes and mappings of characters that names and literals depend on. ASCII is
decided here, everything beyond it by tables of the Unicode properties. Patterns and
expressions write sets in square brackets: characters, ranges of them, and classes such as
`[:digit:]`.

* **`Mark`** — a character of a written text, and whether it is quoted.
* **`CharSet`**, **`CharSet.has`** — a set, and what is in it.
* **`CharSet.read?`** — the set at the front of a text, behind its opening bracket.
-/

namespace Bindery.Text

/-- Whether a character is an ASCII digit. -/
def isAsciiDigit (c : Char) : Bool := 48 ≤ c.toNat && c.toNat ≤ 57

/-- Whether a character is an ASCII lower-case letter. -/
def isAsciiLower (c : Char) : Bool := 97 ≤ c.toNat && c.toNat ≤ 122

/-- Whether a character is an ASCII upper-case letter. -/
def isAsciiUpper (c : Char) : Bool := 65 ≤ c.toNat && c.toNat ≤ 90

/-- Whether a character is an ASCII letter or digit. -/
def isAsciiAlphanumeric (c : Char) : Bool :=
  isAsciiDigit c || isAsciiLower c || isAsciiUpper c

/-- Whether a character is ASCII. -/
def isAscii (c : Char) : Bool := c.toNat < 128

/-- Whether a character is alphabetic or numeric. -/
def isAlphanumeric (c : Char) : Bool :=
  if isAscii c then isAsciiAlphanumeric c else inRuns Table.alphanumeric c.toNat

/-- Whether a character is numeric. -/
def isNumeric (c : Char) : Bool :=
  if isAscii c then isAsciiDigit c else inRuns Table.numeric c.toNat

/-- Whether a character is lower-case. -/
def isLower (c : Char) : Bool :=
  if isAscii c then isAsciiLower c else inRuns Table.lowercase c.toNat

/-- Whether a character is upper-case. -/
def isUpper (c : Char) : Bool :=
  if isAscii c then isAsciiUpper c else inRuns Table.uppercase c.toNat

/-- The characters that a table maps a character to: several, one, or the character. -/
def mapped (many : List (Nat × List Nat)) (one : List Shift) (c : Char) : List Char :=
  match many.find? (·.1 = c.toNat) with
  | some (_, codes) => codes.map Char.ofNat
  | none =>
    match shifted? one c.toNat with
    | some code => [Char.ofNat code]
    | none => [c]

/-- The lower-case form of a character. -/
def toLower (c : Char) : List Char :=
  if isAscii c then
    if isAsciiUpper c then [Char.ofNat (c.toNat + 32)] else [c]
  else mapped Table.toLowerMany Table.toLower c

/-- The upper-case form of a character. -/
def toUpper (c : Char) : List Char :=
  if isAscii c then
    if isAsciiLower c then [Char.ofNat (c.toNat - 32)] else [c]
  else mapped Table.toUpperMany Table.toUpper c

/-- Whether a character may start an identifier. -/
def isIdentifierStart (c : Char) : Bool :=
  if isAscii c then isAsciiLower c || isAsciiUpper c else inRuns Table.identifierStart c.toNat

/-- Whether a character may continue an identifier. -/
def isIdentifierPart (c : Char) : Bool :=
  if isAscii c then isAsciiAlphanumeric c || c = '_'
  else inRuns Table.identifierPart c.toNat

/-- Whether a character extends the glyph of the character before it. -/
def isGraphemeExtend (c : Char) : Bool :=
  !isAscii c && inRuns Table.graphemeExtend c.toNat

/-- Whether a character is white space. -/
def isBlank (c : Char) : Bool :=
  c.toNat = 0x20 || (0x09 ≤ c.toNat && c.toNat ≤ 0x0D) || c.toNat = 0x85 || c.toNat = 0xA0
    || c.toNat = 0x1680 || (0x2000 ≤ c.toNat && c.toNat ≤ 0x200A)
    || c.toNat = 0x2028 || c.toNat = 0x2029 || c.toNat = 0x202F || c.toNat = 0x205F
    || c.toNat = 0x3000

/-- A text without the white space at its ends. -/
def trim (text : String) : String :=
  String.ofList ((text.toList.dropWhile isBlank).reverse.dropWhile isBlank).reverse

/-- Whether a character has a glyph of its own. -/
def isPrintable (c : Char) : Bool :=
  if isAscii c then 32 ≤ c.toNat && c.toNat < 127 else !inRuns Table.unprintable c.toNat

/-- A character of a text, and whether it is quoted. -/
structure Mark where
  char : Char
  quoted : Bool
deriving DecidableEq

/-- The text of marks. -/
def Mark.text (marks : List Mark) : String := String.ofList (marks.map (·.char))

/-- Characters that a set holds: one, a range, or those of a class. -/
inductive Member where
  | char (c : Char)
  | range (first last : Char)
  | named (title : String)
deriving DecidableEq

/-- A set of characters: its members, or all others. -/
structure CharSet where
  negated : Bool
  members : List Member
deriving DecidableEq

/-- Whether a character belongs to a class. -/
def inClass (title : String) (c : Char) : Bool :=
  match title with
  | "alpha" => isAsciiLower c || isAsciiUpper c
  | "digit" => isAsciiDigit c
  | "alnum" => isAsciiAlphanumeric c
  | "upper" => isAsciiUpper c
  | "lower" => isAsciiLower c
  | "space" => c = ' ' || (9 ≤ c.toNat && c.toNat ≤ 13)
  | "blank" => c = ' ' || c = '\t'
  | "xdigit" => isAsciiDigit c || (97 ≤ c.toNat && c.toNat ≤ 102)
      || (65 ≤ c.toNat && c.toNat ≤ 70)
  | "cntrl" => c.toNat < 32 || c.toNat = 127
  | "print" => 32 ≤ c.toNat && c.toNat < 127
  | "graph" => 32 < c.toNat && c.toNat < 127
  | "punct" => 32 < c.toNat && c.toNat < 127 && !isAsciiAlphanumeric c
  | _ => false

/-- Whether a member has a character. -/
def Member.has (member : Member) (c : Char) : Bool :=
  match member with
  | .char d => c = d
  | .range first last => first.toNat ≤ c.toNat && c.toNat ≤ last.toNat
  | .named title => inClass title c

/-- Whether a set has a character. -/
def CharSet.has (set : CharSet) (c : Char) : Bool := set.members.any (·.has c) != set.negated

/-- The class that is named at the front of a text, and the text behind it. -/
def className? : List Mark → Option (String × List Mark)
  | ⟨'[', false⟩ :: ⟨':', _⟩ :: rest =>
    let title := rest.takeWhile fun mark => isAsciiLower mark.char
    match rest.drop title.length with
    | ⟨':', _⟩ :: ⟨']', _⟩ :: after => some (Mark.text title, after)
    | _ => none
  | _ => none

namespace CharSet

/-- The members of a set up to its closing bracket, and the text behind that. A bracket in
    the first place is a member. Every step takes a character, so the length of the text
    is fuel enough. -/
def members? : (fuel : Nat) → (first : Bool) → List Mark → Option (List Member × List Mark)
  | 0, _, _ | _, _, [] => none
  | fuel + 1, first, mark :: rest =>
    let put (member : Member) (after : List Mark) : Option (List Member × List Mark) :=
      (members? fuel false after).map fun (found, after) => (member :: found, after)
    if mark = ⟨']', false⟩ ∧ !first then some ([], rest)
    else match className? (mark :: rest) with
      | some (title, after) => put (.named title) after
      | none =>
        match rest with
        | ⟨'-', false⟩ :: last :: after =>
          if last = ⟨']', false⟩ then put (.char mark.char) rest
          else put (.range mark.char last.char) after
        | _ => put (.char mark.char) rest

/-- The set at the front of a text behind its opening bracket, and the text behind it.
    `negation` is the sign for all others. -/
def read? (negation : Char) (marks : List Mark) : Option (CharSet × List Mark) :=
  let negated := marks.head? = some ⟨negation, false⟩
  (members? (marks.length + 1) true (if negated then marks.drop 1 else marks)).map
    fun (members, rest) => (⟨negated, members⟩, rest)

end CharSet

end Bindery.Text
