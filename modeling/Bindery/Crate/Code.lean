import Bindery.Text.Char
import Bindery.Text.Split

/-!
# Rust source as words

Source is a list of words: identifiers, operators, literals and brackets. Layout is left
to a formatter; the text of a list of words has one blank between two words, except
inside round and square brackets.

* **`Code`**, **`code`** — words, and the words of a phrase.
* **`Code.text`** — the text of a list of words.
* **`stringLiteral`**, **`byteLiteral`** — a text and bytes as literals.
-/

namespace Bindery.Crate

/-- Source as a list of words. -/
abbrev Code := List String

/-- The words of a phrase. -/
def code (phrase : String) : Code := Text.splitText ' ' phrase

namespace Code

/-- Whether two neighbours stand without a blank between them. -/
def touches (first second : String) : Bool :=
  first = "(" || first = "[" || second = ")" || second = "]"

/-- The words with the blanks between them. -/
def spaced : Code → List String
  | [] => []
  | [word] => [word]
  | word :: next :: rest =>
    if touches word next then word :: spaced (next :: rest)
    else word :: " " :: spaced (next :: rest)

/-- The text of a list of words. -/
def text (words : Code) : String := String.join (spaced words)

/-- Words in braces. -/
def block (inner : Code) : Code := "\x7b" :: inner ++ ["\x7d"]

/-- Words in round brackets. -/
def group (inner : Code) : Code := "(" :: inner ++ [")"]

/-- Words in square brackets. -/
def list (inner : Code) : Code := "[" :: inner ++ ["]"]

/-- Pieces with a comma between each two of them. -/
def commas : List Code → Code
  | [] => []
  | [piece] => piece
  | piece :: rest => piece ++ "," :: commas rest

/-- The words of a literal number. -/
def number (n : Nat) : String := toString n

end Code

-- ── literals ─────────────────────────────────────────────────────────────────────

/-- Whether a character is an octal digit. -/
def isOctal (c : Char) : Bool := 48 ≤ c.toNat && c.toNat ≤ 55

/-- The escape of the null character, which must not run into an octal digit. -/
def escapeNull (next : Option Char) : List Char :=
  if next.any isOctal then ['\\', 'x', '0', '0'] else ['\\', '0']

/-- A character inside a string literal, in front of another one. -/
def escapeChar (c : Char) (next : Option Char) : List Char :=
  if c.toNat = 0 then escapeNull next
  else if c.toNat = 0x09 then ['\\', 't']
  else if c.toNat = 0x0A then ['\\', 'n']
  else if c.toNat = 0x0D then ['\\', 'r']
  else if c.toNat = 0x22 then ['\\', c]
  else if c.toNat = 0x5C then ['\\', c]
  else if Text.isPrintable c && !Text.isGraphemeExtend c then [c]
  else ['\\', 'u', '\x7b'] ++ Nat.toDigits 16 c.toNat ++ ['\x7d']

/-- The inside of a string literal. -/
def escaped : List Char → List Char
  | [] => []
  | c :: rest => escapeChar c rest.head? ++ escaped rest

/-- A text as a literal. -/
def stringLiteral (text : String) : String :=
  "\"" ++ String.ofList (escaped text.toList) ++ "\""

/-- The upper-case hexadecimal digit of a number below sixteen. -/
def upperHexDigit (n : Nat) : Char :=
  if n < 10 then Char.ofNat (48 + n) else Char.ofNat (55 + n)

/-- A byte inside a byte literal, in front of another one. -/
def escapeByte (byte : UInt8) (next : Option UInt8) : List Char :=
  let c := Char.ofNat byte.toNat
  if byte = 0 then escapeNull (next.map fun b => Char.ofNat b.toNat)
  else if byte = 0x09 then ['\\', 't']
  else if byte = 0x0A then ['\\', 'n']
  else if byte = 0x0D then ['\\', 'r']
  else if byte = 0x22 then ['\\', c]
  else if byte = 0x5C then ['\\', c]
  else if 0x20 ≤ byte && byte ≤ 0x7E then [c]
  else ['\\', 'x', upperHexDigit (byte.toNat / 16), upperHexDigit (byte.toNat % 16)]

/-- The inside of a byte literal. -/
def escapedBytes : List UInt8 → List Char
  | [] => []
  | byte :: rest => escapeByte byte rest.head? ++ escapedBytes rest

/-- Bytes as a literal. -/
def byteLiteral (bytes : List UInt8) : String :=
  "b\"" ++ String.ofList (escapedBytes bytes) ++ "\""

end Bindery.Crate
