import Bindery.Double
import Bindery.Json.Basic

/-!
# Printing JSON

* **`Number.text`** — an integer in full, a double with the fewest digits.
* **`Json.compact`** — no blanks at all.
* **`Json.pretty`** — two blanks of indentation per level, one item or member a line;
  an empty array or object stays on one line.

A string is written raw except for the quote, the backslash and the characters below
U+0020; five of these have short escapes, the others are written as four hex digits.
-/

namespace Bindery.Json

/-- The lower-case hexadecimal digit of a number below sixteen. -/
def hexDigit (n : Nat) : Char :=
  if n < 10 then Char.ofNat (48 + n) else Char.ofNat (87 + n)

/-- One character inside a quoted string. -/
def escapeChar (c : Char) : List Char :=
  if c.toNat = 0x22 then ['\\', c]
  else if c.toNat = 0x5C then ['\\', c]
  else if c.toNat = 0x08 then ['\\', 'b']
  else if c.toNat = 0x0C then ['\\', 'f']
  else if c.toNat = 0x0A then ['\\', 'n']
  else if c.toNat = 0x0D then ['\\', 'r']
  else if c.toNat = 0x09 then ['\\', 't']
  else if c.toNat < 0x20 then
    ['\\', 'u', '0', '0', hexDigit (c.toNat / 16), hexDigit (c.toNat % 16)]
  else [c]

/-- A quoted string. -/
def quote (text : String) : String :=
  "\"" ++ String.ofList (text.toList.flatMap escapeChar) ++ "\""

/-- The text of a decimal. It always shows a point or an exponent. The point is written in
    place when it is at most sixteen digits behind the first one or five before it. -/
def decimalText (decimal : Decimal) : String :=
  let digits := toString decimal.digits
  let point : Int := digits.length + decimal.exponent
  let zeros := fun (n : Int) => String.ofList (List.replicate n.toNat '0')
  if 0 ≤ decimal.exponent ∧ point ≤ 16 then digits ++ zeros decimal.exponent ++ ".0"
  else if 0 < point ∧ point ≤ 16 then
    String.ofList (digits.toList.take point.toNat) ++ "."
      ++ String.ofList (digits.toList.drop point.toNat)
  else if -5 < point ∧ point ≤ 0 then "0." ++ zeros (-point) ++ digits
  else
    match digits.toList with
    | [] => digits
    | [_] => digits ++ "e" ++ toString decimal.exponent
    | first :: rest =>
      String.ofList [first] ++ "." ++ String.ofList rest ++ "e" ++ toString (point - 1)

/-- The text of a number. -/
def Number.text : Number → String
  | .int value => toString value
  | .double value => (if value.negative then "-" else "") ++ decimalText value.shortest

mutual

/-- The text of a value without any blank. -/
def compact : Json → String
  | .null => "null"
  | .bool value => if value then "true" else "false"
  | .number value => value.text
  | .string value => quote value
  | .array items => "[" ++ compactItems items ++ "]"
  | .object members => "\x7b" ++ compactMembers members ++ "\x7d"

/-- Items with a comma between each two of them. -/
def compactItems : List Json → String
  | [] => ""
  | [item] => item.compact
  | item :: items => item.compact ++ "," ++ compactItems items

/-- Members with a comma between each two of them. -/
def compactMembers : List (String × Json) → String
  | [] => ""
  | [(key, value)] => quote key ++ ":" ++ value.compact
  | (key, value) :: members =>
    quote key ++ ":" ++ value.compact ++ "," ++ compactMembers members

end

/-- The line break and indentation in front of an item at a level. -/
def newline (level : Nat) : String :=
  "\n" ++ String.ofList (List.replicate (2 * level) ' ')

mutual

/-- The text of a value that starts at an indentation level. -/
def prettyAt (level : Nat) : Json → String
  | .null => "null"
  | .bool value => if value then "true" else "false"
  | .number value => value.text
  | .string value => quote value
  | .array [] => "[]"
  | .array (item :: items) =>
    "[" ++ prettyItems (level + 1) (item :: items) ++ newline level ++ "]"
  | .object [] => "\x7b\x7d"
  | .object (member :: members) =>
    "\x7b" ++ prettyMembers (level + 1) (member :: members) ++ newline level ++ "\x7d"

/-- Items, each on a line of its own. -/
def prettyItems (level : Nat) : List Json → String
  | [] => ""
  | [item] => newline level ++ prettyAt level item
  | item :: items => newline level ++ prettyAt level item ++ "," ++ prettyItems level items

/-- Members, each on a line of its own. -/
def prettyMembers (level : Nat) : List (String × Json) → String
  | [] => ""
  | [(key, value)] => newline level ++ quote key ++ ": " ++ prettyAt level value
  | (key, value) :: members =>
    newline level ++ quote key ++ ": " ++ prettyAt level value ++ ","
      ++ prettyMembers level members

end

/-- The indented text of a value. -/
def pretty (value : Json) : String := prettyAt 0 value

end Bindery.Json
