import Bindery.Json.Decode

/-!
# Reading JSON text

A text is read into a **`Draft`**: a JSON tree that goes as far as the text is JSON. The
place where it stops being JSON is a `torn` leaf, so a decoder that walks the draft in
reading order meets the first problem of the text first, be it a wrong type or a syntax
error. Three things can be passed over but not read: a string with half of a surrogate
pair, a number beyond the doubles, and an array or object nested too deeply.

* **`Draft.ofText`** — the draft of a text, and whether only blanks follow it.
* **`Decode.text`** — decode a text; what follows the value is looked at last.
* **`Json.ofText`** — the value of a text that is JSON from end to end.

Blanks are the space, the tab, the line feed and the carriage return.
-/

namespace Bindery

/-- A JSON tree as far as its text can be read. The flag of an array or object says that
    it is nested too deeply to be read; a key that cannot be read is absent. -/
inductive Draft where
  | null
  | bool (value : Bool)
  | number (value : Json.Number)
  | string (value : String)
  | array (tooDeep : Bool) (items : List Draft)
  | object (tooDeep : Bool) (members : List (Option String × Draft))
  | unreadable
  | torn

namespace Draft

/-- How many arrays and objects may be nested. -/
def depthLimit : Nat := 127

-- ── drafts as documents ──────────────────────────────────────────────────────────

mutual

/-- Pass over a draft. -/
def skip : Draft → Except Fault Unit
  | .torn => .error .malformed
  | .array _ items => skipItems items
  | .object _ members => skipMembers members
  | _ => .ok ()

/-- Pass over items. -/
def skipItems : List Draft → Except Fault Unit
  | [] => .ok ()
  | item :: items => do item.skip; skipItems items

/-- Pass over members. -/
def skipMembers : List (Option String × Draft) → Except Fault Unit
  | [] => .ok ()
  | (_, value) :: members => do value.skip; skipMembers members

end

mutual

/-- The complete value of a draft. -/
def whole : Draft → Except Fault Json
  | .null => .ok .null
  | .bool value => .ok (.bool value)
  | .number value => .ok (.number value)
  | .string value => .ok (.string value)
  | .array false items => do return .array (← wholeItems items)
  | .object false members => do return .object (← wholeMembers members)
  | .array true _ | .object true _ | .unreadable | .torn => .error .malformed

/-- Complete items. -/
def wholeItems : List Draft → Except Fault (List Json)
  | [] => .ok []
  | item :: items => do return (← item.whole) :: (← wholeItems items)

/-- Complete members. -/
def wholeMembers : List (Option String × Draft) → Except Fault (List (String × Json))
  | [] => .ok []
  | (none, _) :: _ => .error .malformed
  | (some key, value) :: members => do return (key, ← value.whole) :: (← wholeMembers members)

end

/-- The members up to the first whose key cannot be read. -/
def readableMembers : List (Option String × Draft) → List (String × Draft)
  | [] => []
  | (none, _) :: _ => [("", .torn)]
  | (some key, value) :: members => (key, value) :: readableMembers members

instance : Json.Readable Draft where
  layer
    | .null => .ok .null
    | .bool value => .ok (.bool value)
    | .number value => .ok (.number value)
    | .string value => .ok (.string value)
    | .array false items => .ok (.array items)
    | .array true _ => .ok (.array [.torn])
    | .object false members => .ok (.object (readableMembers members))
    | .object true _ => .ok (.object [("", .torn)])
    | .unreadable | .torn => .error .malformed
  skip := skip
  whole := whole
  surplus := .malformed

-- ── characters ───────────────────────────────────────────────────────────────────

/-- Whether a character is a blank. -/
def isBlank (c : Char) : Bool :=
  c.toNat = 0x20 || c.toNat = 0x09 || c.toNat = 0x0A || c.toNat = 0x0D

/-- A text without its leading blanks. -/
def dropBlanks (cs : List Char) : List Char := cs.dropWhile isBlank

/-- The value of a hexadecimal digit. -/
def hexValue? (c : Char) : Option Nat :=
  let n := c.toNat
  if 48 ≤ n ∧ n ≤ 57 then some (n - 48)
  else if 97 ≤ n ∧ n ≤ 102 then some (n - 87)
  else if 65 ≤ n ∧ n ≤ 70 then some (n - 55)
  else none

/-- The code unit of four hexadecimal digits and the text after them. -/
def hexUnit? : List Char → Option (Nat × List Char)
  | a :: b :: c :: d :: rest => do
    let unit := (((← hexValue? a) * 16 + (← hexValue? b)) * 16 + (← hexValue? c)) * 16
      + (← hexValue? d)
    return (unit, rest)
  | _ => none

/-- The character of a one-letter escape. -/
def shortEscape? (c : Char) : Option Char :=
  match c.toNat with
  | 0x22 | 0x5C | 0x2F => some c
  | 0x62 => some (Char.ofNat 0x08)
  | 0x66 => some (Char.ofNat 0x0C)
  | 0x6E => some (Char.ofNat 0x0A)
  | 0x72 => some (Char.ofNat 0x0D)
  | 0x74 => some (Char.ofNat 0x09)
  | _ => none

-- ── strings ──────────────────────────────────────────────────────────────────────

/-- A string that ended: its text, unless it holds half of a surrogate pair. -/
abbrev Quoted := Option (List Char)

/-- Put a character in front of a string. -/
def Quoted.cons (c : Char) : Quoted → Quoted := Option.map (c :: ·)

/-- Read a string after its opening quote: its text and what follows the closing quote.
    The fuel bounds the number of characters and escapes. -/
def readString : (fuel : Nat) → List Char → Option (Quoted × List Char)
  | 0, _ => none
  | _ + 1, [] => none
  | fuel + 1, c :: cs =>
    if c.toNat = 0x22 then some (some [], cs)
    else if c.toNat < 0x20 then none
    else if c.toNat = 0x5C then
      match cs with
      | [] => none
      | e :: cs =>
        if e.toNat = 0x75 then do
          let (unit, cs) ← hexUnit? cs
          if unit < 0xD800 ∨ 0xDFFF < unit then
            let (text, rest) ← readString fuel cs
            return (Quoted.cons (Char.ofNat unit) text, rest)
          else
            match readLowSurrogate unit cs with
            | some (pair, cs) =>
              let (text, rest) ← readString fuel cs
              return (Quoted.cons pair text, rest)
            | none =>
              let (_, rest) ← readString fuel cs
              return (none, rest)
        else do
          let escaped ← shortEscape? e
          let (text, rest) ← readString fuel cs
          return (Quoted.cons escaped text, rest)
    else do
      let (text, rest) ← readString fuel cs
      return (Quoted.cons c text, rest)
where
  /-- The character that a high surrogate forms with the escape that follows it. -/
  readLowSurrogate (high : Nat) : List Char → Option (Char × List Char)
    | b :: u :: cs =>
      if high < 0xDC00 ∧ b.toNat = 0x5C ∧ u.toNat = 0x75 then
        match hexUnit? cs with
        | some (low, rest) =>
          if 0xDC00 ≤ low ∧ low ≤ 0xDFFF then
            some (Char.ofNat (0x10000 + (high - 0xD800) * 0x400 + (low - 0xDC00)), rest)
          else none
        | none => none
      else none
    | _ => none

-- ── numbers ──────────────────────────────────────────────────────────────────────

/-- The number that decimal digits stand for. -/
def ofDigits (digits : List Char) : Nat :=
  digits.foldl (fun n c => n * 10 + (c.toNat - 48)) 0

/-- Read digits behind a number as long as it fits 64 bits: the number, and how many digits
    it took. -/
def gather : (n : Nat) → List Char → Nat × Nat
  | n, [] => (n, 0)
  | n, c :: cs =>
    let next := n * 10 + (c.toNat - 48)
    if next < wordCount 64 then
      let (last, count) := gather next cs
      (last, count + 1)
    else (n, 0)

/-- The number of its parts: the integer digits, the digits after the point and the
    exponent. An integer outside the 64-bit ranges, and minus zero, are doubles. A double is
    read from the digits that fit 64 bits. -/
def numberOf (negative : Bool) (whole : List Char) (fraction : Option (List Char))
    (exponent : Option Int) : Draft :=
  let (n, count) := gather 0 whole
  let isWhole := fraction.isNone && exponent.isNone && count = whole.length
  if isWhole && !negative then .number (.int n)
  else if isWhole && 0 < n && n ≤ wordCount 63 then .number (.int (-(n : Int)))
  else
    let (significand, places) := gather n (fraction.getD [])
    let scale := exponent.getD 0 + (whole.length - count : Nat) - places
    match Double.scaled? significand scale with
    | some value => .number (.double (if negative then value.neg else value))
    | none => .unreadable

/-- Whether a character is a decimal digit. -/
def isDigit (c : Char) : Bool := 48 ≤ c.toNat && c.toNat ≤ 57

/-- The digits of an integer part: a zero alone, or no leading zero. -/
def readWhole? (cs : List Char) : Option (List Char × List Char) :=
  match cs.takeWhile isDigit with
  | [] => none
  | digit :: more =>
    if digit.toNat = 48 ∧ more ≠ [] then none
    else some (digit :: more, cs.dropWhile isDigit)

/-- The digits after a point, if there is one. -/
def readFraction? : List Char → Option (Option (List Char) × List Char)
  | c :: cs =>
    if c.toNat = 0x2E then
      match cs.takeWhile isDigit with
      | [] => none
      | digits => some (some digits, cs.dropWhile isDigit)
    else some (none, c :: cs)
  | [] => some (none, [])

/-- The exponent, if there is one. -/
def readExponent? : List Char → Option (Option Int × List Char)
  | c :: cs =>
    if c.toNat = 0x65 ∨ c.toNat = 0x45 then
      let (sign, cs) : Int × List Char :=
        match cs with
        | s :: rest =>
          if s.toNat = 0x2D then (-1, rest) else if s.toNat = 0x2B then (1, rest) else (1, cs)
        | [] => (1, [])
      match cs.takeWhile isDigit with
      | [] => none
      | digits => some (some (sign * (ofDigits digits : Int)), cs.dropWhile isDigit)
    else some (none, c :: cs)
  | [] => some (none, [])

/-- Read a number that starts with a digit or a minus sign. -/
def readNumber? (cs : List Char) : Option (Draft × List Char) := do
  let (negative, cs) := match cs with
    | c :: rest => if c.toNat = 0x2D then (true, rest) else (false, cs)
    | [] => (false, [])
  let (whole, cs) ← readWhole? cs
  let (fraction, cs) ← readFraction? cs
  let (exponent, cs) ← readExponent? cs
  return (numberOf negative whole fraction exponent, cs)

-- ── values ───────────────────────────────────────────────────────────────────────

/-- The text after a word that a text starts with. -/
def afterWord? (word : String) (cs : List Char) : Option (List Char) :=
  if word.toList.isPrefixOf cs then some (cs.drop word.toList.length) else none

/-- Read a literal, a string or a number. -/
def readScalar (cs : List Char) : Draft × Option (List Char) :=
  let read : Option (Draft × List Char) :=
    match cs with
    | [] => none
    | c :: rest =>
      if c.toNat = 0x22 then
        (readString cs.length rest).map fun (text, rest) =>
          ((text.map fun t => Draft.string (String.ofList t)).getD .unreadable, rest)
      else if c.toNat = 0x2D ∨ isDigit c then readNumber? cs
      else if c = 'n' then (afterWord? "null" cs).map (.null, ·)
      else if c = 't' then (afterWord? "true" cs).map (.bool true, ·)
      else if c = 'f' then (afterWord? "false" cs).map (.bool false, ·)
      else none
  match read with
  | some (draft, rest) => (draft, some rest)
  | none => (.torn, none)

mutual

/-- Read a value below `depth` arrays and objects: its draft, and the text after it
    unless the draft is torn. The fuel bounds the number of values and brackets. -/
def readValue : (fuel depth : Nat) → List Char → Draft × Option (List Char)
  | 0, _, _ => (.torn, none)
  | fuel + 1, depth, cs =>
    match dropBlanks cs with
    | [] => (.torn, none)
    | c :: rest =>
      if c = '[' then
        let (items, after) := readItems fuel (depth + 1) true rest
        (.array (depthLimit ≤ depth) items, after)
      else if c.toNat = 0x7B then
        let (members, after) := readMembers fuel (depth + 1) true rest
        (.object (depthLimit ≤ depth) members, after)
      else readScalar (c :: rest)

/-- Read the items of an array up to its closing bracket, which may stand in place of
    the first item only. -/
def readItems : (fuel depth : Nat) → (first : Bool) → List Char →
    List Draft × Option (List Char)
  | 0, _, _, _ => ([.torn], none)
  | fuel + 1, depth, first, cs =>
    match dropBlanks cs with
    | [] => ([.torn], none)
    | c :: rest =>
      if c = ']' ∧ first then ([], some rest)
      else
        match readValue fuel depth (c :: rest) with
        | (item, none) => ([item], none)
        | (item, some cs) =>
          match dropBlanks cs with
          | [] => ([item, .torn], none)
          | d :: after =>
            if d = ',' then
              let (items, after) := readItems fuel depth false after
              (item :: items, after)
            else if d = ']' then ([item], some after)
            else ([item, .torn], none)

/-- Read the members of an object up to its closing brace. -/
def readMembers : (fuel depth : Nat) → (first : Bool) → List Char →
    List (Option String × Draft) × Option (List Char)
  | 0, _, _, _ => ([(none, .torn)], none)
  | fuel + 1, depth, first, cs =>
    match dropBlanks cs with
    | [] => ([(none, .torn)], none)
    | c :: rest =>
      if c.toNat = 0x7D ∧ first then ([], some rest)
      else if c.toNat ≠ 0x22 then ([(none, .torn)], none)
      else
        match readString (rest.length + 1) rest with
        | none => ([(none, .torn)], none)
        | some (text, cs) =>
          let key := text.map String.ofList
          match dropBlanks cs with
          | [] => ([(key, .torn)], none)
          | d :: cs =>
            if d ≠ ':' then ([(key, .torn)], none)
            else
              match readValue fuel depth cs with
              | (value, none) => ([(key, value)], none)
              | (value, some cs) =>
                match dropBlanks cs with
                | [] => ([(key, value), (none, .torn)], none)
                | d :: after =>
                  if d = ',' then
                    let (members, after) := readMembers fuel depth false after
                    ((key, value) :: members, after)
                  else if d.toNat = 0x7D then ([(key, value)], some after)
                  else ([(key, value), (none, .torn)], none)

end

/-- The draft of a text, and whether only blanks follow it. -/
def ofText (text : String) : Draft × Bool :=
  let cs := text.toList
  let (draft, rest) := readValue (2 * cs.length + 2) 0 cs
  (draft, match rest with
    | some rest => (dropBlanks rest).isEmpty
    | none => false)

end Draft

/-- Decode a text. Its value is decoded first, then nothing may follow. -/
def Decode.text {α : Type} (value : Draft → Except Fault α) (text : String) : Except Fault α := do
  let (draft, clean) := Draft.ofText text
  let a ← value draft
  if clean then return a else .error .malformed

/-- The value of a text. -/
def Json.ofText (text : String) : Except Fault Json := Decode.text Draft.whole text

end Bindery
