import Bindery.Text.Char
import Bindery.Utility.Files

/-!
# Utilities that read a stream

* **`concatenate`**, **`duplicate`** — pass a stream on.
* **`firstPart`**, **`lastPart`** — its beginning and its end.
* **`count`** — lines, words and bytes.
* **`reverseLines`**, **`reverseChars`** — the other way round.
-/

namespace Bindery.Utility

variable {m : Type → Type} [Machine m]

/-- A number with blanks in front. -/
def padded (width n : Nat) : String :=
  let digits := toString n
  String.ofList (List.replicate (width - digits.length) ' ') ++ digits

-- ── passing on ───────────────────────────────────────────────────────────────────

/-- Lines, each with the line feed that ends it, if one does. -/
def endedLines (bytes : List UInt8) : List (List UInt8) :=
  let lines := linesOf bytes
  if bytes.getLast? = some 10 then lines.map (· ++ [10])
  else lines.dropLast.map (· ++ [10]) ++ lines.getLast?.toList

/-- A byte that is made visible: control characters behind a caret, tabs only if `tabs`,
    and bytes above 127 behind `M-`. -/
def visible (tabs others : Bool) (byte : UInt8) : List UInt8 :=
  let low (b : UInt8) : List UInt8 := if b < 32 then [94, b + 64] else if b = 127 then [94, 63] else [b]
  if byte = 10 then [10]
  else if byte = 9 then (if tabs then [94, 73] else [9])
  else if !others then [byte]
  else if byte < 128 then low byte
  else [77, 45] ++ low (byte - 128)

/-- How lines are decorated: numbered, all or those that are not empty; without empty lines
    behind an empty one; with marks at their ends, for tabs and for other bytes. -/
structure LineStyle where
  numbered : Bool
  filledOnly : Bool
  squeezed : Bool
  ends : Bool
  tabs : Bool
  others : Bool

/-- The style that is asked for. -/
def LineStyle.ofArguments (arguments : Arguments) : LineStyle :=
  let any (letters : List Char) : Bool := letters.any arguments.has
  ⟨any ['n', 'b'], any ['b'], any ['s'], any ['E', 'A', 'e'], any ['T', 'A', 't'], any ['v', 'A', 'e', 't']⟩

/-- Where lines go on: the number of the next one, and whether the one in front of it is
    empty, or has not ended yet. -/
structure LinePlace where
  number : Nat
  afterEmpty : Bool
  inside : Bool

/-- Decorated lines, and where others go on behind them. -/
def decorated (style : LineStyle) : LinePlace → List (List UInt8) → List UInt8 × LinePlace
  | place, [] => ([], place)
  | place, line :: rest =>
    let isEmpty := line = [10] && !place.inside
    if style.squeezed && isEmpty && place.afterEmpty then decorated style place rest
    else
      let counts := style.numbered && !place.inside && !(style.filledOnly && isEmpty)
      let lead := if counts then Text.utf8Bytes s!"{padded 6 place.number}\t" else []
      let shown := line.flatMap fun byte =>
        if byte = 10 && style.ends then [36, 10] else visible style.tabs style.others byte
      let (others, after) := decorated style
        ⟨if counts then place.number + 1 else place.number, isEmpty, line.getLast? ≠ some 10⟩ rest
      (lead ++ shown ++ others, after)

/-- `cat` prints files one after another. -/
def concatenate (words : List String) : Utility m Nat :=
  withArguments "cat" 1 ⟨"nbsETvAetu", "", [("number", 'n'), ("number-nonblank", 'b'),
    ("squeeze-blank", 's'), ("show-ends", 'E'), ("show-tabs", 'T'), ("show-nonprinting", 'v'),
    ("show-all", 'A')], false⟩ words fun arguments => do
  let style := LineStyle.ofArguments arguments
  let rec go (place : LinePlace) : List String → Utility m Nat
    | [] => return 0
    | path :: rest => do
      match ← (contents (m := m) path).run with
      | .ok bytes =>
        let (shown, place) := decorated style place (endedLines bytes)
        put .out (if arguments.options.isEmpty then bytes else shown)
        go place rest
      | .error fault =>
        complain s!"cat: {path}: {fault.reason}"
        let _ ← go place rest
        return 1
  go ⟨1, false, false⟩ (if arguments.operands.isEmpty then ["-"] else arguments.operands)

/-- `tee` prints its input and writes it to files. -/
def duplicate (words : List String) : Utility m Nat :=
  withArguments "tee" 1 ⟨"ai", "", [("append", 'a')], false⟩ words fun arguments => do
  let bytes ← takeInput
  put .out bytes
  onEach arguments.operands fun path => do
    let before ← if arguments.has 'a' then
        pure ((← (FileSystem.readBytes (m := Utility m) path).run).toOption.getD [])
      else pure []
    trying (FileSystem.writeBytes path (before ++ bytes)) fun reason => s!"tee: {path}: {reason}"

-- ── parts ────────────────────────────────────────────────────────────────────────

/-- How much of a stream is meant: lines or bytes, a number of them, and a sign in front of
    the number. -/
structure Amount where
  bytes : Bool
  sign : Option Char
  count : Nat

/-- The amount that a text is. -/
def Amount.ofText? (bytes : Bool) (text : String) : Option Amount :=
  match text.toList with
  | '+' :: digits => (String.ofList digits).toNat?.map (⟨bytes, some '+', ·⟩)
  | '-' :: digits => (String.ofList digits).toNat?.map (⟨bytes, some '-', ·⟩)
  | _ => text.toNat?.map (⟨bytes, none, ·⟩)

/-- A number behind a dash in the first place, as the value of an option. -/
def withCount (words : List String) : List String :=
  match words with
  | word :: rest =>
    match word.toList with
    | '-' :: c :: cs =>
      if (c :: cs).all Text.isAsciiDigit then "-n" :: String.ofList (c :: cs) :: rest else words
    | _ => words
  | [] => []

/-- The beginning of a stream; with a minus sign, all but an amount at its end. -/
def Amount.front (amount : Amount) (bytes : List UInt8) : List UInt8 :=
  let cut {α : Type} (items : List α) : List α :=
    if amount.sign = some '-' then items.take (items.length - amount.count)
    else items.take amount.count
  if amount.bytes then cut bytes else (cut (endedLines bytes)).flatten

/-- The end of a stream; with a plus sign, all from a place on. -/
def Amount.back (amount : Amount) (bytes : List UInt8) : List UInt8 :=
  let cut {α : Type} (items : List α) : List α :=
    if amount.sign = some '+' then items.drop (amount.count - 1)
    else items.drop (items.length - amount.count)
  if amount.bytes then cut bytes else (cut (endedLines bytes)).flatten

/-- Print a part of every operand. If there are several, each has its name above it. -/
def printParts (name : String) (words : List String) (part : Amount → List UInt8 → List UInt8) :
    Utility m Nat :=
  withArguments name 1 ⟨"qvfF", "nc", [("lines", 'n'), ("bytes", 'c'), ("quiet", 'q'),
    ("silent", 'q'), ("verbose", 'v')], false⟩ (withCount words) fun arguments => do
  let chosen := (arguments.options.filter fun (letter, _) => letter = 'n' || letter = 'c').getLast?
  let (letter, value) := chosen.getD ('n', "10")
  match Amount.ofText? (letter = 'c') value with
  | none =>
    let unit := if letter = 'c' then "bytes" else "lines"
    complain s!"{name}: invalid number of {unit}: {marked value}"
    return 1
  | some amount =>
    let paths := if arguments.operands.isEmpty then ["-"] else arguments.operands
    let titled := (paths.length > 1 || arguments.has 'v') && !arguments.has 'q'
    let rec go (first : Bool) : List String → Utility m Nat
      | [] => return 0
      | path :: rest => do
        let title := if path = "-" then "standard input" else path
        let heading := if titled then (if first then "" else "\n") ++ s!"==> {title} <==\n" else ""
        match ← (contents (m := m) path).run with
        | .ok bytes =>
          print heading
          put .out (part amount bytes)
          go false rest
        | .error fault =>
          if fault = .isADirectory then
            print heading
            complain s!"{name}: error reading {quoted path}: {fault.reason}"
          else complain s!"{name}: cannot open {quoted path} for reading: {fault.reason}"
          let _ ← go (first && fault ≠ .isADirectory) rest
          return 1
    go true paths

/-- `head` prints the beginning of files. -/
def firstPart (words : List String) : Utility m Nat := printParts "head" words Amount.front

/-- `tail` prints the end of files. -/
def lastPart (words : List String) : Utility m Nat := printParts "tail" words Amount.back

-- ── counting ─────────────────────────────────────────────────────────────────────

/-- Whether a byte is white space. -/
def isSpace (byte : UInt8) : Bool := byte = 32 || (9 ≤ byte && byte ≤ 13)

/-- How many words there are; `inside` says that one has begun. -/
def countWords : (inside : Bool) → List UInt8 → Nat
  | _, [] => 0
  | inside, byte :: rest =>
    if isSpace byte then countWords false rest
    else (if inside then 0 else 1) + countWords true rest

/-- The counts of a stream that are wanted, in the order in which they are printed. -/
def counts (arguments : Arguments) (bytes : List UInt8) : List Nat :=
  let plain := !(['l', 'w', 'c', 'm', 'L'].any arguments.has)
  let longest := ((linesOf bytes).map List.length).foldl max 0
  (if plain || arguments.has 'l' then [bytes.count 10] else [])
    ++ (if plain || arguments.has 'w' then [countWords false bytes] else [])
    ++ (if arguments.has 'm' then [(Text.decodeLossy bytes).length] else [])
    ++ (if plain || arguments.has 'c' then [bytes.length] else [])
    ++ (if arguments.has 'L' then [longest] else [])

/-- A line of counts. -/
def countLine (width : Nat) (counts : List Nat) (title : String) : String :=
  " ".intercalate (counts.map (padded width)) ++ (if title = "" then "" else " " ++ title) ++ "\n"

/-- `wc` counts lines, words and bytes. The counts are as wide as that of all bytes; a
    stream whose size is not known is taken for a large one. -/
def count (words : List String) : Utility m Nat :=
  withArguments "wc" 1 ⟨"lwcmL", "", [("lines", 'l'), ("words", 'w'), ("bytes", 'c'), ("chars", 'm'),
    ("max-line-length", 'L')], false⟩ words fun arguments => do
  let paths := if arguments.operands.isEmpty then ["-"] else arguments.operands
  let inputSize := (← get).inputSize
  let found ← paths.mapM fun path => do return (path, ← (contents (m := m) path).run)
  let sizes := found.map fun (path, bytes) =>
    match bytes with
    | .ok bytes => if path = "-" then inputSize else some bytes.length
    | .error .isADirectory => none
    | .error _ => some 0
  let columns := (counts arguments []).length
  let width := if paths.length = 1 && columns = 1 then 1
    else max (toString (sizes.foldl (fun sum size => sum + size.getD 0) 0)).length (if sizes.any (·.isNone) then 7 else 1)
  let status ← onEach found fun (path, bytes) => do
    let title := if arguments.operands.isEmpty then "" else path
    match bytes with
    | .ok bytes =>
      print (countLine width (counts arguments bytes) title)
      return 0
    | .error fault =>
      complain s!"wc: {path}: {fault.reason}"
      if fault = .isADirectory then print (countLine width (counts arguments []) title)
      return 1
  if paths.length > 1 then
    let all := found.map fun (_, bytes) => counts arguments (bytes.toOption.getD [])
    let total := all.foldl (fun sums row => sums.zipWith (· + ·) row) (List.replicate columns 0)
    print (countLine width total "total")
  return status

-- ── turning round ────────────────────────────────────────────────────────────────

/-- `tac` prints the lines of files from the last to the first. -/
def reverseLines (words : List String) : Utility m Nat := do
  let (bytes, failed) ← allContents (fun path reason =>
    s!"tac: failed to open {quoted path} for reading: {reason}") words
  put .out (endedLines bytes).reverse.flatten
  return if failed then 1 else 0

/-- `rev` prints the lines of files with their characters turned round. -/
def reverseChars (words : List String) : Utility m Nat := do
  let (bytes, failed) ← allContents (fun path reason => s!"rev: cannot open {path}: {reason}") words
  for line in endedLines bytes do
    let chars := (Text.decodeLossy line).toList
    let (inner, feed) := if chars.getLast? = some '\n' then (chars.dropLast, "\n") else (chars, "")
    print (String.ofList inner.reverse ++ feed)
  return if failed then 1 else 0

end Bindery.Utility
