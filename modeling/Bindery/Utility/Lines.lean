import Bindery.Text.Char
import Bindery.Utility.Streams

/-!
# Utilities that change lines

* **`exchange`** — other characters in place of some.
* **`cut`** — parts of lines.
* **`sort`**, **`unique`** — lines in order, and without repetitions.
-/

namespace Bindery.Utility

variable {m : Type → Type} [Machine m]

-- ── characters ───────────────────────────────────────────────────────────────────

/-- Bytes as characters with the same numbers. -/
def charsOf (bytes : List UInt8) : List Char := bytes.map fun byte => Char.ofNat byte.toNat

/-- Characters as the bytes with their numbers. -/
def ofChars (chars : List Char) : List UInt8 := chars.map fun c => UInt8.ofNat c.toNat

/-- The value of up to `limit` octal digits, and the text behind them. -/
def takeOctal : (limit : Nat) → (value : Nat) → List Char → Nat × List Char
  | limit + 1, value, c :: rest =>
    if '0' ≤ c ∧ c ≤ '7' then takeOctal limit (value * 8 + (c.toNat - 48)) rest
    else (value, c :: rest)
  | _, value, rest => (value, rest)

/-- The character of an escape behind its backslash, and the text behind it. -/
def escape? : List Char → Option (Char × List Char)
  | 'a' :: rest => some (Char.ofNat 7, rest)
  | 'b' :: rest => some (Char.ofNat 8, rest)
  | 'f' :: rest => some (Char.ofNat 12, rest)
  | 'n' :: rest => some ('\n', rest)
  | 'r' :: rest => some ('\r', rest)
  | 't' :: rest => some ('\t', rest)
  | 'v' :: rest => some (Char.ofNat 11, rest)
  | '\\' :: rest => some ('\\', rest)
  | c :: rest =>
    if '0' ≤ c ∧ c ≤ '7' then
      let (value, after) := takeOctal 3 0 (c :: rest)
      some (Char.ofNat (value % 256), after)
    else none
  | [] => none

/-- A written set of characters with its escapes put in place. Every step takes a
    character, so the length of the text is fuel enough. -/
def setChars : (fuel : Nat) → List Char → List Char
  | 0, _ | _, [] => []
  | fuel + 1, '\\' :: rest =>
    match escape? rest, rest with
    | some (c, after), _ => c :: setChars fuel after
    | none, c :: after => c :: setChars fuel after
    | none, [] => ['\\']
  | fuel + 1, c :: rest => c :: setChars fuel rest

/-- The bytes as characters that are in a class. -/
def classChars (title : String) : List Char :=
  ((List.range 256).map Char.ofNat).filter (Text.inClass title)

/-- The characters of a set with its ranges and classes spelt out. -/
def spellOut : (fuel : Nat) → List Char → List Char
  | 0, _ | _, [] => []
  | fuel + 1, c :: rest =>
    match Text.className? ((c :: rest).map (⟨·, false⟩)) with
    | some (title, ⟨']', _⟩ :: after) =>
      classChars title ++ spellOut fuel (after.map (·.char))
    | some (title, after) => classChars title ++ spellOut fuel (after.map (·.char))
    | none =>
      match rest with
      | '-' :: last :: after =>
        ((List.range (last.toNat + 1 - c.toNat)).map fun i => Char.ofNat (c.toNat + i))
          ++ spellOut fuel after
      | _ => c :: spellOut fuel rest

/-- The characters of a written set. -/
def charsOfSet (text : String) : List Char :=
  let chars := charsOf (Text.utf8Bytes text)
  let plain := setChars chars.length chars
  spellOut plain.length plain

/-- A stream in which a character of a set that follows itself is left out. -/
def squeeze (set : List Char) : (before : Option Char) → List Char → List Char
  | _, [] => []
  | before, c :: rest =>
    if some c = before ∧ set.contains c then squeeze set before rest
    else c :: squeeze set (some c) rest

/-- The characters in place of those of a set. The last one stands for all that are
    missing. -/
def exchanged (old new : List Char) (c : Char) : Char :=
  match old.reverse.findIdx? (· = c) with
  | none => c
  | some fromEnd =>
    let place := old.length - 1 - fromEnd
    (new[place]?.orElse fun _ => new.getLast?).getD c

/-- `tr` puts other characters in place of some, or takes characters away. -/
def exchange (words : List String) : Utility m Nat :=
  withArguments "tr" 1 ⟨"cCdst", "", [("complement", 'c'), ("delete", 'd'),
    ("squeeze-repeats", 's'), ("truncate-set1", 't')], true⟩ words fun arguments => do
  let deletes := arguments.has 'd'
  let squeezes := arguments.has 's'
  let complemented (set : List Char) : List Char :=
    if arguments.has 'c' || arguments.has 'C' then
      ((List.range 256).map Char.ofNat).filter fun c => !set.contains c
    else set
  match arguments.operands with
  | [] => misused "tr" "missing operand" 1
  | [one] =>
    if !deletes && !squeezes then
      complain s!"tr: missing operand after {marked one}"
      complain "Two strings must be given when translating."
      complain "Try 'tr --help' for more information."
      return 1
    let set := complemented (charsOfSet one)
    let chars := charsOf (← takeInput)
    let kept := if deletes then chars.filter fun c => !set.contains c else chars
    put .out (ofChars (if squeezes && !deletes then squeeze set none kept else kept))
    return 0
  | [one, two] =>
    let old := complemented (charsOfSet one)
    let new := charsOfSet two
    let chars := charsOf (← takeInput)
    if deletes then
      put .out (ofChars (squeeze new none (chars.filter fun c => !old.contains c)))
      return 0
    else
      let changed := chars.map (exchanged old new)
      put .out (ofChars (if squeezes then squeeze new none changed else changed))
      return 0
  | _ :: _ :: extra :: _ => misused "tr" s!"extra operand {marked extra}" 1

-- ── parts of lines ───────────────────────────────────────────────────────────────

/-- The places that a list of numbers and ranges names, as a test. -/
def places? (text : String) : Option (Nat → Bool) := do
  let tests : List (Nat → Bool) ← (Text.splitText ',' text).mapM fun part => do
    match Text.splitText '-' part with
    | [one] =>
      let n ← one.toNat?
      return fun i => i = n
    | ["", last] =>
      let n ← last.toNat?
      return fun i => i ≤ n
    | [first, ""] =>
      let n ← first.toNat?
      return fun i => n ≤ i
    | [first, last] =>
      let (a, b) := (← first.toNat?, ← last.toNat?)
      return fun i => a ≤ i && i ≤ b
    | _ => none
  return fun i => tests.any (· i)

/-- The items at some places, which are counted from one. -/
def atPlaces {α : Type} (test : Nat → Bool) (items : List α) : List α :=
  (items.zipIdx.filter fun (_, i) => test (i + 1)).map (·.1)

/-- `cut` prints parts of lines: bytes, or fields between separators. -/
def cut (words : List String) : Utility m Nat :=
  withArguments "cut" 1 ⟨"sn", "dfcbo", [("delimiter", 'd'), ("fields", 'f'), ("characters", 'c'),
    ("bytes", 'b'), ("only-delimited", 's'), ("output-delimiter", 'o')], false⟩ words
    fun arguments => do
  let delimiter := (arguments.value? 'd').getD "\t"
  let fields := arguments.value? 'f'
  match fields.orElse fun _ => (arguments.value? 'c').orElse fun _ => arguments.value? 'b' with
  | none => misused "cut" "you must specify a list of bytes, characters, or fields" 1
  | some text =>
    match places? text, delimiter.toList with
    | none, _ =>
      let unit := if fields.isSome then "field value" else "byte/character position"
      misused "cut" s!"invalid {unit} {marked text}" 1
    | some test, [separator] =>
      let (bytes, failed) ← allContents (fun path reason => s!"cut: {path}: {reason}")
        arguments.operands
      let joint := ((arguments.value? 'o').getD delimiter).toList
      let lines := (linesOf bytes).filterMap fun line =>
        if fields.isNone then some (atPlaces test line)
        else match Text.splitAt separator (charsOf line) with
          | [_] => if arguments.has 's' then none else some line
          | parts => some (ofChars (joint.intercalate (atPlaces test parts)))
      put .out (ofLines lines)
      return if failed then 1 else 0
    | some _, _ => misused "cut" "the delimiter must be a single character" 1

-- ── order ────────────────────────────────────────────────────────────────────────

/-- The number at the beginning of a text, in billionths. -/
def leadingNumber (line : List Char) : Int :=
  let cs := line.dropWhile fun c => c = ' ' || c = '\t'
  let (negative, cs) := match cs with
    | '-' :: rest => (true, rest)
    | cs => (false, cs)
  let whole := cs.takeWhile Text.isAsciiDigit
  let places := match cs.drop whole.length with
    | '.' :: rest => (rest.takeWhile Text.isAsciiDigit).take 9
    | _ => []
  let digits := whole ++ places ++ List.replicate (9 - places.length) '0'
  let value : Nat := digits.foldl (fun n c => n * 10 + (c.toNat - 48)) 0
  if negative then -(value : Int) else value

/-- A part of a line that is compared: its fields, and whether as numbers or backwards. -/
structure SortField where
  first : Nat
  last : Option Nat
  numeric : Bool
  backwards : Bool

/-- The part that a text names. -/
def SortField.ofText? (text : String) : Option SortField := do
  let letters := text.toList.filter Text.isAsciiLower
  let field (part : List Char) : Option Nat :=
    (String.ofList (part.takeWhile Text.isAsciiDigit)).toNat?
  let (first, last) ← match Text.splitAt ',' text.toList with
    | [one] => (field one).map (·, none)
    | [one, two] => do pure (← field one, some (← field two))
    | _ => none
  return ⟨first, last, letters.contains 'n', letters.contains 'r'⟩

/-- The fields of a line: between separators, or each with the blanks in front of it. -/
def fieldsOf (separator : Option Char) (line : List Char) : List (List Char) :=
  match separator with
  | some c => (Text.splitAt c line).map (· ++ [c])
  | none => blankFields line.length line
where
  blankFields : (fuel : Nat) → List Char → List (List Char)
    | 0, _ | _, [] => []
    | fuel + 1, cs =>
      let gap := cs.takeWhile fun c => c = ' ' || c = '\t'
      let field := (cs.drop gap.length).takeWhile fun c => c ≠ ' ' && c ≠ '\t'
      (gap ++ field) :: blankFields fuel (cs.drop (gap.length + field.length))

/-- The part of a line that is compared. -/
def SortField.part (key : SortField) (separator : Option Char) (line : List Char) : List Char :=
  let fields := (fieldsOf separator line).drop (key.first - 1)
  match key.last with
  | some last => (fields.take (last + 1 - key.first)).flatten
  | none => fields.flatten

/-- The order of two texts, as numbers or by their characters. -/
def orderOf (numeric : Bool) (a b : List Char) : Ordering :=
  if numeric then compare (leadingNumber a) (leadingNumber b)
  else compare (a.map Char.toNat) (b.map Char.toNat)

/-- The order of two lines: by the keys, or else as a whole. -/
def lineOrder (arguments : Arguments) (keys : List SortField) (a b : List Char) : Ordering :=
  let fold (cs : List Char) : List Char :=
    if arguments.has 'f' then cs.flatMap Text.toUpper else cs
  let turned (backwards : Bool) (order : Ordering) : Ordering :=
    if backwards then order.swap else order
  let separator := (arguments.value? 't').bind (·.toList.head?)
  let byKeys := if keys.isEmpty then
      turned (arguments.has 'r') (orderOf (arguments.has 'n') (fold a) (fold b))
    else (keys.map fun key =>
      turned (key.backwards || arguments.has 'r') (orderOf (key.numeric || arguments.has 'n')
        (fold (key.part separator a)) (fold (key.part separator b)))).foldl Ordering.then .eq
  if arguments.has 'u' || arguments.has 's' then byKeys
  else byKeys.then (turned (arguments.has 'r') (orderOf false a b))

/-- Lines without those that are equal to the line in front of them. -/
def withoutRepeats (same : List Char → List Char → Bool) : List (List Char) → List (List Char)
  | [] => []
  | [line] => [line]
  | line :: next :: rest =>
    if same line next then
      match withoutRepeats same (next :: rest) with
      | _ :: others => line :: others
      | [] => [line]
    else line :: withoutRepeats same (next :: rest)

/-- `sort` prints the lines of files in order. -/
def sort (words : List String) : Utility m Nat :=
  withArguments "sort" 2 ⟨"rnufsbcV", "kto", [("reverse", 'r'), ("numeric-sort", 'n'), ("unique", 'u'),
    ("ignore-case", 'f'), ("stable", 's'), ("key", 'k'), ("field-separator", 't'), ("output", 'o')],
    false⟩ words fun arguments => do
  let keys := (arguments.values 'k').filterMap SortField.ofText?
  let (bytes, failed) ← allContents (fun path reason => s!"sort: cannot read: {path}: {reason}")
    arguments.operands
  if failed then return 2
  else
    let lines := (linesOf bytes).map charsOf
    let ordered := lines.mergeSort fun a b => lineOrder arguments keys a b ≠ .gt
    let kept := if arguments.has 'u' then
        withoutRepeats (fun a b => lineOrder arguments keys a b = .eq) ordered
      else ordered
    let text := ofLines (kept.map ofChars)
    match arguments.value? 'o' with
    | some path =>
      trying (FileSystem.writeBytes path text) fun reason => s!"sort: open failed: {path}: {reason}"
    | none =>
      put .out text
      return 0

/-- Groups of lines that are equal and follow one another. -/
def groups (same : List UInt8 → List UInt8 → Bool) :
    List (List UInt8) → List (Nat × List UInt8)
  | [] => []
  | line :: rest =>
    match groups same rest with
    | (n, next) :: others =>
      if same line next then (n + 1, line) :: others else (1, line) :: (n, next) :: others
    | [] => [(1, line)]

/-- `uniq` prints lines without repetitions. -/
def unique (words : List String) : Utility m Nat :=
  withArguments "uniq" 1 ⟨"cdui", "", [("count", 'c'), ("repeated", 'd'), ("unique", 'u'),
    ("ignore-case", 'i')], false⟩ words fun arguments => do
  let (bytes, failed) ← allContents (fun path reason => s!"uniq: {path}: {reason}")
    (arguments.operands.take 1)
  if failed then return 1
  else
    let fold (line : List UInt8) : List Char :=
      if arguments.has 'i' then (charsOf line).flatMap Text.toLower else charsOf line
    let found := groups (fun a b => fold a = fold b) (linesOf bytes)
    let kept := found.filter fun (n, _) =>
      (!arguments.has 'd' || n > 1) && (!arguments.has 'u' || n = 1)
    let text := ofLines (kept.map fun (n, line) =>
      if arguments.has 'c' then Text.utf8Bytes s!"{padded 7 n} " ++ line else line)
    match arguments.operands with
    | [_, target] =>
      trying (FileSystem.writeBytes target text) fun reason => s!"uniq: {target}: {reason}"
    | _ =>
      put .out text
      return 0

end Bindery.Utility
