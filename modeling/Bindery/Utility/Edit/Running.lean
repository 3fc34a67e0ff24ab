import Bindery.Utility.Edit.Script
import Bindery.Utility.Lines

/-!
# Running editing scripts

The lines of a text pass through a script one after another. What comes out is printed
line by line; a line feed that the last line lacks is put in once something follows it.

* **`Editing`** — what a script works on.
* **`Editing.run`** — what a script makes of a text.
-/

namespace Bindery.Utility

/-- What a script works on: the line at hand and whether a line feed ends it, the text that
    is kept, the number of the line, what follows, what is printed and whether it lacks its
    last line feed, the texts that are to be printed after the line, the steps whose second
    address is awaited, with the line after which it counts, whether there has been a
    replacement since the line was read, the pattern that was used last, the contents of
    the files that steps print, and what has been written to files. -/
structure Editing where
  separator : Char
  silent : Bool
  line : List Char
  ended : Bool
  kept : List Char
  number : Nat
  rest : List (List Char)
  restEnded : Bool
  printed : List Char
  lacksFeed : Bool
  pending : List (List Char)
  ranges : List (Nat × Option Nat)
  replaced : Bool
  latest : Option EditPattern
  contents : List (String × List Char)
  written : List (String × List Char)

/-- How a line goes on after a step: with the next step, with those behind a label, with
    the next line, without reading one, or not at all. -/
inductive EditFlow where
  | go | jump (label : String) | drop | restart | quit (status : Nat) | leave (status : Nat)
deriving DecidableEq

/-- What a step does with what a script works on, unless it asks for the pattern that was
    used last when there is none. -/
abbrev EditMotion := StateT Editing Option

-- ── letters ──────────────────────────────────────────────────────────────────────

/-- A character in the case that is asked for. -/
def CaseChange.changed (change : CaseChange) (c : Char) : List Char :=
  match change with
  | .upper => Text.toUpper c
  | .lower => Text.toLower c
  | .none => [c]

namespace Editing

-- ── printing ─────────────────────────────────────────────────────────────────────

/-- Print a text as it is. -/
def emit (editing : Editing) (text : List Char) : Editing :=
  { editing with
    printed := editing.printed ++ (if editing.lacksFeed then [editing.separator] else []) ++ text
    lacksFeed := false }

/-- Print a line. -/
def emitLine (editing : Editing) (line : List Char) (ended : Bool) : Editing :=
  let shown := editing.emit (line ++ if ended then [editing.separator] else [])
  { shown with lacksFeed := !ended }

/-- Print the line at hand. -/
def display (editing : Editing) : Editing := editing.emitLine editing.line editing.ended

/-- Print the line at hand unless only what is asked for is printed. -/
def displayQuietly (editing : Editing) : Editing :=
  if editing.silent then editing else editing.display

/-- Print what was to be printed after the line. -/
def flush (editing : Editing) : Editing :=
  { editing.pending.foldl emit editing with pending := [] }

/-- Write a line to a file. -/
def writeTo (editing : Editing) (path : String) (line : List Char) : Editing :=
  if path = "/dev/stdout" then
    let ending := if editing.ended then [editing.separator] else []
    { editing with printed := editing.printed ++ line ++ ending }
  else
    let before := ((editing.written.find? (·.1 = path)).map (·.2)).getD []
    let others := editing.written.filter (·.1 ≠ path)
    { editing with written := others ++ [(path, before ++ line ++ ['\n'])] }

/-- The width of the lines in which a line is spelt out. -/
def spelledWidth : Nat := 69

/-- A byte as it is spelt out. -/
def spelled (byte : UInt8) : List Char :=
  match byte.toNat with
  | 7 => ['\\', 'a']
  | 8 => ['\\', 'b']
  | 9 => ['\\', 't']
  | 10 => ['\\', 'n']
  | 11 => ['\\', 'v']
  | 12 => ['\\', 'f']
  | 13 => ['\\', 'r']
  | 92 => ['\\', '\\']
  | n =>
    if 32 ≤ n ∧ n < 127 then [Char.ofNat n]
    else '\\' :: [n / 64, n / 8 % 8, n % 8].map fun digit => Char.ofNat (48 + digit)

/-- Bytes spelt out in lines that end with a backslash but for the last. -/
def spelledLines : (width : Nat) → List UInt8 → List Char
  | _, [] => ['$']
  | width, byte :: rest =>
    let text := spelled byte
    if spelledWidth < width + text.length then '\\' :: '\n' :: text ++ spelledLines text.length rest
    else text ++ spelledLines (width + text.length) rest

-- ── addresses ────────────────────────────────────────────────────────────────────

/-- A pattern, which from now on is the one that was used last. -/
def patternOrLatest (pattern : Option EditPattern) : EditMotion EditPattern := do
  let editing ← get
  match pattern.orElse fun _ => editing.latest with
  | some found =>
    set { editing with latest := some found }
    return found
  | none => failure

/-- Whether an address is that of the line at hand. -/
def isAt (address : Address) : EditMotion Bool := do
  let editing ← get
  match address with
  | .line n => return editing.number = n
  | .last => return editing.rest.isEmpty
  | .every first step =>
    return if step = 0 then editing.number = first
      else first ≤ editing.number && (editing.number - first) % step = 0
  | .further _ => return false
  | .multiple n => return n = 0 || editing.number % n = 0
  | .matching pattern =>
    let pattern ← patternOrLatest pattern
    return (pattern.regex.find? pattern.anyCase editing.line).isSome

/-- Whether the line at hand ends a range that was begun, `stop` being the last line of a
    range of a certain length. -/
def endsRange (stop : Option Nat) (second : Address) : EditMotion Bool := do
  let number := (← get).number
  match stop with
  | some n => return n ≤ number
  | none => isAt second

/-- Whether the line at hand is in the range between two addresses of a step. -/
def isInRange (index : Nat) (first second : Address) : EditMotion Bool := do
  let editing ← get
  match editing.ranges.find? (·.1 = index) with
  | some (_, stop) =>
    let ends ← endsRange stop second
    if ends then
      modify fun editing => { editing with ranges := editing.ranges.filter (·.1 ≠ index) }
    return true
  | none =>
    if ← isAt first then
      let stop := match second with
        | .further n => some (editing.number + n)
        | .multiple n => some (if n = 0 then editing.number else (editing.number + n - 1) / n * n)
        | .line n => some n
        | _ => none
      if stop.all (editing.number < ·) then
        modify fun editing => { editing with ranges := (index, stop) :: editing.ranges }
      return true
    else return false

/-- Whether a step acts on the line at hand. -/
def isChosen (index : Nat) (step : EditStep) : EditMotion Bool := do
  let found ← match step.first, step.second with
    | none, _ => pure true
    | some first, none => isAt first
    | some first, some second => isInRange index first second
  return found != step.negated

-- ── replacing ────────────────────────────────────────────────────────────────────

/-- A text whose first character and whose others are changed in case. -/
def changedText (next all : CaseChange) : List Char → List Char
  | [] => []
  | c :: rest =>
    CaseChange.changed (if next = .none then all else next) c ++ rest.flatMap (CaseChange.changed all)

/-- The text of a replacement; `next` is the change of case of the next character, `all`
    that of all that follow. -/
def replacementText (found : Text.Regex.Match) (next all : CaseChange) :
    List ReplacementPart → List Char
  | [] => []
  | .changeNext change :: rest => replacementText found change all rest
  | .changeAll change :: rest => replacementText found next change rest
  | .char c :: rest => changedText next all [c] ++ replacementText found .none all rest
  | .group number :: rest =>
    let text := if number = 0 then found.text
      else ((found.groups.find? (·.1 = number)).map (·.2)).getD []
    changedText next all text ++ replacementText found (if text.isEmpty then next else .none) all rest

/-- A line with its matches replaced, and whether there was one to replace; the length of
    the line is fuel enough. -/
def substituted (pattern : EditPattern) (s : Substitution) :
    (fuel : Nat) → (count : Nat) → (afterMatch : Bool) → (before rest : List Char) →
    List Char × Bool
  | 0, _, _, _, rest => (rest, false)
  | fuel + 1, count, afterMatch, before, rest =>
    match pattern.regex.findFrom? pattern.anyCase before rest with
    | none => (rest, false)
    | some found =>
      let gap := found.before.drop before.length
      let skipped := found.text.isEmpty && gap.isEmpty && afterMatch
      let chosen := !skipped && s.first ≤ count
      let text := if chosen then replacementText found .none .none s.replacement else found.text
      if chosen && !s.all then (gap ++ text ++ found.after, true)
      else
        let count := if skipped then count else count + 1
        let behind := found.text.reverse ++ found.before.reverse
        if found.text.isEmpty then
          match found.after with
          | c :: after =>
            let (others, hit) := substituted pattern s fuel count false (c :: behind) after
            (gap ++ text ++ c :: others, hit || chosen)
          | [] => (gap ++ text, chosen)
        else
          let (others, hit) := substituted pattern s fuel count true behind found.after
          (gap ++ text ++ others, hit || chosen)

/-- Replace matches in the line at hand. -/
def substitute (s : Substitution) : EditMotion Unit := do
  let pattern ← patternOrLatest s.pattern
  modify fun editing =>
    let (line, hit) := substituted pattern s (editing.line.length + 2) 1 false [] editing.line
    let changed := { editing with line := line, replaced := editing.replaced || hit }
    let shown := if hit && s.prints then changed.display else changed
    match s.target with
    | some path => if hit then shown.writeTo path line else shown
    | none => shown

-- ── steps ────────────────────────────────────────────────────────────────────────

/-- Go on to the next line. -/
def advance? (editing : Editing) : Option Editing :=
  match editing.rest with
  | [] => none
  | line :: rest =>
    some { editing with
      line := line, rest := rest, number := editing.number + 1
      ended := !rest.isEmpty || editing.restEnded, replaced := false }

/-- Whether a step goes on at its label. -/
def jumps (editing : Editing) : JumpCondition → Bool
  | .always => true
  | .ifReplaced => editing.replaced
  | .unlessReplaced => !editing.replaced

/-- What a script works on after a question whether there has been a replacement. -/
def afterQuestion (editing : Editing) : JumpCondition → Editing
  | .always => editing
  | .ifReplaced | .unlessReplaced => { editing with replaced := false }

/-- The line up to its first separator. -/
def firstPiece (editing : Editing) : List Char := editing.line.takeWhile (· ≠ editing.separator)

/-- Do what a step does on a line. -/
def perform (index : Nat) (step : EditStep) : EditMotion EditFlow := do
  let editing ← get
  let change (changed : Editing) : EditMotion EditFlow := do
    set changed
    return .go
  match step.action with
  | .substitute s =>
    substitute s
    return .go
  | .exchange old new => change { editing with line := editing.line.map (exchanged old new) }
  | .delete => return .drop
  | .deleteFirst =>
    let piece := editing.firstPiece
    if piece.length = editing.line.length then return .drop
    else
      set { editing with line := editing.line.drop (piece.length + 1) }
      return .restart
  | .print => change editing.display
  | .printFirst => change (editing.emitLine editing.firstPiece true)
  | .next =>
    match editing.displayQuietly.flush.advance? with
    | none => return .quit 0
    | some next => change next
  | .join =>
    match editing.flush.advance? with
    | none => return .quit 0
    | some next => change { next with line := editing.line ++ editing.separator :: next.line }
  | .number => change (editing.emitLine (toString editing.number).toList true)
  | .spellOut =>
    change (editing.emitLine (spelledLines 0 (Text.utf8Bytes (String.ofList editing.line))) true)
  | .clear => change { editing with line := [] }
  | .append text => change { editing with pending := editing.pending ++ [text] }
  | .appendFile path =>
    let found := (editing.contents.filter (·.1 = path)).map (·.2)
    change { editing with pending := editing.pending ++ found }
  | .insert text => change (editing.emit text)
  | .replace text =>
    let inside := step.second.isSome && editing.ranges.any (·.1 = index)
    if !inside then set (editing.emit text)
    return .drop
  | .write path => change (editing.writeTo path editing.line)
  | .keep => change { editing with kept := editing.line }
  | .keepMore => change { editing with kept := editing.kept ++ editing.separator :: editing.line }
  | .fetch => change { editing with line := editing.kept }
  | .fetchMore => change { editing with line := editing.line ++ editing.separator :: editing.kept }
  | .swap => change { editing with line := editing.kept, kept := editing.line }
  | .quit status => return .quit status
  | .leave status => return .leave status
  | .label _ | .block _ => return .go
  | .jump condition label =>
    set (editing.afterQuestion condition)
    return if editing.jumps condition then .jump label else .go

/-- The steps behind a label; without one, none. -/
def behindLabel (script : List (EditStep × Nat)) (label : String) : List (EditStep × Nat) :=
  if label = "" then [] else script.dropWhile fun (step, _) => step.action ≠ .label label

/-- Do steps on the line at hand, of which each but a jump is followed by the next one.
    `jumps` bounds the jumps. -/
def performAll (script : List (EditStep × Nat)) :
    (jumps : Nat) → List (EditStep × Nat) → EditMotion EditFlow
  | _, [] => return .go
  | jumps, (step, index) :: rest => do
    if ← isChosen index step then
      match ← perform index step with
      | .go => performAll script jumps rest
      | .jump label =>
        match jumps with
        | 0 => return .go
        | jumps + 1 => performAll script jumps (behindLabel script label)
      | other => return other
    else
      let skipped := match step.action with
        | .block count => count
        | _ => 0
      performAll script jumps (rest.drop skipped)
  termination_by jumps rest => (jumps, rest.length)

/-- How often a script may jump on a line, and how many lines it may go through. -/
def stepLimit : Nat := 1000000

/-- Do a script on the line at hand and on all that follow. -/
def runUpTo (script : List (EditStep × Nat)) : (fuel : Nat) → EditMotion Nat
  | 0 => return 0
  | fuel + 1 => do
    let flow ← performAll script stepLimit script
    match flow with
    | .leave status => return status
    | .quit status =>
      modify fun editing => editing.displayQuietly.flush
      return status
    | .restart =>
      modify flush
      runUpTo script fuel
    | flow =>
      modify fun editing => (if flow = .drop then editing else editing.displayQuietly).flush
      match (← get).advance? with
      | none => return 0
      | some next =>
        set next
        runUpTo script fuel

/-- The files that steps write to, while nothing has been written to them. -/
def targetsOf (steps : List EditStep) : List (String × List Char) :=
  (steps.filterMap fun step =>
    match step.action with
    | .write path => some (path, [])
    | .substitute s => s.target.map (·, [])
    | _ => none).filter (·.1 ≠ "/dev/stdout")

/-- The ranges that are open from the first line on. -/
def openRanges (script : List (EditStep × Nat)) : List (Nat × Option Nat) :=
  script.filterMap fun (step, index) =>
    match step.first with
    | some (.line 0) => some (index, none)
    | _ => none

/-- The pieces of a text between separators, and whether one ends it. -/
def piecesOf (separator : Char) (text : List Char) : List (List Char) × Bool :=
  if text.getLast? = some separator then (Text.splitAt separator text.dropLast, true)
  else (Text.splitAt separator text, false)

/-- What a script does with a text, and the status; nothing if it asks for the pattern that
    was used last when there is none. -/
def run (steps : List EditStep) (silent : Bool) (separator : Char)
    (contents : List (String × List Char)) (text : List Char) : Option (Editing × Nat) :=
  let script := steps.zipIdx
  let editing (line : List Char) (rest : List (List Char)) (ended : Bool) : Editing :=
    ⟨separator, silent, line, !rest.isEmpty || ended, [], 1, rest, ended, [], false, [],
      openRanges script, false, none, contents, (targetsOf steps).eraseDups⟩
  if text.isEmpty then some (editing [] [] false, 0)
  else match piecesOf separator text with
    | ([], _) => some (editing [] [] false, 0)
    | (first :: rest, ended) =>
      ((runUpTo script stepLimit).run (editing first rest ended)).map fun (status, editing) =>
        (editing, status)

end Editing

end Bindery.Utility
