import Bindery.Text.Regex
import Bindery.Utility.Lines

/-!
# Searching lines

* **`search`** — the lines of files that match a pattern.
-/

namespace Bindery.Utility

open Text (Regex RegexFault)

variable {m : Type → Type} [Machine m]

/-- The files below a path, if it is a directory, or the path itself. -/
def filesOf (path : String) : Utility m (List String) := do
  match ← (FileSystem.kind (m := Utility m) path).run with
  | .ok .folder =>
    let below := (← (FileSystem.filesBelow (m := Utility m) path).run).toOption.getD []
    return below.map fun name => if path.toList.getLast? = some '/' then path ++ name else path ++ "/" ++ name
  | _ => return [path]

/-- The expression of patterns of which one has to match, and the repetitions in them that
    were passed over. -/
def patternOf (arguments : Arguments) (patterns : List String) :
    Except RegexFault (Regex × List Char) := do
  let found ← (patterns.flatMap (Text.splitText '\n')).mapM fun text => do
    let (regex, passed) ← if arguments.has 'F' then .ok (Regex.literal text.toList, [])
      else Regex.ofText ⟨arguments.has 'E' || arguments.has 'P', true⟩ text.toList
    if arguments.has 'x' then return (.sequence .start (.sequence regex .stop), passed)
    else if arguments.has 'w' then
      return (.sequence (.edge true false) (.sequence regex (.edge false true)), passed)
    else return (regex, passed)
  match found.map (·.1) with
  | [] => return (.empty, [])
  | first :: rest => return (rest.foldl Regex.either first, found.flatMap (·.2))

/-- The texts of a line that match an expression; the length of the line is fuel enough. -/
def matchesOf (anyCase : Bool) (regex : Regex) : (fuel : Nat) → (before rest : List Char) →
    List (List Char)
  | 0, _, _ => []
  | fuel + 1, before, rest =>
    match regex.findFrom? anyCase before rest with
    | none => []
    | some found =>
      if found.text.isEmpty then
        match found.after with
        | c :: after => matchesOf anyCase regex fuel (c :: found.before.reverse) after
        | [] => []
      else
        found.text :: matchesOf anyCase regex fuel
          (found.text.reverse ++ found.before.reverse) found.after

/-- How many lines are shown in front of those that match, and behind them. -/
structure Surroundings where
  before : Nat
  after : Nat
deriving DecidableEq

/-- The surroundings that are asked for. -/
def Surroundings.ofArguments (arguments : Arguments) : Surroundings :=
  let size (letter : Char) : Nat :=
    (((arguments.value? letter).orElse fun _ => arguments.value? 'C').bind String.toNat?).getD 0
  ⟨size 'B', size 'A'⟩

/-- A line of a file with its number, and whether it matches. -/
structure SearchLine where
  text : List Char
  number : Nat
  hits : Bool

/-- The lines that are shown: those that match, as many as are wanted, and those around
    them. -/
def shownLines (around : Surroundings) (limit : Option Nat) (lines : List SearchLine) :
    List SearchLine :=
  let hits := (lines.filter (·.hits)).map (·.number)
  let hits := match limit with
    | some n => hits.take n
    | none => hits
  lines.filterMap fun line =>
    if hits.any fun n => n ≤ line.number + around.before && line.number ≤ n + around.after then
      some { line with hits := hits.contains line.number }
    else none

/-- Print lines. `last` is the number of the line that was printed before; where lines are
    left out a row of dashes stands if `parted`. -/
def printShown (texts : SearchLine → List String) (parted : Bool) :
    (last : Option Nat) → List SearchLine → Utility m Unit
  | _, [] => return
  | last, line :: rest => do
    if parted && last.any (· + 1 < line.number) then print "--\n"
    for text in texts line do
      print (text ++ "\n")
    printShown texts parted (some line.number) rest

/-- Print what is wanted of the matching lines of a file; whether there are any. -/
def searchFile (arguments : Arguments) (regex : Regex) (title : Option String)
    (bytes : List UInt8) : Utility m Bool := do
  let anyCase := arguments.has 'i' || arguments.has 'y'
  let limit := (arguments.value? 'm').bind String.toNat?
  let around := Surroundings.ofArguments arguments
  let lines : List SearchLine := (linesOf bytes).zipIdx.map fun (line, i) =>
    let text := (Text.decodeLossy line).toList
    ⟨text, i + 1, (regex.find? anyCase text).isSome != arguments.has 'v'⟩
  let hits := shownLines ⟨0, 0⟩ limit lines
  let name := title.getD ""
  if arguments.has 'q' then return !hits.isEmpty
  else if arguments.has 'l' then
    if !hits.isEmpty then print (name ++ "\n")
    return !hits.isEmpty
  else if arguments.has 'L' then
    if hits.isEmpty then print (name ++ "\n")
    return hits.isEmpty
  else if arguments.has 'c' then
    let lead := if title.isSome then name ++ ":" else ""
    print s!"{lead}{hits.length}\n"
    return !hits.isEmpty
  else
    let texts (line : SearchLine) : List String :=
      let sign := if line.hits then ":" else "-"
      let lead := (if title.isSome then name ++ sign else "")
        ++ (if arguments.has 'n' then toString line.number ++ sign else "")
      let parts := if !arguments.has 'o' then [line.text]
        else if arguments.has 'v' || !line.hits then []
        else matchesOf anyCase regex (line.text.length + 1) [] line.text
      parts.map fun text => lead ++ String.ofList text
    printShown texts (around ≠ ⟨0, 0⟩) none (shownLines around limit lines)
    return !hits.isEmpty

/-- Whether a file that was found in a directory is to be searched. -/
def isIncluded (arguments : Arguments) (path : String) : Bool :=
  let fits (text : String) : Bool :=
    (Text.Pattern.ofMarks (text.toList.map (⟨·, false⟩))).accepts (baseName path)
  let included := arguments.values 'j'
  (included.isEmpty || included.any fits) && !(arguments.values 'k').any fits

/-- The options of `grep`. The letters j and k stand for options that have none. -/
def searchOptions : OptionSyntax :=
  ⟨"qcnviylLrREFGPwxohHsaI", "emABCjk", [("quiet", 'q'), ("silent", 'q'),
    ("count", 'c'), ("line-number", 'n'), ("invert-match", 'v'), ("ignore-case", 'i'),
    ("files-with-matches", 'l'), ("files-without-match", 'L'), ("recursive", 'r'),
    ("extended-regexp", 'E'), ("fixed-strings", 'F'), ("basic-regexp", 'G'),
    ("perl-regexp", 'P'), ("word-regexp", 'w'), ("line-regexp", 'x'),
    ("only-matching", 'o'), ("no-filename", 'h'), ("with-filename", 'H'), ("no-messages", 's'),
    ("regexp", 'e'), ("max-count", 'm'), ("after-context", 'A'), ("before-context", 'B'),
    ("context", 'C'), ("text", 'a'), ("include", 'j'), ("exclude", 'k')], false⟩

/-- `grep` prints the lines of files that match a pattern. The status is 0 if there are
    any, 1 if there are none, and 2 if something could not be read. -/
def search (words : List String) : Utility m Nat :=
  withArguments "grep" 2 searchOptions words fun arguments => do
  let (patterns, paths) := match arguments.values 'e', arguments.operands with
    | [], pattern :: rest => ([pattern], rest)
    | given, rest => (given, rest)
  let deep := arguments.has 'r' || arguments.has 'R'
  if patterns.isEmpty then
    complain "Usage: grep [OPTION]... PATTERNS [FILE]..."
    complain "Try 'grep --help' for more information."
    return 2
  match patternOf arguments patterns with
  | .error fault =>
    complain s!"grep: {fault.message}"
    return 2
  | .ok (regex, passed) =>
    for c in passed do
      let sign := if c = '\x7b' then "\x7b...\x7d" else c.toString
      complain s!"grep: warning: {sign} at start of expression"
    let given := if paths.isEmpty then [if deep then "." else "-"] else paths
    let files ← if deep then do
        let found := (← given.mapM filesOf).flatten
        pure (found.filter (isIncluded arguments))
      else pure given
    let files := if deep && paths.isEmpty then files.map fun path => String.ofList (path.toList.drop 2)
      else files
    let titled := (arguments.has 'H' || deep || given.length > 1) && !arguments.has 'h'
    let naming := titled || arguments.has 'l' || arguments.has 'L'
    let rec go (hit failed : Bool) : List String → Utility m Nat
      | [] => return if failed && !(hit && arguments.has 'q') then 2 else if hit then 0 else 1
      | path :: rest => do
        match ← (contents (m := m) path).run with
        | .ok bytes =>
          let title := if path = "-" then "(standard input)" else path
          let found ← searchFile arguments regex (if naming then some title else none) bytes
          go (hit || found) failed rest
        | .error fault =>
          if !arguments.has 's' then complain s!"grep: {path}: {fault.reason}"
          go hit true rest
    go false false files

end Bindery.Utility
