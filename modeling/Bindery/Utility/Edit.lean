import Bindery.Utility.Edit.Running
import Bindery.Utility.Edit.Script

/-!
# Editing files

* **`EditScript`** — the parts that a script is made of, and where a fault is in them.
* **`edit`** — prints files as a script changes them, or changes them in place.
-/

namespace Bindery.Utility

-- ── scripts ──────────────────────────────────────────────────────────────────────

/-- A part of a script: the file that it comes from, if it is not a word, and its text. -/
structure ScriptPart where
  path : Option String
  text : List Char

/-- The parts of a script, each of which begins a line. -/
abbrev EditScript := List ScriptPart

namespace EditScript

/-- The text of a script. -/
def text (script : EditScript) : List Char := ['\n'].intercalate (script.map (·.text))

/-- The place of a fault, in front of which there are so many characters: a character of a
    word, which has its number among the words, or a line of a file. `words` is the number
    of words in front. -/
def placeOf : (words count : Nat) → EditScript → String
  | _, _, [] => ""
  | words, count, part :: rest =>
    if part.text.length < count && !rest.isEmpty then
      placeOf (if part.path.isNone then words + 1 else words) (count - part.text.length - 1) rest
    else match part.path with
      | none => s!"-e expression #{words + 1}, char {count}: "
      | some path =>
        let line := (part.text.take count).count '\n' + 1
        s!"file {path} line {line}: "

/-- The wording of a fault in a script, with so many characters left. -/
def complaint (script : EditScript) (fault : EditFault) (left : Option Nat) : String :=
  match left with
  | none => fault.message
  | some left =>
    let count := if fault = .openBlock then 0 else script.text.length - left
    placeOf 0 count script ++ fault.message

end EditScript

/-- The label that a step goes on at while no step has it, if there is such a step. -/
def missingLabel? (steps : List EditStep) : Option String :=
  let labels := steps.filterMap fun step =>
    match step.action with
    | .label name => some name
    | _ => none
  (steps.filterMap fun step =>
    match step.action with
    | .jump _ label => some label
    | _ => none).find? fun label => label ≠ "" && !labels.contains label

/-- The files whose contents steps print. -/
def sourcesOf (steps : List EditStep) : List String :=
  steps.filterMap fun step =>
    match step.action with
    | .appendFile path => some path
    | _ => none

-- ── arguments ────────────────────────────────────────────────────────────────────

/-- Words in which the option for changes in place, whose value may be left out, is written
    with its value. `isValue` says that the first word is the value of an option. -/
def withSuffix : (isValue : Bool) → List String → List String
  | _, [] => []
  | true, word :: rest => word :: withSuffix false rest
  | false, "--" :: rest => "--" :: rest
  | false, "--in-place" :: rest => "--in-place=" :: withSuffix false rest
  | false, word :: rest =>
    match word.toList with
    | '-' :: letters =>
      let flags := letters.takeWhile fun c => c ∈ ['n', 'E', 'r', 's', 'u', 'z']
      match letters.drop flags.length with
      | 'i' :: suffix =>
        (if flags.isEmpty then [] else [String.ofList ('-' :: flags)])
          ++ ("--in-place=" ++ String.ofList suffix) :: withSuffix false rest
      | [c] => word :: withSuffix (c = 'e' || c = 'f') rest
      | _ => word :: withSuffix false rest
    | _ => word :: withSuffix false rest

/-- The options of `sed`. -/
def editOptions : OptionSyntax :=
  ⟨"nErsuz", "efli", [("quiet", 'n'), ("silent", 'n'), ("regexp-extended", 'E'),
    ("expression", 'e'), ("file", 'f'), ("in-place", 'i'), ("separate", 's'), ("null-data", 'z'),
    ("unbuffered", 'u'), ("posix", 'u'), ("line-length", 'l')], false⟩

/-- The path under which a file is kept before it is changed in place: the suffix behind
    its name, or its name in the place of every star. -/
def backupPath (path suffix : String) : String :=
  let name := baseName path
  let kept := if suffix.toList.contains '*' then
      String.join (suffix.toList.map fun c => if c = '*' then name else c.toString)
    else name ++ suffix
  if kept.toList.contains '/' then kept
  else String.ofList (path.toList.take (path.length - name.length)) ++ kept

variable {m : Type → Type} [Machine m]

/-- The parts of the script in options; a file that cannot be read is told. -/
def scriptOf : List (Char × String) → ExceptT String (Utility m) EditScript
  | [] => return []
  | ('e', text) :: rest => return ⟨none, text.toList⟩ :: (← scriptOf rest)
  | ('f', path) :: rest => do
    let bytes ← (contents (m := m) path).adapt fun fault =>
      s!"couldn't open file {path}: {fault.reason}"
    let text := (Text.decodeLossy bytes).toList
    let lines := if text.getLast? = some '\n' then text.dropLast else text
    return ⟨some path, lines⟩ :: (← scriptOf rest)
  | _ :: rest => scriptOf rest

-- ── files ────────────────────────────────────────────────────────────────────────

/-- How files are edited: by which steps, whether only what is asked for is printed, what
    parts lines, and the contents of the files that steps print. -/
structure EditJob where
  steps : List EditStep
  silent : Bool
  separator : Char
  sources : List (String × List Char)

namespace EditJob

/-- Edit the contents of a file: what is printed, and the status. What steps write to files
    is written. -/
def run (job : EditJob) (bytes : List UInt8) : Utility m (List UInt8 × Nat) := do
  match Editing.run job.steps job.silent job.separator job.sources (Text.decodeLossy bytes).toList with
  | none =>
    complain "sed: -e expression #1, char 0: no previous regular expression"
    return ([], 1)
  | some (editing, status) =>
    let written ← onEach editing.written fun (path, text) => do
      match ← (FileSystem.write (m := Utility m) path (String.ofList text)).run with
      | .ok () => return 0
      | .error fault =>
        complain s!"sed: couldn't open file {path}: {fault.reason}"
        return 4
    return (Text.utf8Bytes (String.ofList editing.printed), if written = 0 then status else written)

/-- Edit a file in place; with a suffix the file as it was is kept. -/
def runInPlace (job : EditJob) (suffix path : String) : Utility m Nat := do
  match ← (FileSystem.readBytes (m := Utility m) path).run with
  | .error .isADirectory =>
    complain s!"sed: couldn't edit {path}: not a regular file"
    return 4
  | .error fault =>
    complain s!"sed: can't read {path}: {fault.reason}"
    return 2
  | .ok bytes =>
    let (text, status) ← job.run bytes
    let kept ← if suffix = "" then pure (.ok ())
      else (FileSystem.writeBytes (m := Utility m) (backupPath path suffix) bytes).run
    if let .error fault := kept then
      complain s!"sed: cannot rename {path}: {fault.reason}"
      return 4
    match ← (FileSystem.writeBytes (m := Utility m) path text).run with
    | .ok () => return status
    | .error fault =>
      complain s!"sed: couldn't open file {path}: {fault.reason}"
      return 4

/-- The contents of files up to one that is a directory, and the status so far. -/
def read : List String → Utility m (List (List UInt8) × Nat)
  | [] => return ([], 0)
  | path :: rest => do
    match ← (contents (m := m) path).run with
    | .ok bytes =>
      let (others, status) ← read rest
      return (bytes :: others, status)
    | .error .isADirectory =>
      complain s!"sed: read error on {path}: {FileFault.isADirectory.reason}"
      return ([], 4)
    | .error fault =>
      complain s!"sed: can't read {path}: {fault.reason}"
      let (others, status) ← read rest
      return (others, if status = 0 then 2 else status)

/-- Print what is made of files, which are edited as one unless they are `separate`. -/
def print (job : EditJob) (separate : Bool) (paths : List String) : Utility m Nat := do
  let (files, failed) ← read (if paths.isEmpty then ["-"] else paths)
  let status ← onEach (if separate then files else [files.flatten]) fun bytes => do
    let (text, status) ← job.run bytes
    put .out text
    return status
  return if failed = 0 then status else failed

end EditJob

-- ── the program ──────────────────────────────────────────────────────────────────

/-- `sed` prints files as a script changes them, or changes them in place. -/
def edit (words : List String) : Utility m Nat :=
  withArguments "sed" 1 editOptions (withSuffix false words) fun arguments => do
  let given := arguments.options.filter fun (letter, _) => letter = 'e' || letter = 'f'
  let (given, paths) := match given, arguments.operands with
    | [], script :: rest => ([('e', script)], rest)
    | given, rest => (given, rest)
  if given.isEmpty then
    complain "Usage: sed [OPTION]... \x7bscript-only-if-no-other-script\x7d [input-file]..."
    return 1
  match ← (scriptOf (m := m) given).run with
  | .error text =>
    complain s!"sed: {text}"
    return 4
  | .ok script =>
    match EditStep.ofText (arguments.has 'E' || arguments.has 'r') script.text with
    | .error (fault, left) =>
      complain ("sed: " ++ EditScript.complaint script fault left)
      return if left.isNone then 4 else 1
    | .ok steps =>
      if let some label := missingLabel? steps then
        complain s!"sed: can't find label for jump to \x60{label}'"
        return 4
      let sources ← (sourcesOf steps).filterMapM fun path => do
        match ← (contents (m := m) path).run with
        | .ok bytes => return some (path, (Text.decodeLossy bytes).toList)
        | .error _ => return none
      let quiet := script.text.take 3 = ['#', 'n', '\n'] || script.text = ['#', 'n']
      let job : EditJob := ⟨steps, quiet || arguments.has 'n',
        if arguments.has 'z' then Char.ofNat 0 else '\n', sources.eraseDups⟩
      match arguments.value? 'i' with
      | some suffix =>
        if paths.isEmpty then
          complain "sed: no input files"
          return 1
        else onEach paths (job.runInPlace suffix)
      | none => job.print (arguments.has 's') paths

end Bindery.Utility
