import Bindery.Shell.Process

/-!
# Programs that run other programs

`env`, `xargs` and `find` run programs in their turn. How a program is run is a parameter
here, because the shell, which knows it, is one of the programs.

* **`Run.environment`**, **`Run.gather`**, **`Run.search`** — these programs.
-/

namespace Bindery.Shell

variable {m : Type → Type} [Machine m]

namespace Run

/-- Runs a program with its arguments, or tells why that cannot be done. -/
abbrev Launcher (m : Type → Type) := List String → Run m (Except FileFault Ending)

/-- Complain as a program. -/
def complainOf (name text : String) : Run m Unit := send 2 (Text.utf8Bytes s!"{name}: {text}\n")

/-- The status of a program that cannot run another one. -/
def statusOf (fault : FileFault) : Nat := if fault = .permissionDenied then 126 else 127

-- ── variables ────────────────────────────────────────────────────────────────────

/-- Print the variables that are handed on to programs. -/
def printExported : Run m Unit := do
  for found in (← get).entries do
    if found.isExported then
      let value := found.value.getD ""
      send 1 (Text.utf8Bytes s!"{found.name}={value}\n")

/-- `env` runs a program with other variables, or prints them. -/
def environment (launch : Launcher m) (words : List String) : Run m Nat := do
  let (isEmpty, words) := match words with
    | "-i" :: rest | "-" :: rest => (true, rest)
    | words => (false, words)
  let settings := words.takeWhile (·.toList.contains '=')
  let saved := (← get).entries
  if isEmpty then
    modify fun shell => { shell with entries := shell.entries.map fun found =>
      { found with isExported := false } }
  for word in settings do
    let (name, value) := BuiltIn.settingOf word
    modify fun shell => shell.change name fun found => { found with value := value, isExported := true }
  let status ← match words.drop settings.length with
    | [] => do
      printExported
      pure 0
    | program :: arguments => do
      match ← launch (program :: arguments) with
      | .ok (.status n) => pure n
      | .ok (.signal n) => pure (128 + n)
      | .error fault =>
        complainOf "env" s!"{Utility.marked program}: {fault.reason}"
        pure (statusOf fault)
  modify fun shell => { shell with entries := saved }
  return status

-- ── words of the input ───────────────────────────────────────────────────────────

/-- The words of a text that is cut at blanks; quotes and backslashes keep them. -/
def looseWords : (word : Option (List Char)) → (quote : Option Char) → List Char → List String
  | none, _, [] => []
  | some word, _, [] => [String.ofList word.reverse]
  | word, some q, c :: rest =>
    if c = q then looseWords (some (word.getD [])) none rest
    else looseWords (some (c :: word.getD [])) (some q) rest
  | word, none, '\\' :: c :: rest => looseWords (some (c :: word.getD [])) none rest
  | word, none, c :: rest =>
    if c.toNat = 0x22 ∨ c.toNat = 0x27 then looseWords (some (word.getD [])) (some c) rest
    else if isWhite c then
      match word with
      | some word => String.ofList word.reverse :: looseWords none none rest
      | none => looseWords none none rest
    else looseWords (some (c :: word.getD [])) none rest

/-- Lists of at most so many items; their number is fuel enough. -/
def chunks {α : Type} (size : Nat) : (fuel : Nat) → List α → List (List α)
  | 0, _ | _, [] => []
  | fuel + 1, items => items.take size :: chunks size fuel (items.drop size)

/-- A text with another one in the place of a mark; its length is fuel enough. -/
def replaced (mark item : List Char) : (fuel : Nat) → List Char → List Char
  | 0, cs => cs
  | _, [] => []
  | fuel + 1, c :: rest =>
    if mark ≠ [] ∧ mark.isPrefixOf (c :: rest) then
      item ++ replaced mark item fuel ((c :: rest).drop mark.length)
    else c :: replaced mark item fuel rest

/-- The commands that `xargs` makes of a text. -/
def commandsOf (arguments : Arguments) (text : String) : List (List String) :=
  let command := if arguments.operands.isEmpty then ["echo"] else arguments.operands
  match arguments.value? 'I' with
  | some mark =>
    let lines := (Text.lines text).map fun line => line.toList.dropWhile isWhite
    (lines.filter (· ≠ [])).map fun line => command.map fun word =>
      String.ofList (replaced mark.toList line (word.length + 1) word.toList)
  | none =>
    let items := if arguments.has '0' then (Text.splitText (Char.ofNat 0) text).filter (· ≠ "")
      else looseWords none none text.toList
    if items.isEmpty then (if arguments.has 'r' then [] else [command])
    else
      let size := ((arguments.value? 'n').bind String.toNat?).getD items.length
      (chunks (max size 1) items.length items).map (command ++ ·)

/-- Run programs one after another, until one cannot go on. -/
def runCommands (launch : Launcher m) : List (List String) → (status : Nat) → Run m Nat
  | [], status => return status
  | words :: rest, status => do
    let name := words.head?.getD ""
    match ← launch words with
    | .error fault =>
      complainOf "xargs" s!"{name}: {fault.reason}"
      return statusOf fault
    | .ok (.signal n) =>
      complainOf "xargs" s!"{name}: terminated by signal {n}"
      return 125
    | .ok (.status 255) =>
      complainOf "xargs" s!"{name}: exited with status 255; aborting"
      return 124
    | .ok (.status n) => runCommands launch rest (if n = 0 then status else 123)

/-- `xargs` runs a program on the words of the input. -/
def gather (launch : Launcher m) (words : List String) : Run m Nat := do
  let known : OptionSyntax := ⟨"0rtx", "nILdP", [("null", '0'), ("no-run-if-empty", 'r'),
    ("max-args", 'n')], true⟩
  match Arguments.ofWords known words with
  | .error fault => utility "" (Utility.misused "xargs" fault.message 1)
  | .ok arguments =>
    let text := Text.decodeLossy (← takeAll 0)
    let descriptors := (← get).descriptors
    let _ ← connectNew (m := m) 0 .null
    let status ← runCommands launch (commandsOf arguments text) 0
    modify fun shell => { shell with descriptors := descriptors }
    return status

-- ── files that are found ─────────────────────────────────────────────────────────

/-- Run the programs that `find` runs on several files. -/
def runTogether (launch : Launcher m) :
    List (List String × List String) → (status : Nat) → Run m Nat
  | [], status => return status
  | (words, paths) :: rest, status => do
    match ← launch (words ++ paths) with
    | .ok (.status 0) => runTogether launch rest status
    | .ok _ => runTogether launch rest 1
    | .error fault =>
      let name := words.head?.getD ""
      complainOf "find" s!"{Utility.marked name}: {fault.reason}"
      runTogether launch rest 1

/-- Remove an entry that has been found. -/
def deleteFound (path : String) : ExceptT FileFault (Utility m) Unit := do
  match ← FileSystem.kind path with
  | .folder => FileSystem.removeFolder path
  | .file => FileSystem.remove path

/-- Put a path behind others for the same program. -/
def addTo (words : List String) (path : String) :
    List (List String × List String) → List (List String × List String)
  | [] => [(words, [path])]
  | (program, paths) :: rest =>
    if program = words then (program, paths ++ [path]) :: rest
    else (program, paths) :: addTo words path rest

/-- Do what is to be done with files; `together` are the programs that run on several of
    them at the end. -/
def perform (launch : Launcher m) :
    List Utility.Deed → (together : List (List String × List String)) → (status : Nat) → Run m Nat
  | [], together, status => runTogether launch together status
  | deed :: rest, together, status => do
    match deed with
    | .print path ending =>
      send 1 (Text.utf8Bytes (path ++ ending.toString))
      perform launch rest together status
    | .complain line =>
      send 2 (Text.utf8Bytes (line ++ "\n"))
      perform launch rest together 1
    | .gather words path => perform launch rest (addTo words path together) status
    | .delete path =>
      match ← files (m := m) (deleteFound path) with
      | .ok () => perform launch rest together status
      | .error fault =>
        complainOf "find" s!"cannot delete {Utility.marked path}: {fault.reason}"
        perform launch rest together 1
    | .run words =>
      if let .error fault ← launch words then
        let name := words.head?.getD ""
        complainOf "find" s!"{Utility.marked name}: {fault.reason}"
      perform launch rest together status

/-- `find` does what an expression wants done with files. -/
def search (launch : Launcher m) (words : List String) : Run m Nat := do
  let shell ← get
  let (deeds, _) ← ((Utility.find words).run ⟨shell.folder, "", [], none, false, []⟩ : m _)
  perform launch deeds [] 0

end Run

end Bindery.Shell
