import Bindery.Shell.Evaluation
import Bindery.Workspace

/-!
# The command line

The commands with their options, and what they print. The programs that a configuration
can name as formatters are a shell and what comes with it.

* **`CommandLine.Request`** — what the arguments ask for; **`Request.parse?`** reads it off
  them.
* **`CommandLine.Report`** — what a command prints, and its exit code.
* **`CommandLine.run`** — do what the arguments ask for.
-/

namespace Bindery.CommandLine

-- ── options ──────────────────────────────────────────────────────────────────────

/-- The options of the commands. -/
inductive Flag where
  | config | target | stage | output
deriving DecidableEq

namespace Flag

/-- The name of an option behind two dashes. -/
def name : Flag → String
  | .config => "config"
  | .target => "target"
  | .stage => "stage"
  | .output => "output"

/-- The letter of an option behind one dash. -/
def letter : Flag → Char
  | .config => 'c'
  | .target => 't'
  | .stage => 's'
  | .output => 'o'

end Flag

/-- The option that an argument names, with a value that is part of the argument. -/
def flag? (known : List Flag) (argument : String) : Option (Flag × Option String) :=
  match argument.toList with
  | '-' :: '-' :: long =>
    let name := String.ofList (long.takeWhile (· ≠ '='))
    (known.find? (·.name = name)).map fun flag =>
      (flag, match long.dropWhile (· ≠ '=') with
        | _ :: value => some (String.ofList value)
        | [] => none)
  | '-' :: letter :: rest =>
    (known.find? (·.letter = letter)).map fun flag =>
      (flag, match rest with
        | [] => none
        | '=' :: value => some (String.ofList value)
        | value => some (String.ofList value))
  | _ => none

/-- Whether an argument may stand as the value of the option before it. -/
def isValue (argument : String) : Bool :=
  argument = "-" || argument.toList.head? ≠ some '-'

/-- The options of a command with their values. -/
def settings? (known : List Flag) : List String → Option (List (Flag × String))
  | [] => some []
  | argument :: rest =>
    match flag? known argument, rest with
    | some (flag, some value), rest => (settings? known rest).map ((flag, value) :: ·)
    | some (flag, none), value :: rest =>
      if isValue value then (settings? known rest).map ((flag, value) :: ·) else none
    | _, _ => none

/-- The values of an option. -/
def valuesOf (flag : Flag) (settings : List (Flag × String)) : List String :=
  (settings.filter (·.1 = flag)).map (·.2)

/-- The path that an option gives. -/
def path? (flag : Flag) (settings : List (Flag × String)) : Option String :=
  match valuesOf flag settings with
  | [path] => if path = "" then none else some path
  | _ => none

/-- The number of a text of digits, which may have a plus sign in front. -/
def number? (text : String) : Option Nat :=
  let digits := match text.toList with
    | '+' :: digits => digits
    | digits => digits
  if digits.isEmpty ∨ digits.any (!·.isDigit) then none
  else
    let number := digits.foldl (fun n c => n * 10 + (c.toNat - 48)) 0
    if number < wordCount 64 then some number else none

-- ── requests ─────────────────────────────────────────────────────────────────────

/-- What the arguments ask for. -/
inductive Request where
  | generate (config : String) (targets : List String)
  | inspect (config : String) (stage : Option Nat) (output : Option String)
  | check (config : String)
deriving DecidableEq

/-- An option that may be left out. -/
def optional {α : Type} (flag : Flag) (settings : List (Flag × String))
    (value? : Option α) : Option (Option α) :=
  match valuesOf flag settings with
  | [] => some none
  | _ => value?.map some

/-- The request of some arguments. -/
def Request.parse? : List String → Option Request
  | "generate" :: arguments => do
    let settings ← settings? [.config, .target] arguments
    return .generate (← path? .config settings) (valuesOf .target settings)
  | "inspect" :: arguments => do
    let settings ← settings? [.config, .stage, .output] arguments
    let number := match valuesOf .stage settings with
      | [text] => number? text
      | _ => none
    return .inspect (← path? .config settings) (← optional .stage settings number)
      (← optional .output settings (path? .output settings))
  | "check" :: arguments => do
    let settings ← settings? [.config] arguments
    return .check (← path? .config settings)
  | _ => none

-- ── reports ──────────────────────────────────────────────────────────────────────

/-- What a command prints, and its exit code. -/
structure Report where
  code : Nat
  out : String
  err : String
deriving DecidableEq

/-- The report of a command that fails. -/
def failure (error : CommandError) : Report := ⟨1, "", s!"Error: {error.message}\n"⟩

/-- The line of a publication that succeeded. -/
def successLine (outcome : PublicationOutcome) (changes : Changes) : String :=
  s!"ok {outcome.target.name} -> {outcome.output}: {changes.written.length} written, "
    ++ s!"{changes.unchanged.length} unchanged, {changes.removed.length} removed\n"

/-- The line of a publication that failed. -/
def failureLine (outcome : PublicationOutcome) (error : RenderError) : String :=
  s!"failed {outcome.target.name} -> {outcome.output}: {error.message}\n"

/-- The report of publications: a line for each, those of failures apart, and an error if
    there is any of them. -/
def reportOutcomes (outcomes : List PublicationOutcome) : Report :=
  let out := outcomes.filterMap fun outcome =>
    match outcome.result with
    | .ok changes => some (successLine outcome changes)
    | .error _ => none
  let err := outcomes.filterMap fun outcome =>
    match outcome.result with
    | .ok _ => none
    | .error error => some (failureLine outcome error)
  let last := if err.isEmpty then ⟨0, "", ""⟩
    else failure (.targetsFailed err.length outcomes.length)
  ⟨last.code, String.join out, String.join err ++ last.err⟩

/-- How the arguments are written. -/
def usage : String :=
  "Usage: generate --config <FILE> [--target <NAME>]...\n"
    ++ "       inspect --config <FILE> [--stage <NUMBER>] [--output <FILE>]\n"
    ++ "       check --config <FILE>\n"

variable {m : Type → Type} [Monad m] [FileSystem m]

/-- Do what is asked for. -/
def Request.perform : Request → ExceptT CommandError m Report
  | .generate config targets => do
    return reportOutcomes (← Workspace.generate config targets)
  | .inspect config stage none => do
    return ⟨0, ← Workspace.inspect config stage, ""⟩
  | .inspect config stage (some output) => do
    let text ← Workspace.inspect config stage
    (FileSystem.write output text).adapt (CommandError.unwritable output)
    return ⟨0, s!"Wrote {output}\n", ""⟩
  | .check config => do
    return ⟨0, (← Workspace.check config) ++ "\n", ""⟩

/-- Do what the arguments ask for. -/
def run (arguments : List String) : m Report := do
  match Request.parse? arguments with
  | none => return ⟨2, "", usage⟩
  | some request =>
    match ← (request.perform (m := m)).run with
    | .ok report => return report
    | .error error => return failure error

end Bindery.CommandLine
