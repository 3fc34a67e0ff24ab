import Bindery.Shell.Script
import Bindery.Utility

/-!
# A running shell

What a shell knows while it runs a script: its parameters and variables, the directory that
it is in, and the streams that its descriptors lead to.

* **`Stream`** — where bytes come from or go to.
* **`State`** — the state of a shell.
* **`Run`** — what runs in a shell; **`Stop`** — why it stops before its end.
-/

namespace Bindery.Shell

/-- Where bytes come from or go to: what has been collected, what is left to be read, a file
    that is added to, or nowhere. -/
inductive Stream where
  | collected (bytes : List UInt8)
  | source (rest : List UInt8) (size : Option Nat)
  | file (path : String)
  | null
deriving DecidableEq

/-- A variable. One without a value is only marked. -/
structure Variable where
  name : String
  value : Option String
  isExported : Bool
  isFixed : Bool
deriving DecidableEq

/-- The state of a shell. `descriptors` leads from numbers to the places of streams;
    `flags` are the letters of its options; `caller` is the builtin command in whose name
    complaints are made; `loops` counts the loops around the command that runs; `frames`
    has, for every function that runs, the variables that are its own, as they were
    before; `traps` has the texts that run on signals and at the end, `pending` those whose signal
    has come. -/
structure State where
  name : String
  parameters : List String
  entries : List Variable
  functions : List (String × Command)
  status : Nat
  folder : String
  descriptors : List (Nat × Nat)
  streams : List Stream
  flags : List Char
  line : Nat
  caller : Option String
  loops : Nat
  frames : List (List (String × Option Variable))
  traps : List (String × String)
  pending : List String

/-- The state in which a shell starts. -/
def State.initial (name : String) (parameters : List String) (folder here : String) : State where
  name := name
  parameters := parameters
  entries := [⟨"IFS", some " \t\n", false, false⟩, ⟨"OPTIND", some "1", false, false⟩,
    ⟨"PATH", some "/usr/local/sbin:/usr/local/bin:/usr/sbin:/usr/bin:/sbin:/bin", true, false⟩,
    ⟨"PPID", some "1", false, false⟩, ⟨"PS1", some "# ", false, false⟩,
    ⟨"PS2", some "> ", false, false⟩, ⟨"PS4", some "+ ", false, false⟩,
    ⟨"PWD", some here, true, false⟩]
  functions := []
  status := 0
  folder := folder
  descriptors := []
  streams := []
  flags := []
  line := 1
  caller := none
  loops := 0
  frames := []
  traps := []
  pending := []

/-- Why a command stops before its end. -/
inductive Stop where
  | exit (status : Nat)
  | killed (signal : Nat)
  | returned (status : Nat)
  | left (loops : Nat)
  | next (loops : Nat)
  | tooLong
deriving DecidableEq

/-- What runs in a shell. -/
abbrev Run (m : Type → Type) := ExceptT Stop (StateT State m)

/-- The text that stands for the number of the process of a shell. -/
def ownNumber : String := "2"

namespace State

/-- A variable of a name. -/
def entry? (shell : State) (name : String) : Option Variable :=
  shell.entries.find? (·.name = name)

/-- The value of a variable. -/
def value? (shell : State) (name : String) : Option String :=
  (shell.entry? name).bind (·.value)

/-- A shell with a changed variable. -/
def change (shell : State) (name : String) (change : Variable → Variable) : State :=
  match shell.entry? name with
  | some _ =>
    { shell with entries := shell.entries.map fun known =>
        if known.name = name then change known else known }
  | none => { shell with entries := shell.entries ++ [change ⟨name, none, false, false⟩] }

/-- A shell whose variables of some names are as they were. -/
def restored (shell : State) (frame : List (String × Option Variable)) : State :=
  { shell with entries := frame.foldl (fun entries (name, before) =>
      entries.filter (·.name ≠ name) ++ before.toList) shell.entries }

/-- Whether an option is on. -/
def has (shell : State) (flag : Char) : Bool := shell.flags.contains flag

/-- The value of a parameter that is no list. -/
def parameter? (shell : State) (name : String) : Option String :=
  match name with
  | "?" => some (toString shell.status)
  | "#" => some (toString shell.parameters.length)
  | "$" => some ownNumber
  | "-" => some (String.ofList shell.flags)
  | "0" => some shell.name
  | "!" => none
  | _ =>
    match name.toNat? with
    | some n => shell.parameters[n - 1]?
    | none => shell.value? name

/-- The characters at which values are cut. -/
def separators (shell : State) : List Char := ((shell.value? "IFS").getD " \t\n").toList

/-- The stream that a descriptor leads to. -/
def stream? (shell : State) (descriptor : Nat) : Option (Nat × Stream) := do
  let (_, place) ← shell.descriptors.find? (·.1 = descriptor)
  return (place, ← shell.streams[place]?)

/-- A shell whose descriptor leads to a stream. -/
def connect (shell : State) (descriptor : Nat) (place : Option Nat) : State :=
  let others := shell.descriptors.filter (·.1 ≠ descriptor)
  { shell with descriptors := match place with
      | some place => (descriptor, place) :: others
      | none => others }

/-- A shell with one more stream, and its place. -/
def addStream (shell : State) (stream : Stream) : Nat × State :=
  (shell.streams.length, { shell with streams := shell.streams ++ [stream] })

/-- A shell with a stream at a place. -/
def setStream (shell : State) (place : Nat) (stream : Stream) : State :=
  { shell with streams := shell.streams.set place stream }

/-- What a shell puts in front of a complaint. -/
def label (shell : State) : String :=
  let caller := match shell.caller with
    | some name => name ++ ": "
    | none => ""
  s!"{shell.name}: {shell.line}: {caller}"

end State

namespace Run

variable {m : Type → Type} [Machine m]

/-- Do something with files, as seen from the directory of the shell. -/
def files {α : Type} (act : ExceptT FileFault (Utility m) α) : Run m (Except FileFault α) := do
  let shell ← get
  let (answer, _) ← (act.run.run ⟨shell.folder, "", [], none, false, []⟩ : m _)
  return answer

/-- A path as it is seen from where the program runs. -/
def seen (path : String) : Run m String := do
  let folder := (← get).folder
  return if path = nullPath then path else FilePath.join folder path

/-- Send bytes to a descriptor. Nothing is written to one that is closed. -/
def send (descriptor : Nat) (bytes : List UInt8) : Run m Unit := do
  let shell ← get
  match shell.stream? descriptor with
  | some (place, .collected before) => set (shell.setStream place (.collected (before ++ bytes)))
  | some (_, .file path) =>
    if !bytes.isEmpty then
      let before := (← (FileSystem.readBytes (m := m) path).run).toOption.getD []
      let _ ← (FileSystem.writeBytes (m := m) path (before ++ bytes)).run
  | _ => return

/-- Complain with a line. -/
def complain (text : String) : Run m Unit := do
  let label := (← get).label
  send 2 (Text.utf8Bytes (label ++ text ++ "\n"))

/-- Complain with a line, and end the shell. -/
def fatal {α : Type} (text : String) : Run m α := do
  complain text
  throw (.exit 2)

/-- Set the status of the last command. -/
def setStatus (status : Nat) : Run m Unit := modify fun shell => { shell with status := status }

/-- Set a variable. -/
def assign (name value : String) : Run m Unit := do
  let shell ← get
  if (shell.entry? name).any (·.isFixed) then fatal s!"{name}: is read only"
  set (shell.change name fun known => { known with
    value := some value, isExported := known.isExported || shell.has 'a' })

end Run

end Bindery.Shell
