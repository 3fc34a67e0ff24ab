import Bindery.Shell.BuiltIn

/-!
# Copies of a shell and programs

* **`Ending`** — how a program ends.
* **`Run.outcome`**, **`Run.apart`**, **`Run.restoring`** — run something and look at how it
  stops, leave the shell as it was, or leave its descriptors.
* **`Run.program`**, **`Run.utility`** — find and run a program.
* **`Run.connectTo`**, **`Run.openFile`** — where descriptors lead.
-/

namespace Bindery.Shell

variable {m : Type → Type} [Machine m]

/-- How a program ends: with a status, or by a signal. -/
inductive Ending where
  | status (n : Nat)
  | signal (n : Nat)
deriving DecidableEq

namespace Run

-- ── stops ────────────────────────────────────────────────────────────────────────

/-- Run something and tell whether it has stopped before its end. -/
def outcome {α : Type} (act : Run m α) : Run m (Except Stop α) := ExceptT.lift act.run

/-- Go on as something has ended. -/
def resume {α : Type} : Except Stop α → Run m α
  | .ok a => return a
  | .error stop => throw stop

/-- Run something in a copy of the shell, which may be changed first; its status. -/
def apart (change : State → State) (act : Run m Unit) : Run m Nat := do
  let outer ← get
  set (change outer)
  let result ← outcome act
  let inner ← get
  set { outer with streams := inner.streams }
  match result with
  | .ok () | .error (.left _) | .error (.next _) => return inner.status
  | .error (.exit n) | .error (.returned n) => return n
  | .error (.killed signal) => throw (.killed signal)
  | .error .tooLong => throw .tooLong

/-- Run something with a new stream that collects what is written to it. -/
def collecting (act : (place : Nat) → Run m Nat) : Run m (Nat × List UInt8) := do
  let (place, shell) := (← get).addStream (.collected [])
  set shell
  let status ← act place
  match (← get).streams[place]? with
  | some (.collected bytes) => return (status, bytes)
  | _ => return (status, [])

/-- Run something and restore the descriptors afterwards. -/
def restoring {α : Type} (act : Run m α) : Run m α := do
  let descriptors := (← get).descriptors
  let result ← outcome act
  modify fun shell => { shell with descriptors := descriptors }
  resume result

/-- Run something in the name of a command. -/
def inNameOf {α : Type} (name : String) (act : Run m α) : Run m α := do
  let caller := (← get).caller
  modify fun shell => { shell with caller := some name }
  let result ← outcome act
  modify fun shell => { shell with caller := caller }
  resume result

/-- Run something with variables that have other values. They keep them if they are to
    `stay`, and otherwise are handed on to programs. -/
def withValues {α : Type} (stay : Bool) (values : List (String × String)) (act : Run m α) :
    Run m α := do
  let before ← get
  for (name, value) in values do
    assign name value
    if !stay then modify fun shell => shell.change name fun found => { found with isExported := true }
  let result ← outcome act
  if !stay then
    modify fun shell => shell.restored (values.map fun (name, _) => (name, before.entry? name))
  resume result

/-- Run something as the body of a loop; whether the loop goes on. -/
def loopBody (act : Run m Unit) : Run m Bool := do
  modify fun shell => { shell with loops := shell.loops + 1 }
  let result ← outcome act
  modify fun shell => { shell with loops := shell.loops - 1 }
  match result with
  | .ok () => return true
  | .error (.left n) => if n ≤ 1 then return false else throw (.left (n - 1))
  | .error (.next n) => if n ≤ 1 then return true else throw (.next (n - 1))
  | .error stop => throw stop

/-- Run something as the body of a function with its parameters; its status. -/
def functionBody (parameters : List String) (act : Run m Unit) : Run m Nat := do
  let outer ← get
  set { outer with parameters := parameters, frames := [] :: outer.frames, loops := 0 }
  let result ← outcome act
  let inner ← get
  let frame := inner.frames.head?.getD []
  set { inner.restored frame with
    parameters := outer.parameters, frames := outer.frames, loops := outer.loops }
  match result with
  | .ok () => return inner.status
  | .error (.returned n) => return n
  | .error stop => throw stop

/-- End the shell if a command has failed, nothing asks about its failure, and the shell
    is told to end in that case. -/
def checked (tested : Bool) : Run m Unit := do
  let shell ← get
  if !tested && shell.has 'e' && shell.status ≠ 0 then throw (.exit shell.status)

-- ── programs ─────────────────────────────────────────────────────────────────────

/-- Take all that is left to be read from a descriptor. -/
def takeAll (descriptor : Nat) : Run m (List UInt8) := do
  let shell ← get
  match shell.stream? descriptor with
  | some (place, .source rest size) =>
    set (shell.setStream place (.source [] size))
    return rest
  | _ => return []

/-- Run a utility on the descriptors of the shell. -/
def utility (label : String) (act : Utility m Nat) : Run m Nat := do
  let shell ← get
  let (input, size, place) := match shell.stream? 0 with
    | some (place, .source rest size) => (rest, size, some place)
    | _ => ([], none, none)
  let (status, console) ← (act.run ⟨shell.folder, label, input, size, false, []⟩ : m _)
  if console.isTaken then
    if let some place := place then
      modify fun shell => shell.setStream place (.source console.input size)
  for (channel, bytes) in console.printed.reverse do
    send (match channel with
      | .out => 1
      | .err => 2) bytes
  return status

/-- The name of the installed program that a path leads to. -/
def programOfPath? (path : String) : Option String :=
  match Text.splitText '/' path with
  | ["", "bin", name] | ["", "usr", "bin", name] => some name
  | _ => none

/-- The installed program of a name or path, or why there is none that can be run. -/
def program (name : String) : Run m (Except FileFault String) := do
  if !name.toList.contains '/' then
    let known := Utility.isInstalled m name && ((← get).value? "PATH").isSome && name ≠ ""
    return if known then .ok name else .error .notFound
  else
    match (programOfPath? name).filter (Utility.isInstalled m) with
    | some found => return .ok found
    | none =>
      match ← files (m := m) (FileSystem.kind (m := Utility m) name) with
      | .ok _ => return .error .permissionDenied
      | .error fault => return .error fault

-- ── descriptors ──────────────────────────────────────────────────────────────────

/-- Complain about a redirection; it has not been done. -/
def unredirected (text : String) : Run m Bool := do
  complain text
  return false

/-- Why a file cannot be opened. -/
def openingFault (missing : String) : FileFault → String
  | .notFound | .notADirectory => missing
  | fault => fault.reason

/-- Let a descriptor lead to where another one does. -/
def connectTo (descriptor source : Nat) : Run m Bool := do
  let shell ← get
  match shell.descriptors.find? (·.1 = source) with
  | some (_, place) =>
    set (shell.connect descriptor (some place))
    return true
  | none =>
    if descriptor = 2 then set (shell.connect 2 none)
    unredirected s!"{source}: Bad file descriptor"

/-- Let a descriptor lead to a new stream. -/
def connectNew (descriptor : Nat) (stream : Stream) : Run m Bool := do
  let (place, shell) := (← get).addStream stream
  set (shell.connect descriptor (some place))
  return true

/-- The descriptor that a path names. -/
def deviceOf? (path : String) : Option Nat :=
  match path with
  | "/dev/stdin" => some 0
  | "/dev/stdout" => some 1
  | "/dev/stderr" => some 2
  | _ =>
    match Text.splitText '/' path with
    | ["", "dev", "fd", n] => n.toNat?
    | _ => none

/-- Make a file ready to be written: it is emptied, or kept and made if there is none. One
    that is only to be written must not exist. -/
def prepare (direction : Direction) (path : String) : ExceptT FileFault (Utility m) Unit := do
  let found ←
    try pure (some (← FileSystem.kind path))
    catch fault => if fault = .notFound then pure none else throw fault
  if direction = .write ∧ found = some .file then throw .exists
  else if direction = .write ∨ direction = .replace then FileSystem.writeBytes path []
  else
    match found with
    | some .folder => throw .isADirectory
    | some .file => return
    | none => FileSystem.writeBytes path []

/-- Let a descriptor lead to a file. -/
def openFile (descriptor : Nat) (direction : Direction) (path : String) : Run m Bool := do
  match deviceOf? path with
  | some source => connectTo descriptor source
  | none =>
    if path = nullPath then connectNew descriptor .null
    else if direction = .read then
      match ← files (m := m) (FileSystem.readBytes (m := Utility m) path) with
      | .ok bytes => connectNew descriptor (.source bytes (some bytes.length))
      | .error .isADirectory => connectNew descriptor .null
      | .error fault =>
        let reason := openingFault "No such file" fault
        unredirected s!"cannot open {path}: {reason}"
    else
      let full ← seen path
      let direction := if direction = .write && !(← get).has 'C' then .replace else direction
      match ← files (m := m) (prepare direction path) with
      | .ok () => connectNew descriptor (.file full)
      | .error fault =>
        let reason := openingFault "Directory nonexistent" fault
        unredirected s!"cannot create {path}: {reason}"

end Run

end Bindery.Shell
