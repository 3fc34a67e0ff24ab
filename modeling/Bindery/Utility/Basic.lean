import Bindery.FilePath
import Bindery.FileSystem
import Bindery.Text.Split
import Bindery.Text.Utf8

/-!
# Utilities

A utility is a program that is given words and an input, prints to two channels, works on
files, and ends with a status. It sees the files from the directory that it runs in. Its
words are options, which are letters behind a dash or names behind two, and operands.

* **`OptionSyntax`** — the options that a program knows.
* **`Arguments.ofWords`** — options and operands; **`UsageFault`** — why there are none.
* **`Machine`** — what programs run over; **`Console`** — what a running utility has been
  given and has printed.
* **`Utility`** — what a utility does.
* **`Utility.withArguments`** — run a program on its arguments.
* **`Utility.linesOf`**, **`Utility.allContents`** — lines, and the contents of operands.
-/

namespace Bindery

/-- The options that a program knows: letters alone, letters with a value, and names that
    stand for letters. In a program that runs another one, nothing behind the first
    operand is an option. -/
structure OptionSyntax where
  flags : String
  valued : String
  names : List (String × Char)
  endsAtOperand : Bool

/-- Why words are no arguments of a program. -/
inductive UsageFault where
  | unknownLetter (letter : Char)
  | unknownName (word : String)
  | noValue (letter : Char)
deriving DecidableEq

/-- The wording of a usage fault. -/
def UsageFault.message : UsageFault → String
  | .unknownLetter letter => s!"invalid option -- '{letter}'"
  | .unknownName word => s!"unrecognized option '{word}'"
  | .noValue letter => s!"option requires an argument -- '{letter}'"

/-- The arguments of a program: its options with their values, and the rest. -/
structure Arguments where
  options : List (Char × String)
  operands : List String
deriving DecidableEq

namespace Arguments

/-- Whether an option is given. -/
def has (arguments : Arguments) (letter : Char) : Bool :=
  arguments.options.any (·.1 = letter)

/-- The last value of an option. -/
def value? (arguments : Arguments) (letter : Char) : Option String :=
  (arguments.options.reverse.find? (·.1 = letter)).map (·.2)

/-- All values of an option. -/
def values (arguments : Arguments) (letter : Char) : List String :=
  (arguments.options.filter (·.1 = letter)).map (·.2)

/-- The options of the letters behind one dash; whether the last of them lacks its value. -/
def letters (known : OptionSyntax) :
    List Char → Except UsageFault (List (Char × String) × Option Char)
  | [] => .ok ([], none)
  | letter :: rest =>
    if known.valued.toList.contains letter then
      if rest.isEmpty then .ok ([], some letter)
      else .ok ([(letter, String.ofList rest)], none)
    else if known.flags.toList.contains letter then do
      let (options, lacking) ← letters known rest
      return ((letter, "") :: options, lacking)
    else .error (.unknownLetter letter)

/-- Put options in front of arguments. -/
def add (options : List (Char × String)) (arguments : Arguments) : Arguments :=
  { arguments with options := options ++ arguments.options }

/-- The options and the operands of words. The first word may be the value of a `pending`
    option. -/
def gather (known : OptionSyntax) :
    (pending : Option Char) → List String → Except UsageFault Arguments
  | none, [] => .ok ⟨[], []⟩
  | some letter, [] => .error (.noValue letter)
  | some letter, value :: rest => (gather known none rest).map (add [(letter, value)])
  | none, word :: rest =>
    match word.toList with
    | ['-', '-'] => .ok ⟨[], rest⟩
    | '-' :: '-' :: long =>
      let name := String.ofList (long.takeWhile (· ≠ '='))
      match known.names.find? (·.1 = name), long.dropWhile (· ≠ '=') with
      | none, _ => .error (.unknownName word)
      | some (_, letter), _ :: value =>
        (gather known none rest).map (add [(letter, String.ofList value)])
      | some (_, letter), [] =>
        if known.valued.toList.contains letter then gather known (some letter) rest
        else (gather known none rest).map (add [(letter, "")])
    | '-' :: c :: cs => do
      let (options, pending) ← letters known (c :: cs)
      return add options (← gather known pending rest)
    | _ =>
      if known.endsAtOperand then .ok ⟨[], word :: rest⟩
      else (gather known none rest).map fun others =>
        { others with operands := word :: others.operands }

/-- The options and the operands of words. -/
def ofWords (known : OptionSyntax) (words : List String) : Except UsageFault Arguments :=
  gather known none words

end Arguments

/-- Where a program prints. -/
inductive Channel where
  | out | err
deriving DecidableEq

/-- What a running program has been given, and what it has printed, the last first. The
    input has a size if it is a file, and is taken by a program that reads it. `label` goes
    in front of the complaints of a command that belongs to a shell. -/
structure Console where
  folder : String
  label : String
  input : List UInt8
  inputSize : Option Nat
  isTaken : Bool
  printed : List (Channel × List UInt8)

/-- A monad with files, in which programs run. Not specialized: programs are compiled once,
    and not again for every file system that they run over. -/
@[nospecialize]
class Machine (m : Type → Type) extends Monad m, FileSystem m

instance {m : Type → Type} [Monad m] [FileSystem m] : Machine m where

/-- What a program does on a console. -/
abbrev Utility (m : Type → Type) := StateT Console m

/-- The path of the file that is always empty. -/
def nullPath : String := "/dev/null"

namespace Utility

variable {m : Type → Type} [Machine m]

-- ── files ────────────────────────────────────────────────────────────────────────

/-- A path as it is seen from the directory of the program. -/
def seen (console : Console) (path : String) : String :=
  if path = "" then "" else FilePath.join console.folder path

/-- Do something with a path that is seen from the directory of the program. -/
def within {α : Type} (path : String) (act : String → ExceptT FileFault m α) :
    ExceptT FileFault (Utility m) α :=
  ExceptT.mk fun console => do return (← (act (seen console path)).run, console)

/-- The same, unless the path is that of the null file, for which the answer is known. -/
def unlessNull {α : Type} (path : String) (answer : α) (act : String → ExceptT FileFault m α) :
    ExceptT FileFault (Utility m) α :=
  if path = nullPath then return answer else within path act

instance : FileSystem (Utility m) where
  here console := do return (FilePath.join (← FileSystem.here) console.folder, console)
  kind path := unlessNull path .file FileSystem.kind
  read path := unlessNull path "" FileSystem.read
  readBytes path := unlessNull path [] FileSystem.readBytes
  write path contents := unlessNull path () (FileSystem.write · contents)
  writeBytes path contents := unlessNull path () (FileSystem.writeBytes · contents)
  remove path := within path FileSystem.remove
  removeFolder path := within path FileSystem.removeFolder
  createFolder path := within path FileSystem.createFolder
  createFolders path := within path FileSystem.createFolders
  rename source target := ExceptT.mk fun console => do
    return (← (FileSystem.rename (seen console source) (seen console target)).run, console)
  link source target := ExceptT.mk fun console => do
    return (← (FileSystem.link (seen console source) (seen console target)).run, console)
  names path := within path FileSystem.names
  filesBelow path := within path FileSystem.filesBelow

-- ── printing and reading ─────────────────────────────────────────────────────────

/-- Print bytes. -/
def put (channel : Channel) (bytes : List UInt8) : Utility m Unit :=
  modify fun console => { console with printed := (channel, bytes) :: console.printed }

/-- Print a text. -/
def print (text : String) : Utility m Unit := put .out (Text.utf8Bytes text)

/-- Complain with a line. -/
def complain (line : String) : Utility m Unit := put .err (Text.utf8Bytes (line ++ "\n"))

/-- Take what is left of the input. -/
def takeInput : Utility m (List UInt8) := do
  let console ← get
  set { console with input := [], isTaken := true }
  return console.input

-- ── arguments ────────────────────────────────────────────────────────────────────

/-- Complain about the use of a program. -/
def misused (name complaint : String) (status : Nat) : Utility m Nat := do
  complain s!"{name}: {complaint}"
  complain s!"Try '{name} --help' for more information."
  return status

/-- Run a program on its arguments. -/
def withArguments (name : String) (misuse : Nat) (known : OptionSyntax) (words : List String)
    (run : Arguments → Utility m Nat) : Utility m Nat :=
  match Arguments.ofWords known words with
  | .ok arguments => run arguments
  | .error fault => misused name fault.message misuse

/-- Do something with every item of a list; the status is that of the last item that has
    one other than 0. -/
def onEach {α : Type} (items : List α) (act : α → Utility m Nat) : Utility m Nat :=
  match items with
  | [] => return 0
  | item :: rest => do
    let status ← act item
    let others ← onEach rest act
    return if others = 0 then status else others

-- ── lines ────────────────────────────────────────────────────────────────────────

/-- The lines of some bytes without the line feeds that end them. What follows the last
    line feed is a line unless it is empty. -/
def linesOf (bytes : List UInt8) : List (List UInt8) :=
  let rec cut : List UInt8 → List UInt8 → List (List UInt8)
    | line, [] => if line.isEmpty then [] else [line.reverse]
    | line, byte :: rest => if byte = 10 then line.reverse :: cut [] rest else cut (byte :: line) rest
  cut [] bytes

/-- Lines with the line feeds that end them. -/
def ofLines (lines : List (List UInt8)) : List UInt8 := lines.flatMap (· ++ [10])

/-- The contents of the input, which is named `-`, or of a file. -/
def contents (path : String) : ExceptT FileFault (Utility m) (List UInt8) :=
  if path = "-" ∨ path = "/dev/stdin" then takeInput (m := m) else FileSystem.readBytes path

/-- The contents of several files, or of the input if there are none. A complaint is made
    about every file that cannot be read, and whether there was one is told. -/
def allContents (complaint : (path reason : String) → String) :
    List String → Utility m (List UInt8 × Bool)
  | [] => return (← takeInput, false)
  | paths => gather paths
where
  gather : List String → Utility m (List UInt8 × Bool)
    | [] => return ([], false)
    | path :: rest => do
      match ← (contents (m := m) path).run with
      | .ok bytes =>
        let (others, failed) ← gather rest
        return (bytes ++ others, failed)
      | .error fault =>
        complain (complaint path fault.reason)
        return ((← gather rest).1, true)

end Utility

end Bindery
