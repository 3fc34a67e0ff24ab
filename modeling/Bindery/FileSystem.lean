/-!
# What commands ask of a machine

The operations on files that the commands are built from, the ways in which they fail, and
the programs that can be run. The commands work in any monad that has them, so that one
definition runs over the files of a machine and over a store that is a plain value.

* **`FileFault`** — the ways in which a look-up, a read or a write fails; `other` is a
  fault of a system that this library does not tell apart.
* **`FileFault.reason`** — what a fault is called; **`FileFault.code?`** — its number;
  **`FileFault.message`** — both.
* **`FileSystem`** — the operations; each fails with a `FileFault`.
* **`Programs`** — the programs that are there; **`Command.Outcome`** is how one ended.
-/

namespace Bindery

/-- Why a file or directory cannot be used as asked. -/
inductive FileFault where
  | notFound
  | exists
  | notADirectory
  | isADirectory
  | nameTooLong
  | notEmpty
  | permissionDenied
  | invalidArgument
  | nulInPath
  | notText
  | outsideOutput
  | other (text : String)
deriving DecidableEq

/-- What a fault is called by the system, without a number. -/
def FileFault.reason : FileFault → String
  | .notFound => "No such file or directory"
  | .exists => "File exists"
  | .notADirectory => "Not a directory"
  | .isADirectory => "Is a directory"
  | .nameTooLong => "File name too long"
  | .notEmpty => "Directory not empty"
  | .permissionDenied => "Permission denied"
  | .invalidArgument => "Invalid argument"
  | .nulInPath => "file name contained an unexpected NUL byte"
  | .notText => "stream did not contain valid UTF-8"
  | .outsideOutput => "generated paths must stay inside the output directory"
  | .other text => text

/-- The number that the system gives a fault. -/
def FileFault.code? : FileFault → Option Nat
  | .notFound => some 2
  | .permissionDenied => some 13
  | .exists => some 17
  | .notADirectory => some 20
  | .isADirectory => some 21
  | .invalidArgument => some 22
  | .nameTooLong => some 36
  | .notEmpty => some 39
  | .nulInPath | .notText | .outsideOutput | .other _ => none

/-- The wording of a file fault. -/
def FileFault.message (fault : FileFault) : String :=
  match fault.code? with
  | some code => s!"{fault.reason} (os error {code})"
  | none => fault.reason

/-- What is at a path. -/
inductive EntryKind where
  | folder | file
deriving DecidableEq

/-- The operations on files. `here` is the directory that relative paths start from.
    `names` lists what is in a directory, in ascending order.
    `filesBelow` lists the files of a directory and of all directories in it, by paths
    relative to it, names in ascending order and a directory at the place of its name.
    `createFolders` makes a directory and those above it, `createFolder` one alone;
    `removeFolder` takes an empty directory away. `rename` moves an entry and replaces
    a file or an empty directory of the same kind; `link` gives a file one more path. -/
class FileSystem (m : Type → Type) where
  here : m String
  kind : (path : String) → ExceptT FileFault m EntryKind
  read : (path : String) → ExceptT FileFault m String
  readBytes : (path : String) → ExceptT FileFault m (List UInt8)
  write : (path contents : String) → ExceptT FileFault m Unit
  writeBytes : (path : String) → (contents : List UInt8) → ExceptT FileFault m Unit
  remove : (path : String) → ExceptT FileFault m Unit
  removeFolder : (path : String) → ExceptT FileFault m Unit
  createFolder : (path : String) → ExceptT FileFault m Unit
  createFolders : (path : String) → ExceptT FileFault m Unit
  rename : (source target : String) → ExceptT FileFault m Unit
  link : (source target : String) → ExceptT FileFault m Unit
  names : (path : String) → ExceptT FileFault m (List String)
  filesBelow : (path : String) → ExceptT FileFault m (List String)

/-- How a command ended: with a status, or by a signal, and what it printed. -/
structure Command.Outcome where
  status : Option Nat
  out : String
  err : String
deriving DecidableEq

/-- The programs of a machine. `run` is for one with its arguments, and fails when there is none of
    that name. -/
class Programs (m : Type → Type) where
  run : (program : String) → (arguments : List String) → ExceptT FileFault m Command.Outcome

end Bindery
