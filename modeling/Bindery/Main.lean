import Bindery.CommandLine

/-!
# The program

Runs the command line over the files of the machine.
-/

namespace Bindery.Main

/-- The number that the system gives an error. -/
def osCode? : IO.Error → Option UInt32
  | .alreadyExists _ code _ | .otherError code _ | .resourceBusy code _
  | .resourceVanished code _ | .unsupportedOperation code _ | .hardwareFault code _
  | .unsatisfiedConstraints code _ | .illegalOperation code _ | .protocolError code _
  | .timeExpired code _ | .interrupted _ code _ | .noFileOrDirectory _ code _
  | .invalidArgument _ code _ | .permissionDenied _ code _ | .resourceExhausted _ code _
  | .inappropriateType _ code _ | .noSuchThing _ code _ => some code
  | .unexpectedEof | .userError _ => none

/-- The fault that an error is. -/
def faultOf (error : IO.Error) : FileFault :=
  match osCode? error with
  | some 2 => .notFound
  | some 13 => .permissionDenied
  | some 17 => .exists
  | some 20 => .notADirectory
  | some 21 => .isADirectory
  | some 22 => .invalidArgument
  | some 36 => .nameTooLong
  | some 39 => .notEmpty
  | _ => .other (toString error)

/-- An action whose errors are file faults. -/
def guarded {α : Type} (action : IO α) : ExceptT FileFault IO α :=
  ExceptT.mk do
    try return .ok (← action)
    catch error => return .error (faultOf error)

/-- The files below a directory, each with `above` in front of its name. -/
partial def filesBelow (path above : String) : IO (List String) := do
  let entries ← (← IO.FS.realPath path).readDir
  let sorted := entries.toList.mergeSort fun a b => a.fileName ≤ b.fileName
  let mut found := []
  for entry in sorted do
    let name := above ++ entry.fileName
    if ← entry.path.isDir then
      found := found ++ (← filesBelow entry.path.toString (name ++ "/"))
    else found := found ++ [name]
  return found

/-- The text of a file. -/
def readText (path : String) : ExceptT FileFault IO String := do
  match String.fromUTF8? (← guarded (IO.FS.readBinFile path)) with
  | some text => return text
  | none => throw .notText

/-- What is at a path. -/
def kind (path : String) : IO EntryKind := do
  return match (← (← IO.FS.realPath path).metadata).type with
    | .dir => .folder
    | _ => .file

/-- The names in a directory. -/
def names (path : String) : IO (List String) := do
  let entries ← (← IO.FS.realPath path).readDir
  return (entries.toList.map (·.fileName)).mergeSort fun a b => a ≤ b

instance : FileSystem IO where
  here := return (← IO.currentDir).toString
  kind path := guarded (kind path)
  read := readText
  readBytes path := return (← guarded (IO.FS.readBinFile path)).toList
  write path contents := guarded (IO.FS.writeFile path contents)
  writeBytes path contents := guarded (IO.FS.writeBinFile path ⟨contents.toArray⟩)
  remove path := guarded (IO.FS.removeFile path)
  removeFolder path := guarded (IO.FS.removeDir path)
  createFolder path := guarded (IO.FS.createDir path)
  rename source target := guarded (IO.FS.rename source target)
  link source target := guarded (IO.FS.hardLink source target)
  names path := guarded (names path)
  createFolders path := if path = "" then return else guarded (IO.FS.createDirAll path)
  filesBelow path := guarded (filesBelow path "")

end Bindery.Main

/-- Run the command line, print its report, and end with its exit code. -/
def main (arguments : List String) : IO UInt32 := do
  let report ← Bindery.CommandLine.run (m := IO) arguments
  IO.print report.out
  IO.eprint report.err
  return UInt32.ofNat report.code
