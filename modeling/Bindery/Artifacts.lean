import Bindery.FilePath
import Bindery.FileSystem
import Bindery.Render.Error

/-!
# Generated files

What a renderer produces: texts under paths relative to an output directory. Files are
told apart by the steps of their paths and listed in the order of these.

* **`Artifacts.put`** — put a file; a file of the same steps gets the new contents
  and keeps the path it was first written with.
* **`header`**, **`isGenerated`** — the lines that mark a file as generated.

A directory is brought in line with the generated files: those that differ are written,
equal ones are left alone, and a file that bears the mark of a generated file without
being one of them is removed. Nothing else is touched, and a set with a path that leads
out of the directory is refused before anything is done.

* **`Changes`** — what was done, by paths relative to the directory.
* **`Artifacts.write`** — do it. A failure ends the work where it stands.
-/

namespace Bindery

/-- The words that mark a file as generated. -/
def generatedMarker : String := "This code was AUTOGENERATED using the idlforge library."

/-- The lines in front of a generated file, each behind a comment sign. -/
def header (comment : String) : String :=
  String.join ([generatedMarker,
    "Please DO NOT EDIT THIS FILE, instead use update operations",
    "to add features, then rerun idlforge to update it."].map fun line =>
      comment ++ " " ++ line ++ "\n")

/-- Whether a list occurs in another as a run. -/
def occursIn (needle : List Char) : List Char → Bool
  | [] => needle.isEmpty
  | c :: rest => needle.isPrefixOf (c :: rest) || occursIn needle rest

/-- Whether a text is marked as generated in one of its first three lines. -/
def isGenerated (contents : String) : Bool :=
  ((Text.lines contents).take 3).any fun line => occursIn generatedMarker.toList line.toList

/-- A generated file. -/
structure Artifact where
  path : String
  contents : String
deriving DecidableEq

/-- Generated files in the order of their paths. -/
abbrev Artifacts := SortedMap (List FilePath.Step) Artifact

namespace Artifacts

/-- Put a file. -/
def put (files : Artifacts) (path contents : String) : Artifacts :=
  let steps := FilePath.steps path
  let shown := match files.get? steps with
    | some earlier => earlier.path
    | none => path
  files.insert steps ⟨shown, contents⟩

/-- The files of a list; later contents win. -/
def ofFiles (files : List (String × String)) : Artifacts :=
  files.foldl (fun done file => done.put file.1 file.2) SortedMap.empty

/-- The files in order. -/
def files (artifacts : Artifacts) : List Artifact := artifacts.entries.map (·.2)

end Artifacts

/-- What was written, left alone and removed. -/
structure Changes where
  written : List String
  unchanged : List String
  removed : List String
deriving DecidableEq

/-- Whether every file was left alone. -/
def Changes.isEmpty (changes : Changes) : Bool :=
  changes.written.isEmpty && changes.removed.isEmpty

variable {m : Type → Type} [Monad m] [FileSystem m]

/-- The text of a file, if it can be read. -/
def readable? (path : String) : m (Option String) := do
  match ← (FileSystem.read path).run with
  | .ok text => return some text
  | .error _ => return none

/-- Write a file into a directory unless its contents are there already; whether it was
    written. -/
def Artifact.write (output : String) (file : Artifact) : ExceptT RenderError m Bool := do
  let path := FilePath.join output file.path
  if (← readable? (m := m) path) = some file.contents then return false
  if let some folder := FilePath.parent? path then
    (FileSystem.createFolders folder).adapt (RenderError.unwritable folder)
  (FileSystem.write path file.contents).adapt (RenderError.unwritable path)
  return true

namespace Artifacts

/-- Refuse a set with a path that leads out of the directory. -/
def checkInner (artifacts : Artifacts) : Except RenderError Unit :=
  match artifacts.files.find? fun file => !FilePath.isInner file.path with
  | none => .ok ()
  | some file => .error (.unwritable file.path .outsideOutput)

/-- Write files into a directory: the paths of those that were written, and of the rest. -/
def writeFiles (output : String) :
    List Artifact → ExceptT RenderError m (List String × List String)
  | [] => return ([], [])
  | file :: files => do
    if ← file.write output then
      let (written, unchanged) ← writeFiles output files
      return (file.path :: written, unchanged)
    else
      let (written, unchanged) ← writeFiles output files
      return (written, file.path :: unchanged)

/-- Remove those files of a directory that are marked as generated and are not in the set;
    their paths. Files that cannot be read stay. -/
def removeStale (artifacts : Artifacts) (output : String) :
    List String → ExceptT RenderError m (List String)
  | [] => return []
  | relative :: others => do
    if artifacts.contains (FilePath.steps relative) then removeStale artifacts output others
    else
      let path := FilePath.join output relative
      match ← readable? (m := m) path with
      | none => removeStale artifacts output others
      | some contents =>
        if isGenerated contents then
          (FileSystem.remove path).adapt (RenderError.unwritable path)
          return relative :: (← removeStale artifacts output others)
        else removeStale artifacts output others

/-- Bring a directory in line with the generated files. -/
def write (artifacts : Artifacts) (output : String) : ExceptT RenderError m Changes := do
  artifacts.checkInner
  (FileSystem.createFolders output).adapt (RenderError.unwritable output)
  let (written, unchanged) ← writeFiles output artifacts.files
  let below ← (FileSystem.filesBelow output).adapt (RenderError.unlisted output)
  let removed ← artifacts.removeStale output below
  return ⟨written, unchanged, removed⟩

end Artifacts

end Bindery
