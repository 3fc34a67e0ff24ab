import Bindery.FilePath
import Bindery.FileSystem
import Bindery.Text.Utf8

/-!
# Files as a value

A store is all directories and files there are, by their locations: the names that lead
to them from the root. A path is followed name by name, and every name on the way has to
be that of a directory; `..` goes back one name. A file may be at several locations, as hard
links make it; there are no symbolic links.

* **`Store`** — the entries and the directory that relative paths start from.
* **`Store.locate`**, **`Store.find`** — where a path leads, and what is there.
* **`Store.shared`** — the locations of one file.
* **`Store.read`**, **`Store.write`**, **`Store.remove`**, **`Store.makeFolder`**,
  **`Store.removeFolder`**, **`Store.rename`**, **`Store.link`** — the operations on one
  entry; one that fails leaves the store as it was.
* **`Store.createFolders`** — makes a directory and those above it; what it made before
  it failed stays.
-/

namespace Bindery

/-- What a file holds: text, or bytes that are no text. -/
inductive Contents where
  | text (text : String)
  | binary (bytes : List UInt8)
deriving DecidableEq

/-- The bytes of a file. -/
def Contents.bytes : Contents → List UInt8
  | .text chars => Text.utf8Bytes chars
  | .binary bytes => bytes

/-- The contents of some bytes. -/
def Contents.ofBytes (bytes : List UInt8) : Contents :=
  match String.fromUTF8? ⟨bytes.toArray⟩ with
  | some decoded => .text decoded
  | none => .binary bytes

/-- A directory or a file. -/
inductive FileEntry where
  | folder
  | file (contents : Contents)
deriving DecidableEq

/-- The names that lead from the root to an entry. -/
abbrev Location := List String

/-- Directories and files by location. The root is a directory without an entry. A file that is
    at several locations has an entry at each, and a number that is the same at all of them. -/
structure Store where
  entries : SortedMap Location FileEntry
  workingFolder : Location
  numbers : SortedMap Location Nat := .empty
deriving DecidableEq

namespace Store

/-- A store without any file, whose relative paths start from a directory. -/
def empty (workingFolder : Location) : Store where
  entries := SortedMap.ofList
    ((List.range workingFolder.length).map fun n => (workingFolder.take (n + 1), .folder))
  workingFolder := workingFolder

-- ── paths ────────────────────────────────────────────────────────────────────────

/-- What is at a location. -/
def entry? (store : Store) : Location → Option FileEntry
  | [] => some .folder
  | location => store.entries.get? location

/-- The most bytes that a name may have. -/
def nameLimit : Nat := 255

/-- The most bytes that a path may have. -/
def pathLimit : Nat := 4095

/-- The names of a path, and the dots in it. -/
def pieces (path : String) : List String := (Text.splitText '/' path).filter (· ≠ "")

/-- Whether a path says that it leads to a directory. -/
def endsInSlash (path : String) : Bool := path.toList.getLast? = some '/'

/-- Whether a name stands for a directory on the way and not for an entry. -/
def isDots (piece : String) : Bool := piece = "." || piece = ".."

/-- Refuse what no system takes as a path. -/
def checkPath (path : String) : Except FileFault Unit :=
  if path.toList.any (·.toNat = 0) then .error .nulInPath
  else if path = "" then .error .notFound
  else if pathLimit < path.utf8ByteSize then .error .nameTooLong
  else .ok ()

/-- One step from a location, which has to be that of a directory. -/
def step (store : Store) (here : Location) (piece : String) : Except FileFault Location :=
  match store.entry? here with
  | none => .error .notFound
  | some (.file _) => .error .notADirectory
  | some .folder =>
    if piece = "." then .ok here
    else if piece = ".." then .ok here.dropLast
    else if nameLimit < piece.utf8ByteSize then .error .nameTooLong
    else .ok (here ++ [piece])

/-- Follow the names of a path. -/
def follow (store : Store) (path : String) (pieces : List String) : Except FileFault Location :=
  pieces.foldlM store.step (if FilePath.isAbsolute path then [] else store.workingFolder)

/-- Where a path leads, whether or not something is there. -/
def locate (store : Store) (path : String) : Except FileFault Location := do
  checkPath path
  store.follow path (pieces path)

/-- What a path leads to, with its location. -/
def find (store : Store) (path : String) : Except FileFault (Location × FileEntry) := do
  let location ← store.locate path
  match store.entry? location with
  | none => .error .notFound
  | some .folder => .ok (location, .folder)
  | some (.file contents) =>
    if endsInSlash path then .error .notADirectory else .ok (location, .file contents)

/-- Whether a path leads to a directory. -/
def isFolder (store : Store) (path : String) : Bool :=
  match store.find path with
  | .ok (_, .folder) => true
  | _ => false

/-- The location of the entry that a path names in a directory; none if the path ends in
    dots or is the root. -/
def place (store : Store) (path : String) : Except FileFault (Option Location) := do
  checkPath path
  match (pieces path).getLast? with
  | none => return none
  | some last =>
    let folder ← store.follow path (pieces path).dropLast
    let location ← store.step folder last
    return if isDots last then none else some location

-- ── operations ───────────────────────────────────────────────────────────────────

/-- A store with an entry at a location. -/
def put (store : Store) (location : Location) (entry : FileEntry) : Store :=
  { store with entries := store.entries.insert location entry }

/-- The locations of a file that is at several ones. -/
def shared (store : Store) (location : Location) : List Location :=
  match store.numbers.get? location with
  | none => []
  | some number => (store.numbers.entries.filter (·.2 = number)).map (·.1)

/-- A store with these contents in the file at a location, and so wherever else this file is. -/
def fill (store : Store) (location : Location) (contents : Contents) : Store :=
  let put (entries : SortedMap Location FileEntry) (place : Location) :=
    entries.insert place (.file contents)
  { store with entries := (store.shared location).foldl put (put store.entries location) }

/-- A store without the entry at a location. -/
def without (store : Store) (location : Location) : Store :=
  { store with
    entries := store.entries.erase location
    numbers := store.numbers.erase location }

/-- The text of a file. -/
def read (store : Store) (path : String) : Except FileFault String := do
  match ← store.find path with
  | (_, .folder) => .error .isADirectory
  | (_, .file (.binary _)) => .error .notText
  | (_, .file (.text text)) => .ok text

/-- The bytes of a file. -/
def readBytes (store : Store) (path : String) : Except FileFault (List UInt8) := do
  match ← store.find path with
  | (_, .folder) => .error .isADirectory
  | (_, .file contents) => .ok contents.bytes

/-- What is at a path. -/
def kind (store : Store) (path : String) : Except FileFault EntryKind := do
  match ← store.find path with
  | (_, .folder) => .ok .folder
  | (_, .file _) => .ok .file

/-- Put contents into a file, which is made if there is none. -/
def write (store : Store) (path : String) (contents : Contents) : Except FileFault Store := do
  match ← store.place path with
  | none => .error .isADirectory
  | some location =>
    if endsInSlash path ∨ store.entry? location = some .folder then .error .isADirectory
    else .ok (store.fill location contents)

/-- Take a file away. -/
def remove (store : Store) (path : String) : Except FileFault Store := do
  match ← store.place path with
  | none => .error .isADirectory
  | some location =>
    match store.entry? location with
    | none => .error .notFound
    | some .folder => .error .isADirectory
    | some (.file _) =>
      if endsInSlash path then .error .notADirectory
      else .ok (store.without location)

/-- Make one directory. -/
def makeFolder (store : Store) (path : String) : Except FileFault Store := do
  match ← store.place path with
  | none => .error .exists
  | some location =>
    if (store.entry? location).isSome then .error .exists
    else .ok (store.put location .folder)

/-- The names that lead from one location to another below it. -/
def below? : Location → Location → Option Location
  | [], rest => some rest
  | _ :: _, [] => none
  | a :: above, b :: location => if a = b then below? above location else none

/-- The locations in a directory, at any depth, relative to it. -/
def locationsBelow (store : Store) (folder : Location) : List Location :=
  (store.entries.entries.filterMap fun (location, _) => below? folder location).filter (· ≠ [])

/-- The names in a directory. -/
def names (store : Store) (path : String) : Except FileFault (List String) := do
  match ← store.find path with
  | (_, .file _) => .error .notADirectory
  | (folder, .folder) =>
    return (store.locationsBelow folder).filterMap fun
      | [name] => some name
      | _ => none

/-- Take an empty directory away. -/
def removeFolder (store : Store) (path : String) : Except FileFault Store := do
  match ← store.place path with
  | none => .error .invalidArgument
  | some location =>
    match store.entry? location with
    | none => .error .notFound
    | some (.file _) => .error .notADirectory
    | some .folder =>
      if store.locationsBelow location ≠ [] then .error .notEmpty
      else .ok (store.without location)

/-- Where a location is when another one has moved. -/
def movedLocation (source target location : Location) : Location :=
  match below? source location with
  | some rest => target ++ rest
  | none => location

/-- A store whose entries at and below a location have moved to another one. -/
def moved (store : Store) (source target : Location) : Store :=
  { store with
    entries := SortedMap.ofList (store.entries.entries.map fun (location, entry) =>
      (movedLocation source target location, entry))
    numbers := SortedMap.ofList (store.numbers.entries.map fun (location, number) =>
      (movedLocation source target location, number)) }

/-- Move an entry. What it replaces is of the same kind, and empty if it is a directory; a
    directory cannot go below itself. A file that is at the target already stays at both. -/
def rename (store : Store) (source target : String) : Except FileFault Store := do
  let (from?, to?) := (← store.place source, ← store.place target)
  match from?, to? with
  | some here, some there =>
    match store.entry? here, store.entry? there with
    | none, _ => .error .notFound
    | some (.file _), some .folder => .error .isADirectory
    | some .folder, some (.file _) => .error .notADirectory
    | some .folder, found =>
      if here = there then .ok store
      else if (below? here there).isSome then .error .invalidArgument
      else if found.isSome ∧ store.locationsBelow there ≠ [] then .error .notEmpty
      else .ok (store.moved here there)
    | some (.file _), found =>
      if here = there then .ok store
      else if endsInSlash source ∨ endsInSlash target then .error .notADirectory
      else if there ∈ store.shared here then .ok store
      else .ok ((if found.isSome then store.without there else store).moved here there)
  | _, _ => .error (.other "Device or resource busy")

/-- A number that no file has. -/
def unusedNumber (store : Store) : Nat :=
  store.numbers.entries.foldl (fun number e => max number (e.2 + 1)) 0

/-- Put a file at one more location, where nothing is. -/
def link (store : Store) (source target : String) : Except FileFault Store := do
  let (here, entry) ← store.find source
  match ← store.place target, entry with
  | none, _ => .error .exists
  | some there, entry =>
    if (store.entry? there).isSome then .error .exists
    else match entry with
      | .folder => .error (.other "Operation not permitted")
      | .file contents =>
        if endsInSlash target then .error .notFound
        else
          let number := (store.numbers.get? here).getD store.unusedNumber
          .ok { store.put there (.file contents) with
            numbers := (store.numbers.insert here number).insert there number }

/-- The files below a directory, by their paths relative to it. -/
def filesBelow (store : Store) (path : String) : Except FileFault (List String) := do
  let (folder, _) ← store.find path
  return store.entries.entries.filterMap fun (location, entry) =>
    match entry with
    | .folder => none
    | .file _ => (below? folder location).map (Text.joinText '/')

/-- Do an operation that may fail on the store of a run. -/
def attempt (operation : Store → Except FileFault Store) : ExceptT FileFault (StateM Store) Unit :=
  ExceptT.mk fun store =>
    match operation store with
    | .ok next => (.ok (), next)
    | .error fault => (.error fault, store)

/-- Make one directory, unless it is there already. -/
def ensureFolder (path : String) : ExceptT FileFault (StateM Store) Unit := do
  try attempt (·.makeFolder path)
  catch fault =>
    if (← get).isFolder path then return else throw fault

/-- Make a directory and those above it that are missing; `fuel` bounds their number. -/
def createFoldersUpTo : (fuel : Nat) → (path : String) → ExceptT FileFault (StateM Store) Unit
  | 0, _ => throw .notFound
  | fuel + 1, path => do
    if path = "" then return
    try ensureFolder path
    catch fault =>
      match fault, FilePath.parent? path with
      | .notFound, some above =>
        createFoldersUpTo fuel above
        ensureFolder path
      | fault, _ => throw fault

/-- Make a directory and those above it that are missing. -/
def createFolders (path : String) : ExceptT FileFault (StateM Store) Unit :=
  createFoldersUpTo (path.length + 1) path

/-- What a run reads off its store. -/
def ask {α : Type} (query : Store → Except FileFault α) : ExceptT FileFault (StateM Store) α :=
  ExceptT.mk fun store => (query store, store)

instance : FileSystem (StateM Store) where
  here store := ("/" ++ Text.joinText '/' store.workingFolder, store)
  kind path := ask (·.kind path)
  read path := ask (·.read path)
  readBytes path := ask (·.readBytes path)
  write path contents := attempt (·.write path (.text contents))
  writeBytes path contents := attempt (·.write path (.ofBytes contents))
  remove path := attempt (·.remove path)
  removeFolder path := attempt (·.removeFolder path)
  createFolder path := attempt (·.makeFolder path)
  createFolders := createFolders
  rename source target := attempt (·.rename source target)
  link source target := attempt (·.link source target)
  names path := ask (·.names path)
  filesBelow path := ask (·.filesBelow path)

end Store

end Bindery
