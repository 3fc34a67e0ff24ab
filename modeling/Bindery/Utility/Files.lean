import Bindery.Utility.Basic

/-!
# Utilities for files and directories

* **`makeFolders`**, **`touch`**, **`truncate`**, **`changeMode`** — make entries and mark
  them.
* **`remove`**, **`removeFolders`** — take entries away.
* **`list`** — the names of files and of what is in directories.
* **`copy`** — copies of files and directories.
* **`move`**, **`link`** — new names and places, and more of them.
-/

namespace Bindery.Utility

variable {m : Type → Type} [Machine m]

-- ── names ────────────────────────────────────────────────────────────────────────

/-- A name in quotes as a shell would take it. -/
def quoted (name : String) : String :=
  if name.toList.any (·.toNat = 0x27) then s!"\"{name}\"" else s!"'{name}'"

/-- A name in quotation marks. -/
def marked (name : String) : String := s!"‘{name}’"

/-- The last name of a path; slashes at the end mean nothing. -/
def baseName (path : String) : String :=
  match (Text.splitText '/' path).reverse.find? (· ≠ "") with
  | some name => name
  | none => if path = "" then "" else "/"

/-- A path for the same entry under a directory. -/
def under (folder path : String) : String :=
  if folder.toList.getLast? = some '/' then folder ++ baseName path
  else folder ++ "/" ++ baseName path

/-- Whether two paths have the same steps. -/
def samePath (a b : String) : Bool :=
  (FilePath.steps a).filter (· ≠ .here) = (FilePath.steps b).filter (· ≠ .here)

/-- What is at a path, if anything is. -/
def kind? (path : String) : Utility m (Option EntryKind) := do
  return (← (FileSystem.kind (m := Utility m) path).run).toOption

/-- Do something that may fail; complain and give status 1 if it does. -/
def trying (act : ExceptT FileFault (Utility m) Unit) (complaint : String → String) :
    Utility m Nat := do
  match ← act.run with
  | .ok () => return 0
  | .error fault =>
    complain (complaint fault.reason)
    return 1

/-- How deeply directories may be nested for a utility that goes through them. -/
def depthLimit : Nat := 4096

-- ── making ───────────────────────────────────────────────────────────────────────

/-- Make the directories of a path one after another. `made` is the part of the path that
    is there already. -/
def makeFoldersOf (made : String) : List String → ExceptT (String × FileFault) (Utility m) Unit
  | [] => return
  | name :: rest => do
    let path := if made = "" ∨ made = "/" then made ++ name else made ++ "/" ++ name
    match ← (FileSystem.kind (m := Utility m) path).run with
    | .ok .folder => makeFoldersOf path rest
    | .ok .file => throw (path, if rest.isEmpty then .exists else .notADirectory)
    | .error .notFound =>
      (FileSystem.createFolder (m := Utility m) path).adapt fun fault => (path, fault)
      makeFoldersOf path rest
    | .error fault => throw (path, fault)

/-- `mkdir` makes directories. -/
def makeFolders (words : List String) : Utility m Nat :=
  withArguments "mkdir" 1 ⟨"pv", "m", [("parents", 'p'), ("verbose", 'v'), ("mode", 'm')], false⟩
    words fun arguments => do
  let complaint (path : String) (fault : FileFault) : String :=
    s!"mkdir: cannot create directory {marked path}: {fault.reason}"
  if arguments.operands.isEmpty then misused "mkdir" "missing operand" 1
  else onEach arguments.operands fun path => do
    if arguments.has 'p' then
      let names := (Text.splitText '/' path).filter (· ≠ "")
      match ← (makeFoldersOf (if FilePath.isAbsolute path then "/" else "") names).run with
      | .ok () => return 0
      | .error (path, fault) =>
        complain (complaint path fault)
        return 1
    else match ← (FileSystem.createFolder (m := Utility m) path).run with
      | .ok () =>
        if arguments.has 'v' then print s!"mkdir: created directory {quoted path}\n"
        return 0
      | .error fault =>
        complain (complaint path fault)
        return 1

/-- `touch` makes empty files where there is nothing. -/
def touch (words : List String) : Utility m Nat :=
  withArguments "touch" 1 ⟨"acmfh", "drt", [("no-create", 'c'), ("date", 'd'), ("reference", 'r')],
    false⟩ words fun arguments => do
  if arguments.operands.isEmpty then misused "touch" "missing file operand" 1
  else onEach arguments.operands fun path => do
    match ← (FileSystem.kind (m := Utility m) path).run with
    | .ok _ => return 0
    | .error .notFound =>
      if arguments.has 'c' then return 0
      else trying (FileSystem.write path "") fun reason => s!"touch: cannot touch {quoted path}: {reason}"
    | .error fault =>
      complain s!"touch: cannot touch {quoted path}: {fault.reason}"
      return 1

/-- `truncate` gives files a size: they are cut, or filled up with zeros. -/
def truncate (words : List String) : Utility m Nat :=
  withArguments "truncate" 1 ⟨"co", "rs", [("size", 's'), ("no-create", 'c')], false⟩
    words fun arguments => do
  match arguments.value? 's', arguments.operands with
  | none, _ => misused "truncate" "you must specify either ‘--size’ or ‘--reference’" 1
  | some _, [] => misused "truncate" "missing file operand" 1
  | some size, paths =>
    match size.toNat? with
    | none =>
      complain s!"truncate: Invalid number: {quoted size}"
      return 1
    | some size => onEach paths fun path => do
        let before := (← (FileSystem.readBytes (m := Utility m) path).run).toOption.getD []
        let bytes := before.take size ++ List.replicate (size - before.length) 0
        trying (FileSystem.writeBytes path bytes) fun reason =>
          s!"truncate: cannot open {quoted path} for writing: {reason}"

/-- Whether a text is a mode: octal digits, or changes of permissions after commas. -/
def isMode (text : String) : Bool :=
  let isOctal := text ≠ "" && text.length ≤ 4 && text.toList.all fun c => '0' ≤ c && c ≤ '7'
  isOctal || (Text.splitText ',' text).all fun change =>
    let rest := change.toList.dropWhile fun c => c ∈ ['u', 'g', 'o', 'a']
    (rest.head?.any fun c => c ∈ ['+', '-', '=']) &&
      rest.all fun c => c ∈ ['+', '-', '=', 'r', 'w', 'x', 'X', 's', 't', 'u', 'g', 'o']

/-- `chmod` sets the mode of files, which is not kept: it only asks whether they are
    there. -/
def changeMode (words : List String) : Utility m Nat := do
  match words.filter fun word => word ∉ ["-R", "-v", "-c", "-f"] with
  | [] => misused "chmod" "missing operand" 1
  | [mode] => misused "chmod" s!"missing operand after {marked mode}" 1
  | mode :: paths =>
    if !isMode mode then misused "chmod" s!"invalid mode: {marked mode}" 1
    else onEach paths fun path => do
      match ← kind? path with
      | some _ => return 0
      | none =>
        complain s!"chmod: cannot access {quoted path}: {FileFault.notFound.reason}"
        return 1

-- ── removing ─────────────────────────────────────────────────────────────────────

/-- Remove an entry with all that is in it. -/
def removeTree : (fuel : Nat) → (path : String) → ExceptT FileFault (Utility m) Unit
  | 0, _ => throw .nameTooLong
  | fuel + 1, path => do
    match ← FileSystem.kind path with
    | .file => FileSystem.remove path
    | .folder =>
      let names ← FileSystem.names (m := Utility m) path
      names.forM fun name => removeTree fuel (path ++ "/" ++ name)
      FileSystem.removeFolder path

/-- `rm` removes files. -/
def remove (words : List String) : Utility m Nat :=
  withArguments "rm" 1 ⟨"fidrRvI", "", [("force", 'f'), ("recursive", 'r'), ("dir", 'd'),
    ("verbose", 'v')], false⟩ words fun arguments => do
  let force := arguments.has 'f'
  let deep := arguments.has 'r' || arguments.has 'R'
  if arguments.operands.isEmpty then
    if force then return 0 else misused "rm" "missing operand" 1
  else onEach arguments.operands fun path => do
    let refused (reason : String) : Utility m Nat := do
      complain s!"rm: cannot remove {quoted path}: {reason}"
      return 1
    let last := baseName path
    if deep && (last = "." || last = "..") then
      complain s!"rm: refusing to remove '.' or '..' directory: skipping {quoted path}"
      return 1
    if deep && last = "/" then
      complain "rm: it is dangerous to operate recursively on '/'"
      complain "rm: use --no-preserve-root to override this failsafe"
      return 1
    match ← (FileSystem.kind (m := Utility m) path).run with
    | .error fault =>
      if force && (fault = .notFound || fault = .notADirectory) then return 0
      else refused fault.reason
    | .ok .folder =>
      if deep then
        trying (removeTree depthLimit path) fun reason => s!"rm: cannot remove {quoted path}: {reason}"
      else if arguments.has 'd' then
        trying (FileSystem.removeFolder path) fun reason =>
          s!"rm: cannot remove {quoted path}: {reason}"
      else refused FileFault.isADirectory.reason
    | .ok .file =>
      if arguments.has 'i' && !force then
        let kind := if (← FileSystem.readBytes (m := Utility m) path |>.run).toOption = some [] then
          "regular empty file" else "regular file"
        put .err (Text.utf8Bytes s!"rm: remove {kind} {quoted path}? ")
        return 0
      let status ← trying (FileSystem.remove path) fun reason =>
        s!"rm: cannot remove {quoted path}: {reason}"
      if status = 0 && arguments.has 'v' then print s!"removed {quoted path}\n"
      return status

/-- `rmdir` removes empty directories. -/
def removeFolders (words : List String) : Utility m Nat :=
  withArguments "rmdir" 1 ⟨"pv", "", [("parents", 'p'), ("ignore-fail-on-non-empty", 'v')], false⟩
    words fun arguments => do
  if arguments.operands.isEmpty then misused "rmdir" "missing operand" 1
  else onEach arguments.operands fun path =>
    trying (FileSystem.removeFolder path) fun reason =>
      s!"rmdir: failed to remove {quoted path}: {reason}"

/-- The names of a directory that are shown. -/
def shownNames (arguments : Arguments) (names : List String) : List String :=
  let shown := if arguments.has 'a' then "." :: ".." :: names
    else if arguments.has 'A' then names
    else names.filter fun name => name.toList.head? ≠ some '.'
  if arguments.has 'r' then shown.reverse else shown

/-- A name with a mark for directories, if such marks are wanted. -/
def withMark (arguments : Arguments) (path name : String) : Utility m String := do
  if arguments.has 'p' || arguments.has 'F' then
    return if (← kind? path) = some .folder then name ++ "/" else name
  else return name

/-- List directories. `titled` says whether each has its path above it, `first` whether
    nothing has been listed before. -/
def listFolders (arguments : Arguments) (titled : Bool) :
    (fuel : Nat) → (first : Bool) → List String → Utility m Nat
  | 0, _, _ | _, _, [] => return 0
  | fuel + 1, first, path :: rest => do
    match ← (FileSystem.names (m := Utility m) path).run with
    | .error fault =>
      complain s!"ls: cannot open directory {quoted path}: {fault.reason}"
      let _ ← listFolders arguments titled fuel first rest
      return 2
    | .ok names =>
      let shown := shownNames arguments names
      if !first then print "\n"
      if titled then print s!"{path}:\n"
      let lines ← shown.mapM fun name => withMark arguments (path ++ "/" ++ name) name
      print (String.join (lines.map (· ++ "\n")))
      let inner ← if arguments.has 'R' then
          (shown.filter fun name => name ≠ "." && name ≠ "..").filterMapM fun name => do
            let inner := path ++ "/" ++ name
            return if (← kind? inner) = some .folder then some inner else none
        else pure []
      listFolders arguments titled fuel false (inner ++ rest)

/-- `ls` lists files and what is in directories. -/
def list (words : List String) : Utility m Nat :=
  withArguments "ls" 2 ⟨"aA1CdFpRrlhntSUfi", "", [("all", 'a'), ("almost-all", 'A'),
    ("directory", 'd'), ("recursive", 'R'), ("reverse", 'r')], false⟩ words fun arguments => do
  let sorted := (if arguments.operands.isEmpty then ["."] else arguments.operands).mergeSort
    fun a b => a ≤ b
  let ordered := if arguments.has 'r' then sorted.reverse else sorted
  let found ← ordered.mapM fun path => do
    return (path, ← (FileSystem.kind (m := Utility m) path).run)
  let status ← onEach found fun (path, kind) => do
    match kind with
    | .ok _ => return 0
    | .error fault =>
      complain s!"ls: cannot access {quoted path}: {fault.reason}"
      return 2
  let isFolder := fun ((_, kind) : String × Except FileFault EntryKind) =>
    !arguments.has 'd' && kind matches .ok .folder
  let files := found.filter fun entry => !isFolder entry && entry.2 matches .ok _
  let folders := found.filter isFolder
  for (path, _) in files do
    print ((← withMark arguments path path) ++ "\n")
  let titled := arguments.has 'R' || found.length > 1
  let listed ← listFolders arguments titled 100000 files.isEmpty (folders.map (·.1))
  return if status = 0 then listed else status

-- ── copying and moving ───────────────────────────────────────────────────────────

/-- Copy a file. -/
def copyFile (source target : String) : Utility m Nat := do
  match ← (FileSystem.readBytes (m := Utility m) source).run with
  | .error fault =>
    complain s!"cp: cannot open {quoted source} for reading: {fault.reason}"
    return 1
  | .ok bytes =>
    trying (FileSystem.writeBytes target bytes) fun reason =>
      let reason := if target.toList.getLast? = some '/' then FileFault.notADirectory.reason else reason
      s!"cp: cannot create regular file {quoted target}: {reason}"

/-- Copy an entry; a directory with all that is in it if `deep`. -/
def copyTree : (fuel : Nat) → (deep keep : Bool) → (source target : String) → Utility m Nat
  | 0, _, _, _, _ => return 1
  | fuel + 1, deep, keep, source, target => do
    match ← (FileSystem.kind (m := Utility m) source).run, ← kind? target with
    | .error fault, _ =>
      complain s!"cp: cannot stat {quoted source}: {fault.reason}"
      return 1
    | .ok .file, some .folder =>
      complain s!"cp: cannot overwrite directory {quoted target} with non-directory"
      return 1
    | .ok .file, found =>
      if samePath source target then
        complain s!"cp: {quoted source} and {quoted target} are the same file"
        return 1
      else if keep && found.isSome then return 0
      else copyFile source target
    | .ok .folder, found =>
      if !deep then
        complain s!"cp: -r not specified; omitting directory {quoted source}"
        return 1
      else if found = some .file then
        complain s!"cp: cannot overwrite non-directory {quoted target} with directory {quoted source}"
        return 1
      else if (FilePath.steps source).isPrefixOf (FilePath.steps target) then
        complain s!"cp: cannot copy a directory, {quoted source}, into itself, {quoted target}"
        return 1
      else
        let made ← if found.isSome then pure 0
          else trying (FileSystem.createFolder target) fun reason =>
            s!"cp: cannot create directory {quoted target}: {reason}"
        if made ≠ 0 then return made
        else
          let names := (← (FileSystem.names (m := Utility m) source).run).toOption.getD []
          onEach names fun name =>
            copyTree fuel deep keep (source ++ "/" ++ name) (target ++ "/" ++ name)

/-- Give an entry a new place. -/
def moveEntry (keep : Bool) (source target : String) : Utility m Nat := do
  match ← (FileSystem.kind (m := Utility m) source).run, ← kind? target with
  | .error fault, _ =>
    complain s!"mv: cannot stat {quoted source}: {fault.reason}"
    return 1
  | .ok here, there =>
    if samePath source target then
      complain s!"mv: {quoted source} and {quoted target} are the same file"
      return 1
    else match here, there with
      | .file, some .folder =>
        complain s!"mv: cannot overwrite directory {quoted target} with non-directory"
        return 1
      | .folder, some .file =>
        complain s!"mv: cannot overwrite non-directory {quoted target} with directory {quoted source}"
        return 1
      | _, there =>
        if keep && there.isSome then return 0
        else match ← (FileSystem.rename (m := Utility m) source target).run with
          | .ok () => return 0
          | .error .invalidArgument =>
            complain s!"mv: cannot move {quoted source} to a subdirectory of itself, {quoted target}"
            return 1
          | .error fault =>
            complain s!"mv: cannot move {quoted source} to {quoted target}: {fault.reason}"
            return 1

/-- Do something with sources and a target, which is a directory that they go into or, if
    there is one source, its new name. -/
def intoTarget (name : String) (arguments : Arguments)
    (act : (source target : String) → Utility m Nat) : Utility m Nat := do
  let into (folder : String) (sources : List String) : Utility m Nat :=
    onEach sources fun source => act source (under folder source)
  match arguments.value? 't', arguments.operands.reverse with
  | _, [] => misused name "missing file operand" 1
  | some folder, _ => into folder arguments.operands
  | none, [source] => misused name s!"missing destination file operand after {quoted source}" 1
  | none, target :: sources =>
    match sources.reverse, ← (FileSystem.kind (m := Utility m) target).run with
    | sources, .ok .folder =>
      if arguments.has 'T' then onEach sources (act · target) else into target sources
    | [source], _ => act source target
    | _, .ok .file =>
      complain s!"{name}: target {quoted target}: {FileFault.notADirectory.reason}"
      return 1
    | _, .error fault =>
      complain s!"{name}: target {quoted target}: {fault.reason}"
      return 1

/-- `cp` copies files and directories. -/
def copy (words : List String) : Utility m Nat :=
  withArguments "cp" 1 ⟨"rRafnpvTuidPL", "t", [("recursive", 'r'), ("archive", 'a'), ("force", 'f'),
    ("no-clobber", 'n'), ("target-directory", 't'), ("no-target-directory", 'T')], false⟩
    words fun arguments => do
  let deep := arguments.has 'r' || arguments.has 'R' || arguments.has 'a'
  intoTarget "cp" arguments fun source target => do
    let status ← copyTree depthLimit deep (arguments.has 'n') source target
    if status = 0 && arguments.has 'v' then print s!"{quoted source} -> {quoted target}\n"
    return status

/-- `mv` gives entries new names and places. -/
def move (words : List String) : Utility m Nat :=
  withArguments "mv" 1 ⟨"finvTu", "t", [("force", 'f'), ("no-clobber", 'n'),
    ("target-directory", 't'), ("no-target-directory", 'T')], false⟩ words fun arguments => do
  intoTarget "mv" arguments fun source target => do
    let status ← moveEntry (arguments.has 'n') source target
    if status = 0 && arguments.has 'v' then
      print s!"renamed {quoted source} -> {quoted target}\n"
    return status

/-- Give a file one more name, in the place of another file if it is forced. -/
def linkEntry (force : Bool) (source target : String) : Utility m Nat := do
  let refused (fault : FileFault) : String :=
    if fault = .exists then s!"ln: failed to create hard link {quoted target}: {fault.reason}"
    else s!"ln: failed to create hard link {quoted target} => {quoted source}: {fault.reason}"
  match ← (FileSystem.kind (m := Utility m) source).run with
  | .error fault =>
    complain s!"ln: failed to access {quoted source}: {fault.reason}"
    return 1
  | .ok .folder =>
    complain s!"ln: {source}: hard link not allowed for directory"
    return 1
  | .ok .file =>
    if force && (← kind? target) = some .file then
      if samePath source target then
        complain s!"ln: {quoted source} and {quoted target} are the same file"
        return 1
      let _ ← (FileSystem.remove (m := Utility m) target).run
    match ← (FileSystem.link (m := Utility m) source target).run with
    | .ok () => return 0
    | .error fault =>
      complain (refused fault)
      return 1

/-- `ln` gives files more names. There are no symbolic links. -/
def link (words : List String) : Utility m Nat :=
  withArguments "ln" 1 ⟨"sfinvTLPr", "t", [("symbolic", 's'), ("force", 'f'), ("verbose", 'v'),
    ("target-directory", 't'), ("no-target-directory", 'T')], false⟩ words fun arguments => do
  let here : Arguments := match arguments.value? 't', arguments.operands with
    | none, [source] => { arguments with operands := [source, "."] }
    | _, _ => arguments
  intoTarget "ln" here fun source target => do
    if arguments.has 's' then
      complain s!"ln: failed to create symbolic link {quoted target}: Operation not permitted"
      return 1
    let status ← linkEntry (arguments.has 'f') source target
    if status = 0 && arguments.has 'v' then print s!"{quoted target} => {quoted source}\n"
    return status

end Bindery.Utility
