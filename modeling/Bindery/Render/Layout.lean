import Bindery.FilePath
import Bindery.Render.Error
import Bindery.Tree.Basic

/-!
# Layout of generated modules

Which modules a tree has and where they are. There is one module for every node, and an
index for every directory. A program has a directory of its own if there are several;
shared types go to the only program there is, or else to the top.

* **`Modules`** — how a target names and builds its modules.
* **`Modules.files`** — the modules of a tree with their paths, in the order in which
  they are built. The first that cannot be built is the error.
-/

namespace Bindery

/-- Whether every program of a tree has a directory of its own. -/
def Tree.isNested (tree : Tree) : Bool := tree.programs.length > 1

/-- The types that belong to the directory of a program: its own, and in a tree of one
    program the shared types whose names it does not define. -/
def Tree.typesOf (tree : Tree) (program : Program) : List DefinedType :=
  if tree.isNested then program.definedTypes
  else program.definedTypes ++ tree.sharedTypes.filter fun shared => !program.defines shared.name

/-- The kinds of indexes: of a collection of nodes, of the parts of a program, and of the
    programs of a tree with several. -/
inductive IndexKind where
  | collection | program | programs
deriving DecidableEq

/-- How a target names and builds its modules. `fileName` is the name of the file of a
    node, and of the module that it holds; `index` is the name of an index. `emptyIndex`
    says whether there is an index even without any program. -/
structure Modules (M : Type) where
  fileName : String → String
  ending : String
  index : String
  emptyIndex : Bool
  indexOf : IndexKind → List String → M
  programs : Program → M
  account : Program → Account → Except RenderError M
  instruction : Program → Instruction → Except RenderError M
  errors : Program → Except RenderError M
  definedType : Option Program → DefinedType → Except RenderError M

/-- A module and its path. -/
structure ModuleFile (M : Type) where
  path : String
  module : M
deriving DecidableEq

namespace Modules

variable {M : Type}

/-- The path of a module in a directory. -/
def pathIn (target : Modules M) (directory name : String) : String :=
  FilePath.join directory (name ++ target.ending)

/-- The index of a directory. -/
def indexIn (target : Modules M) (directory : String) (kind : IndexKind)
    (children : List String) : ModuleFile M :=
  ⟨target.pathIn directory target.index, target.indexOf kind children⟩

/-- The modules of a collection of nodes: one for each of them, and an index of all. -/
def collection {α : Type} (target : Modules M) (directory : String) (nameOf : α → String)
    (build : α → Except RenderError M) (nodes : List α) :
    Except RenderError (List (ModuleFile M)) := do
  let files ← nodes.mapM fun a => do
    return ModuleFile.mk (target.pathIn directory (target.fileName (nameOf a))) (← build a)
  let names := nodes.map fun a => target.fileName (nameOf a)
  return files ++ [target.indexIn directory .collection names]

/-- A part of a program, which is there if it has nodes: its name and its modules. -/
def part {α : Type} (name : String) (nodes : List α)
    (build : Except RenderError (List (ModuleFile M))) :
    Except RenderError (List String × List (ModuleFile M)) :=
  if nodes.isEmpty then .ok ([], []) else do return ([name], ← build)

/-- The modules of defined types below a directory. -/
def typeFiles (target : Modules M) (program : Option Program) (directory : String)
    (types : List DefinedType) : Except RenderError (List (ModuleFile M)) :=
  target.collection (FilePath.join directory "types") (·.name) (target.definedType program) types

/-- The modules of a program below a directory, and the names of its parts. -/
def programFiles (target : Modules M) (tree : Tree) (program : Program) (directory : String) :
    Except RenderError (List String × List (ModuleFile M)) := do
  let constants := ModuleFile.mk (target.pathIn directory "programs") (target.programs program)
  let accounts ← part "accounts" program.accounts <|
    target.collection (FilePath.join directory "accounts") (·.name) (target.account program)
      program.accounts
  let instructions ← part "instructions" program.instructions <|
    target.collection (FilePath.join directory "instructions") (·.name)
      (target.instruction program) program.instructions
  let errors ← part "errors" program.errors do
    return [⟨target.pathIn directory "errors", ← target.errors program⟩]
  let types ← part "types" (tree.typesOf program) <|
    target.typeFiles (some program) directory (tree.typesOf program)
  return ("programs" :: accounts.1 ++ instructions.1 ++ errors.1 ++ types.1,
    constants :: accounts.2 ++ instructions.2 ++ errors.2 ++ types.2)

/-- The modules of one of several programs, in a directory of its own, with its index. -/
def nestedProgramFiles (target : Modules M) (tree : Tree) (program : Program) :
    Except RenderError (List (ModuleFile M)) := do
  let directory := target.fileName program.name
  let (parts, files) ← target.programFiles tree program directory
  return files ++ [target.indexIn directory .program parts]

/-- The modules of a tree of several programs. -/
def nestedFiles (target : Modules M) (tree : Tree) :
    Except RenderError (List (ModuleFile M)) := do
  let programs ← tree.programs.mapM (target.nestedProgramFiles tree)
  let names := tree.programs.map fun program => target.fileName program.name
  let shared ← part "types" tree.sharedTypes <| target.typeFiles none "" tree.sharedTypes
  return programs.flatten ++ shared.2 ++ [target.indexIn "" .programs (names ++ shared.1)]

/-- The modules of a tree. The index of the top directory is the last. -/
def files (target : Modules M) (tree : Tree) : Except RenderError (List (ModuleFile M)) := do
  if tree.isNested then target.nestedFiles tree
  else
    match tree.primary? with
    | some program =>
      let (parts, files) ← target.programFiles tree program ""
      return files ++ [target.indexIn "" .program parts]
    | none => return if target.emptyIndex then [target.indexIn "" .program []] else []

end Modules

end Bindery
