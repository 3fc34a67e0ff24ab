import Bindery.Artifacts
import Bindery.Package.Printer
import Bindery.Render.Layout
import Bindery.Render.Options

/-!
# The generated package

* **`Package.modules`** — the TypeScript modules of a tree.
* **`Package.render`** — the generated files.
* **`Package.formatter`** — the command that formats them once they are written.
-/

namespace Bindery.Package

/-- The TypeScript modules of a tree. The files of nodes are named in camel case; every
    index re-exports what its modules declare, except that programs side by side are
    re-exported under their names. -/
def modules (nested : Bool) : Modules Module where
  fileName := Text.camelCase
  ending := ".ts"
  index := "index"
  emptyIndex := false
  indexOf kind children := .index children (decide (kind = .programs))
  programs program := .programs (addressConstant program.name) program.publicKey
  account program account := do return .account (← AccountModule.of nested program account)
  instruction program instruction := do
    return .instruction (← InstructionModule.of nested program instruction)
  errors program := .ok (.errors (ErrorsModule.of program))
  definedType program defined := do
    return .type (← Declaration.of ⟨nested, program⟩ defined)

/-- The modules of a tree with their paths. -/
def files (tree : Tree) : Except RenderError (List (ModuleFile Module)) :=
  (modules tree.isNested).files tree

/-- The words of the command that formats the output, none if there is no such setting. -/
def formatter (options : RenderOptions) : Except RenderError (List String) :=
  options.texts "formatter"

/-- The text of a generated file. -/
def textOf (module : Module) : String := header "//" ++ "\n" ++ module.text

/-- The generated files of a tree. Settings are looked at before anything is rendered. -/
def render (tree : Tree) (options : RenderOptions) : Except RenderError Artifacts := do
  options.checkKnown ["formatter"]
  let _ ← formatter options
  let files ← files tree
  return Artifacts.ofFiles (files.map fun file => (file.path, textOf file.module))

end Bindery.Package
