import Bindery.Artifacts
import Bindery.Crate.Code
import Bindery.Crate.Printer
import Bindery.Render.Layout
import Bindery.Render.Options

/-!
# The generated crate

* **`Code.gap`** — what stands between two words of a line.
* **`Code.laidOut`** — the lines of a list of words, for a reader: every declaration,
  field, statement and attribute has a line of its own, and what stands in braces is
  indented by four blanks.
* **`Crate.modules`** — the Rust modules of a tree.
* **`Crate.render`** — the generated files.
-/

namespace Bindery.Crate.Code

/-- The open brackets that matter for lines: braces around lines, an attribute, and all
    others. -/
inductive Bracket where
  | block | attribute | inline
deriving DecidableEq

/-- Words that stand directly behind the word in front of them. -/
def closing : List String := [")", "]", ",", ";", ":", "::", ".", "?", "!", "<", ">"]

/-- Words that the next word follows directly. -/
def opening : List String := ["(", "[", "::", ".", "&", "#", "<", "!", "-", ".."]

/-- Words that part from an opening bracket behind them. -/
def parting : List String := ["=", "->", "=>", "!=", ":", ",", "||", "return"]

/-- What stands between two words of a line. -/
def gap (first second : String) : String :=
  if first = "" || second ∈ closing || first ∈ opening then ""
  else if second = "(" || second = "[" then if first ∈ parting then " " else ""
  else " "

/-- The bracket that a word opens behind another. -/
def bracketOf? (before word : String) : Option Bracket :=
  if word = "\x7b" then some .block
  else if word = "[" ∧ before = "#" then some .attribute
  else if word = "(" ∨ word = "[" then some .inline
  else none

/-- Whether a word closes a bracket. -/
def closesBracket (word : String) : Bool := word ∈ [")", "]", "\x7d"]

/-- Whether a line ends behind a word: in braces or at the top after a semicolon or a
    comma, after an opening brace, after an attribute, and after a closing brace unless
    the expression goes on. -/
def endsLine (around : List Bracket) (closed : Option Bracket) (word : String)
    (next : Option String) : Bool :=
  if word = "\x7b" then true
  else if word = ";" || word = "," then around.head?.getD .block = .block
  else match closed with
    | some .attribute => true
    | some .block => !next.any (· ∈ [",", ";", ")", "]", ".", "?"])
    | _ => false

/-- The beginning of a line below some open brackets. -/
def indentation (around : List Bracket) : String :=
  String.ofList (List.replicate (4 * around.count .block) ' ')

/-- The text of words. `around` holds the open brackets, the innermost first; `before` is
    the word in front on the same line, empty at its beginning. -/
def layOut (around : List Bracket) (before : String) : Code → String
  | [] => if before = "" then "" else "\n"
  | word :: rest =>
    let closed := if closesBracket word then around.head? else none
    let outside := if closesBracket word then around.tail else around
    let inside := match bracketOf? before word with
      | some bracket => bracket :: outside
      | none => outside
    let breaks := word = "\x7d" && before ≠ ""
    let start := if breaks then "\n" ++ indentation outside
      else if before = "" then indentation outside
      else gap before word
    if endsLine outside closed word rest.head? then
      start ++ word ++ "\n" ++ layOut inside "" rest
    else start ++ word ++ layOut inside word rest

/-- The lines of a list of words. -/
def laidOut (words : Code) : String := layOut [] "" words

end Bindery.Crate.Code

namespace Bindery.Crate

/-- The Rust modules of a tree. The files of nodes are named in snake case; the index of
    a collection re-exports what its modules declare. -/
def modules (nested : Bool) : Modules Module where
  fileName := Text.snakeCase
  ending := ".rs"
  index := "mod"
  emptyIndex := true
  indexOf kind children := .index children (decide (kind = .collection))
  programs program := .programs program.name program.publicKey
  account program account := do
    return .account (← AccountModule.of ⟨nested, some program⟩ account)
  instruction program instruction := do
    return .instruction (← InstructionModule.of nested program instruction)
  errors program := Module.ofErrors program
  definedType program defined := do
    return .type (← Declaration.of ⟨nested, program⟩ defined)

/-- The modules of a tree with their paths. -/
def files (tree : Tree) : Except RenderError (List (ModuleFile Module)) :=
  (modules tree.isNested).files tree

/-- Where the generated modules are mounted. -/
def mountOf (options : RenderOptions) : Except RenderError ModulePath := do
  match ← options.text? "modulePath" with
  | none => return .standard
  | some text =>
    match ModulePath.parse? text with
    | some path => return path
    | none => throw (.invalidOption "modulePath" .notAPath)

/-- Why a formatter cannot lay a file out, if it cannot: it does not read the file, or knows
    no layout for a part of it. -/
def layoutFault? (mount : ModulePath) (file : ModuleFile Module) : Option RenderError :=
  let standings := file.module.standings mount
  if standings.contains .unreadable then some (.unformattable file.path)
  else if standings.contains .irregular then some (.noLayout file.path)
  else none

/-- The text of a generated file, laid out if it is `formatted`. -/
def textOf (mount : ModulePath) (formatted : Bool) (module : Module) : String :=
  let words := module.words mount
  header "//" ++ "\n" ++ if formatted then words.laidOut else words.text ++ "\n"

/-- The generated files of a tree. -/
def render (tree : Tree) (options : RenderOptions) : Except RenderError Artifacts := do
  options.checkKnown ["modulePath"]
  let mount ← mountOf options
  let files ← files tree
  if options.formatCode then
    if let some fault := files.findSome? (layoutFault? mount) then throw fault
  return Artifacts.ofFiles (files.map fun file =>
    (file.path, textOf mount options.formatCode file.module))

end Bindery.Crate
