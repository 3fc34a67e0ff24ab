import Bindery.Crate.Grammar.Declaration
import Bindery.Render.Error
import Bindery.Tree.Basic

/-!
# Paths and types of Rust source

Where a generated tree of modules is mounted is a setting: a path such as
`crate::generated`, whose segments may be applied to types (`a<b>`).

* **`ModulePath`** — the words of a path, and how it is read at the places where it can
  stand; **`Standing`** — how it is read at one of them.
* **`ModulePath.parse?`** — the path of a text.
* **`CrateType`** — the types that generated source uses. A link is a type of a `types`
  module, directly below the mounted tree or below the module of a program.
* **`CrateType.of`** — the type for a structural type. Structs and enums have to be
  declared, and only bytes and texts have a fixed size.
* **`CrateType.words`** — the source of a type, below the path of the mounted tree.
-/

namespace Bindery

namespace Crate

/-- How a path is read at a place in source: not at all, as something with parts that no
    formatter knows, or as source like any other. -/
inductive Standing where
  | unreadable
  | irregular
  | regular
deriving DecidableEq

/-- The path of a module, and how it is read at the start of a type and of an expression. -/
structure ModulePath where
  words : Code
  inTypes : Standing
  inExpressions : Standing
deriving DecidableEq

/-- How tokens are read as a whole. -/
def standing (reader : Reader Code) (tokens : List Token) : Standing :=
  match reader ⟨tokens, false⟩ with
  | some (_, ⟨[], irregular⟩) => if irregular then .irregular else .regular
  | _ => .unreadable

/-- How source is read, given its text. -/
def standingOf (reader : Reader Code) (words : Code) : Standing :=
  match Token.scan? words.text with
  | some tokens => standing reader tokens
  | none => .unreadable

namespace ModulePath

/-- The path without any setting. -/
def standard : ModulePath := ⟨code "crate :: generated", .regular, .regular⟩

/-- The path that words stand for, with the grammar that reads what it is part of: the path of
    something below the module. -/
def ofWords (g : Grammar) (words : Code) : ModulePath :=
  let inner := words ++ ["::", "x"]
  ⟨words, standingOf g.anyType inner, standingOf g.anyExpression inner⟩

/-- The path that a text stands for. Every character is read by a bounded number of nested
    readers. -/
def parse? (text : String) : Option ModulePath := do
  let g := Grammar.ofDepth (16 * text.length + 64)
  match ← g.readPath false ⟨← Token.scan? text, false⟩ with
  | (path, ⟨[], _⟩) => some (ofWords g path.words)
  | _ => none

end ModulePath

/-- Where the modules of a program are found. -/
structure Scope where
  nested : Bool
  program : Option Program

/-- The type that a link names: the program module it is found in, if it is found in one,
    and its name. -/
structure TypePath where
  program : Option Name
  name : Name
deriving DecidableEq

/-- The module of a program below the mounted tree, if it has one of its own. -/
def programModule (nested : Bool) (program : Program) : Option Name :=
  if nested then some (Name.field program.name) else none

/-- The type that a link leads to. In a tree of several programs only the types that a
    program defines are found in its own module. -/
def Scope.link (scope : Scope) (name : String) : TypePath :=
  match scope.program with
  | some program =>
    if !scope.nested || program.defines name then
      ⟨programModule scope.nested program, Name.type name⟩
    else ⟨none, Name.type name⟩
  | none => ⟨none, Name.type name⟩

end Crate

/-- A type of generated source. -/
inductive CrateType where
  | number (format : NumberFormat)
  | boolean
  | address
  | string
  | bytes
  | byteArray (size : UInt64)
  | option (item : CrateType)
  | array (item : CrateType) (count : UInt64)
  | list (item : CrateType)
  | link (path : Crate.TypePath)
deriving DecidableEq

namespace CrateType

open Crate (Scope Code code ModulePath)

/-- The type for a structural type of a node. -/
def of (scope : Scope) (context : String) : TypeNode → Except RenderError CrateType
  | .number format => .ok (.number format)
  | .boolean => .ok .boolean
  | .publicKey => .ok .address
  | .string => .ok .string
  | .bytes => .ok .bytes
  | .fixedSize .bytes size => .ok (.byteArray size)
  | .fixedSize .string size => .ok (.byteArray size)
  | .fixedSize inner _ => .error (.unsupported context (.fixedSize inner.kind))
  | .option item => do return .option (← of scope context item)
  | .array item none => do return .list (← of scope context item)
  | .array item (some count) => do return .array (← of scope context item) count
  | .struct fields => .error (.unsupported context (.nested (TypeNode.struct fields).kind))
  | .enum variants => .error (.unsupported context (.nested (TypeNode.enum variants).kind))
  | .link name => .ok (.link (scope.link name))

/-- The words of a path below the mounted tree. -/
def pathWords (mount : ModulePath) (path : Crate.TypePath) : Code :=
  let program := match path.program with
    | some module => ["::", module.text]
    | none => []
  mount.words ++ program ++ ["::", "types", "::", path.name.text]

/-- The words of the type of an address. -/
def addressWords : Code := code "solana_pubkey :: Pubkey"

/-- The source of a type. -/
def words (mount : ModulePath) : CrateType → Code
  | .number format => [format.name]
  | .boolean => ["bool"]
  | .address => addressWords
  | .string => ["String"]
  | .bytes => code "Vec < u8 >"
  | .byteArray size => Code.list ["u8", ";", Code.number size.toNat]
  | .option item => code "Option <" ++ item.words mount ++ [">"]
  | .array item count => Code.list (item.words mount ++ [";", Code.number count.toNat])
  | .list item => code "Vec <" ++ item.words mount ++ [">"]
  | .link path => pathWords mount path

/-- Whether the source of a type holds a path below the mounted tree. -/
def isMounted : CrateType → Bool
  | .link _ => true
  | .option item | .array item _ | .list item => item.isMounted
  | .number _ | .boolean | .address | .string | .bytes | .byteArray _ => false

end CrateType

end Bindery
