import Bindery.SortedMap
import Bindery.Text.Split

/-!
# TypeScript source with imports

A piece of source and the names it needs from other modules. Pieces are put together with
`++`; a whole module starts with one import line for every module it needs names from.

* **`Source`** — text and imports; **`Source.module`** is the text of a module.
* **`stringLiteral`**, **`byteArray`** — a text and bytes as expressions.
* **`docBlock`** — documentation as a block comment that ends where it should.
-/

namespace Bindery.Package

/-- A name of another module. -/
structure Import where
  source : String
  name : String
deriving DecidableEq

/-- A piece of source and the names it needs. -/
structure Source where
  text : String
  imports : List Import
deriving DecidableEq

namespace Source

instance : Append Source := ⟨fun a b => ⟨a.text ++ b.text, a.imports ++ b.imports⟩⟩

/-- Text that needs no name. -/
instance : Coe String Source := ⟨fun text => ⟨text, []⟩⟩

/-- The empty piece. -/
def empty : Source := ⟨"", []⟩

/-- Pieces one after another. -/
def join (pieces : List Source) : Source := pieces.foldr (· ++ ·) empty

/-- Pieces with a text between each two of them. -/
def intercalate (separator : String) : List Source → Source
  | [] => empty
  | [piece] => piece
  | piece :: rest => piece ++ (separator : Source) ++ intercalate separator rest

/-- A name of another module. -/
def imported (source name : String) : Source := ⟨name, [⟨source, name⟩]⟩

/-- The same piece, which needs one name more. -/
def needing (source name : String) (piece : Source) : Source :=
  { piece with imports := ⟨source, name⟩ :: piece.imports }

/-- The needed names of each module, both in order. -/
def importTable (imports : List Import) : SortedMap String (SortedMap String Unit) :=
  imports.foldl (fun table i =>
    table.insert i.source (((table.get? i.source).getD .empty).insert i.name ())) .empty

/-- The import line of a module. -/
def importLine (entry : String × SortedMap String Unit) : String :=
  "import \x7b " ++ ", ".intercalate entry.2.keys ++ " \x7d from '" ++ entry.1 ++ "';\n"

/-- The text of a module: its import lines, a blank line behind them, and its source. -/
def module (source : Source) : String :=
  let lines := (importTable source.imports).entries.map importLine
  String.join lines ++ (if lines.isEmpty then "" else "\n") ++ source.text

end Source

/-- The library that generated modules are written for. -/
def kitModule : String := "@solana/kit"

/-- A name of that library. -/
def kit (name : String) : Source := .imported kitModule name

/-- Source in braces with a blank on both sides. -/
def braced (inner : Source) : Source := ("\x7b " : Source) ++ inner ++ " \x7d"

-- ── literals and comments ────────────────────────────────────────────────────────

/-- A character inside a string literal. -/
def escapeChar (c : Char) : List Char :=
  if c.toNat = 0x27 then ['\\', c]
  else if c.toNat = 0x5C then ['\\', c]
  else if c.toNat = 0x0A then ['\\', 'n']
  else if c.toNat = 0x0D then ['\\', 'r']
  else [c]

/-- A text as a literal in single quotes. -/
def stringLiteral (text : String) : String :=
  "'" ++ String.ofList (text.toList.flatMap escapeChar) ++ "'"

/-- Bytes as an expression. -/
def byteArray (bytes : List UInt8) : String :=
  "new Uint8Array([" ++ ", ".intercalate (bytes.map fun byte => toString byte.toNat) ++ "])"

/-- A line with a backslash inside every end of a comment. -/
def escapeEnds : List Char → List Char
  | '*' :: '/' :: rest => '*' :: '\\' :: '/' :: escapeEnds rest
  | c :: rest => c :: escapeEnds rest
  | [] => []

/-- A line as it stands inside a comment. -/
def commentLine (line : String) : String := String.ofList (escapeEnds line.toList)

/-- Documentation as a block comment behind an indentation. -/
def docBlock (indent : String) : List String → String
  | [] => ""
  | [line] => indent ++ "/** " ++ commentLine line ++ " */\n"
  | lines =>
    indent ++ "/**\n"
      ++ String.join (lines.map fun line => indent ++ " * " ++ commentLine line ++ "\n")
      ++ indent ++ " */\n"

end Bindery.Package
