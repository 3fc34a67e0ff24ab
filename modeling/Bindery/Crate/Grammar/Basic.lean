import Bindery.Crate.Reader

/-!
# The parts of source

Types hold expressions, expressions hold types, and both hold each other's paths. Every
family of parts has a module of its own; where a part holds parts of any kind, its reader
takes theirs from a record.

* **`PathText`**, **`TypeForm`**, **`ExpressionText`**, **`PatternForm`** — what has been
  read, as far as what follows it depends on it.
* **`Precedence`** — how tightly operators bind.
* **`Grammar`** — the readers of the parts that hold parts of any kind.
-/

namespace Bindery.Crate

/-- A path that has been read: its words; how many segments it has, and whether `::` is in
    front; whether no segment, and whether not the last one is applied. -/
structure PathText where
  words : Code
  count : Nat
  rooted : Bool
  isBare : Bool
  endsBare : Bool

/-- What a type is: a name, another path, a single bound that may stand in brackets, given
    without them, or something else. -/
inductive TypeForm where
  | name
  | path
  | bound (words : Code)
  | other

/-- Whether a type is a path. -/
def TypeForm.isPath : TypeForm → Bool
  | .name | .path => true
  | .bound _ | .other => false

/-- How tightly an operator binds, from the loosest to the tightest. -/
inductive Precedence where
  | jump | assignment | range | disjunction | conjunction | binding | comparison
  | bitOr | bitXor | bitAnd | shift | sum | product | cast
deriving DecidableEq

/-- The rank of a precedence. -/
def Precedence.rank : Precedence → Nat
  | .jump => 0
  | .assignment => 1
  | .range => 2
  | .disjunction => 3
  | .conjunction => 4
  | .binding => 5
  | .comparison => 6
  | .bitOr => 7
  | .bitXor => 8
  | .bitAnd => 9
  | .shift => 10
  | .sum => 11
  | .product => 12
  | .cast => 13

/-- What an expression is: something that ends a statement with its block, a call of a
    rule of rewriting, a range, a comparison, something that was kept as it was written, or
    something else. -/
inductive ExpressionForm where
  | block
  | invocation (braced : Bool)
  | range
  | comparison
  | irregular
  | other
deriving DecidableEq

/-- An expression that has been read: its words, its form, and whether its first operand
    takes attributes. -/
structure ExpressionText where
  words : Code
  form : ExpressionForm
  takesAttributes : Bool

/-- An expression that depends on nothing in its surroundings. -/
def ExpressionText.plain (words : Code) : ExpressionText := ⟨words, .other, true⟩

/-- An expression with attributes in front. What was kept as it was written loses them. -/
def ExpressionText.withAttributes (attributes : Code) (expression : ExpressionText) :
    ExpressionText :=
  if expression.takesAttributes then { expression with words := attributes ++ expression.words }
  else expression

/-- What a pattern is: a range that one end lacks, the rest of a list, something that was
    kept as it was written, or something else. -/
inductive PatternForm where
  | openRange
  | rest
  | irregular
  | other
deriving DecidableEq

/-- What kinds of bounds are allowed: those that name what a type `captures`, and those of
    `constant` traits. -/
structure BoundKinds where
  captures : Bool
  constant : Bool

/-- The bounds of a parameter. -/
def BoundKinds.declared : BoundKinds := ⟨false, true⟩

/-- The bounds of a value whose type is not known. -/
def BoundKinds.dynamic : BoundKinds := ⟨false, false⟩

/-- The bounds of a value whose type is kept back. -/
def BoundKinds.hidden : BoundKinds := ⟨true, true⟩

/-- The readers of the parts that hold parts of any kind. A type may be a sum of bounds where
    `sum` says so; braces behind a path are fields where `braces` says so, and start a block
    elsewhere. An `early` expression may end with its first block. What is used from elsewhere
    may start at the root where `rooted` says so. -/
structure Grammar where
  type : (sum : Bool) → Reader (TypeForm × Code)
  bound : BoundKinds → Reader Code
  arguments : Reader Code
  expression : (braces : Bool) → Reader ExpressionText
  operand : (braces : Bool) → Reader ExpressionText
  operators : (braces : Bool) → Precedence → (left : ExpressionText) → Reader ExpressionText
  early : Reader ExpressionText
  pattern : Reader (PatternForm × Code)
  statements : Reader Code
  item : Reader Code
  field : Reader Code
  usage : (rooted : Bool) → Reader (Option Code)

namespace Grammar

/-- The grammar that reads nothing. -/
def empty : Grammar where
  type _ := failure
  bound _ := failure
  arguments := failure
  expression _ := failure
  operand _ := failure
  operators _ _ _ := failure
  early := failure
  pattern := failure
  statements := failure
  item := failure
  field := failure
  usage _ := failure

/-- Read a type that may be a sum of bounds. -/
def anyType (g : Grammar) : Reader Code := do return (← g.type true).2

/-- Read a type that is no sum of bounds. -/
def singleType (g : Grammar) : Reader Code := do return (← g.type false).2

/-- Read an expression in which braces may hold fields. -/
def anyExpression (g : Grammar) : Reader Code := do return (← g.expression true).words

/-- Read an expression that a block follows. -/
def condition (g : Grammar) : Reader Code := do return (← g.expression false).words

/-- Read a block. -/
def readBlock (g : Grammar) : Reader Code := do
  return Code.block (← Reader.inside '\x7b' g.statements)

end Grammar

end Bindery.Crate
