import Bindery.Crate.Grammar.Expression

/-!
# Statements

A block is a list of statements: bindings, declarations and expressions. An expression that
does not end with a block needs a semicolon, unless it is the last one.

* **`Grammar.readStatements`** — the statements of a block.
-/

namespace Bindery.Crate

open Reader

/-- Whether tokens start with a declaration, a rule of rewriting left aside. -/
def atDeclaration (tokens : List Token) : Bool :=
  let second := tokens.drop 1
  let third := tokens.drop 2
  atWords ["pub", "extern", "use", "fn", "mod", "type", "struct", "enum", "trait", "impl", "macro"]
      tokens
    || (atWord "crate" tokens && !atSign "::" second)
    || (atWord "static" tokens && (atWord "mut" second || atName second))
    || (atWord "const" tokens
      && !(atGroup '\x7b' second || atWords ["static", "move"] second || atSign "|" second
        || (atWord "async" second && !atWords ["unsafe", "extern", "fn"] third)))
    || (atWord "unsafe" tokens && !atGroup '\x7b' second)
    || (atWord "async" tokens && atWords ["unsafe", "extern", "fn"] second)
    || (atWord "union" tokens && atName second)
    || (atWord "auto" tokens && atWord "trait" second)
    || (atWord "default" tokens && atWords ["unsafe", "impl"] second)

/-- What a path with `!` behind it starts: nothing of the kind, a declaration, or a statement
    whose braces end it. -/
inductive InvocationForm where
  | none
  | declaration
  | statement
deriving DecidableEq

/-- What the path with `!` behind it starts, at the front of tokens. -/
def invocationAt (tokens : List Token) : InvocationForm :=
  match readBarePath ⟨tokens, false⟩ with
  | some (_, ⟨.sign '!' _ :: rest, _⟩) =>
    let behind := rest.drop 1
    if atName rest || atWord "try" rest then .declaration
    else if atGroup '\x7b' rest && !atDot behind && !atSign "?" behind then .statement
    else .none
  | _ => .none

namespace Grammar

/-- Read a binding. What is bound may differ from the pattern; then a block follows `else`,
    in front of which the value does not end with a brace. -/
def readLocal (g : Grammar) : Reader Code := do
  let start ← word "let"
  let (_, pattern) ← g.pattern
  let type ← if ← sign? ":" then pure (":" :: (← g.anyType)) else pure []
  let value ← if ← sign? "=" then do
      let value ← g.anyExpression
      if value.getLast? ≠ some "\x7d" && (← word? "else") then
        pure ("=" :: value ++ "else" :: (← g.readBlock))
      else pure ("=" :: value)
    else pure []
  return start ++ pattern ++ type ++ value ++ (← sign ";")

/-- Read an expression as a statement, and tell whether it needs a semicolon that it lacks. -/
def readExpressionStatement (g : Grammar) (attributes : Code) : Reader (Bool × Code) := do
  let expression ← g.early
  let mark ← optionalSign ";"
  let ends := expression.form = .block || expression.form = .invocation true
  return (mark.isEmpty && !ends, (expression.withAttributes attributes).words ++ mark)

/-- Read a statement, and tell whether it needs a semicolon that it lacks. -/
def readStatement (g : Grammar) : Reader (Bool × Code) := do
  let start ← get
  let attributes ← g.readAttributes
  let tokens ← tokens
  let invocation := invocationAt tokens
  if invocation = .statement then
    let path ← readBarePath
    let mark ← sign "!"
    let (_, inner) ← anyGroup
    return (false, attributes ++ path ++ mark ++ inner ++ (← optionalSign ";"))
  else if atWord "let" tokens then return (false, attributes ++ (← g.readLocal))
  else if atDeclaration tokens || invocation = .declaration then
    set start
    return (false, ← g.item)
  else g.readExpressionStatement attributes

/-- Read the statements of a block. -/
def statementsUpTo (g : Grammar) : (fuel : Nat) → Reader Code
  | 0 => failure
  | fuel + 1 => do
    if ← sees List.isEmpty then return []
    if ← sign? ";" then return ";" :: (← g.statementsUpTo fuel)
    let (lacksMark, statement) ← g.readStatement
    guard (!lacksMark || (← sees List.isEmpty))
    return statement ++ (← g.statementsUpTo fuel)

/-- Read the statements of a block. Every statement takes a token. -/
def readStatements (g : Grammar) : Reader Code := do
  g.statementsUpTo ((← tokens).length + 1)

end Grammar

end Bindery.Crate
