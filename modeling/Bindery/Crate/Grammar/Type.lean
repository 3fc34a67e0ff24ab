import Bindery.Crate.Grammar.Bound

/-!
# Types

Types are paths, bounds, functions, tuples, arrays, pointers and references. A type in round
brackets may be a bound, if a plus follows it.

* **`Grammar.readType`** — a type.
* **`Grammar.readArguments`** — what a segment of a path is applied to; lifetimes are written
  before other arguments.
-/

namespace Bindery.Crate

open Reader

/-- Whether tokens start with the type of a function, what it is made for left aside. -/
def atFunction (tokens : List Token) : Bool := atWords ["fn", "unsafe", "extern"] tokens

/-- Whether tokens start with a call of something built in. -/
def atBuiltIn (tokens : List Token) : Bool := atWord "builtin" tokens && atSign "#" (tokens.drop 1)

/-- Whether tokens start with a constant: a literal or a block. -/
def atConstant (tokens : List Token) : Bool := atLiteral tokens || atGroup '\x7b' tokens

/-- Whether tokens start with a name or a blank, and a colon behind it. -/
def atLabel (tokens : List Token) : Bool :=
  (atName tokens || atWord "_" tokens) && atColon (tokens.drop 1)

/-- Whether tokens start with the sign of further parameters, which may have a name. -/
def atVariadic (tokens : List Token) : Bool :=
  atSign "..." tokens
    || ((atName tokens || atWord "_" tokens) && atSign ":" (tokens.drop 1)
      && atSign "..." (tokens.drop 2))

/-- Take a call of something built in, which has no form. -/
def readBuiltIn : Reader Code := asWritten do
  let _ ← inOrder [word "builtin", sign "#", name, rawGroup '(']
  return none

/-- Read `extern` with the name of a convention behind it. -/
def readLinkage : Reader Code := do
  let mark ← word "extern"
  return mark ++ (← if ← sees atText then literal else pure [])

/-- Read `extern` with the name of a convention behind it, if it is there. -/
def readOptionalLinkage : Reader Code := do
  if ← sees (atWord "extern") then readLinkage else return []

/-- Read the comma that may stand behind the sign of further parameters, and that sign with
    its name. -/
def readVariadic : Reader Code := do
  let label ← if ← sees (atSign "...") then pure [] else inOrder [nameOrBlank, sign ":"]
  return label ++ (← inOrder [sign "...", optionalSign ","])

namespace Grammar

-- ── arguments of paths ───────────────────────────────────────────────────────────

/-- Read what an argument with a name is equal to. -/
def readBinding (g : Grammar) : Reader Code := do
  if ← sees atConstant then g.readConstant else g.anyType

/-- Read an argument, and tell whether it is a lifetime. -/
def readArgument (g : Grammar) : Reader (Bool × Code) := do
  let tokens ← tokens
  if atLifetime tokens && !atSign "+" (tokens.drop 1) then return (true, ← lifetime)
  if atConstant tokens then return (false, ← g.readConstant)
  match ← g.type true with
  | (.name, words) =>
    if ← sign? "=" then return (false, words ++ "=" :: (← g.readBinding))
    else if ← sign? ":" then
      return (false, words ++ ":" :: (← summed endsParameter (g.bound .declared)))
    else return (false, words)
  | (_, words) => return (false, words)

/-- Read the arguments of a segment with their angle brackets. -/
def readArguments (g : Grammar) : Reader Code := do
  let start ← sign "<"
  let arguments ← listed (atSign ">") g.readArgument
  return start ++ sortedWords arguments ++ (← sign ">")

-- ── functions ────────────────────────────────────────────────────────────────────

/-- Read a parameter in the type of a function; the first one may be the receiver, which has
    no form if it is mutable. -/
def readFunctionParameter (g : Grammar) (first : Bool) : Reader Code := do
  let attributes ← g.readAttributes
  let mutable ← sees fun tokens => first && atWord "mut" tokens && atWord "self" (tokens.drop 1)
  let parameter ← asWritten do
    if mutable then advance 1
    let isLabelled ← sees fun tokens =>
      atLabel tokens || (first && atWord "self" tokens && atColon (tokens.drop 1))
    let label ← if isLabelled then inOrder [anyWord, sign ":"] else pure []
    let type ← g.anyType
    return if mutable then none else some (label ++ type)
  return attributes ++ parameter

/-- Read the parameters in the type of a function up to the end of their group. -/
def functionParametersUpTo (g : Grammar) (first : Bool) : (fuel : Nat) → Reader Code
  | 0 => failure
  | fuel + 1 => do
    if ← sees List.isEmpty then return []
    let attributes ← g.readAttributes
    if ← sees atVariadic then return attributes ++ (← readVariadic)
    let parameter ← g.readFunctionParameter first
    if ← sees List.isEmpty then return attributes ++ parameter
    let comma ← sign ","
    return attributes ++ parameter ++ comma ++ (← g.functionParametersUpTo false fuel)

/-- Read the type of a function. -/
def readFunction (g : Grammar) : Reader Code := do
  let start ← inOrder [optionalWord "unsafe", readOptionalLinkage, word "fn"]
  let parameters ← inside '(' do
    g.functionParametersUpTo true ((← tokens).length + 1)
  return start ++ Code.group parameters ++ (← g.readResult false)

-- ── sums of bounds and brackets ──────────────────────────────────────────────────

/-- Read the signs and bounds behind a bound. A plus may be last. -/
def furtherBoundsUpTo (g : Grammar) : (fuel : Nat) → Reader Code
  | 0 => failure
  | fuel + 1 => do
    if ← sign? "+" then
      if ← sees (atBound false) then
        let first ← g.bound .dynamic
        return "+" :: first ++ (← g.furtherBoundsUpTo fuel)
      else return ["+"]
    else return []

/-- Read the bounds behind a bound in brackets. A bound follows every plus. -/
def closedBoundsUpTo (g : Grammar) : (fuel : Nat) → Reader Code
  | 0 => failure
  | fuel + 1 => do
    if ← sign? "+" then
      let first ← g.bound .dynamic
      return "+" :: first ++ (← g.closedBoundsUpTo fuel)
    else return []

/-- Read what follows a bound in brackets, given without them. -/
def readClosedSum (g : Grammar) (first : Code) : Reader (TypeForm × Code) := do
  let more ← g.closedBoundsUpTo ((← tokens).length + 1)
  let words := Code.group first
  return if more.isEmpty then (.bound first, words) else (.other, words ++ more)

/-- What is in round brackets: nothing, lifetimes, a bound with a question mark, several
    types, or a type. -/
inductive Bracketed where
  | lifetimes (words : Code)
  | questioned (words : Code)
  | types (words : Code)
  | type (form : TypeForm) (words : Code)

/-- Read what is in round brackets. -/
def readBracketed (g : Grammar) : Reader Bracketed := do
  let tokens ← tokens
  if tokens.isEmpty then return .types []
  else if atLifetime tokens then return .lifetimes (← g.readTraitBounds .dynamic true)
  else if atSign "?" tokens then
    match ← g.readTrait .dynamic with
    | some words => return .questioned words
    | none => failure
  else
    let (form, first) ← g.type true
    if ← sign? "," then return .types (first ++ "," :: (← whole g.anyType))
    else return .type form first

/-- Read a type in round brackets: a tuple, a bound or a type. -/
def readParenthesized (g : Grammar) (sum : Bool) : Reader (TypeForm × Code) := do
  match ← inside '(' g.readBracketed with
  | .types words => return (.other, Code.group words)
  | .lifetimes words => return (.other, Code.group words)
  | .questioned words => g.readClosedSum words
  | .type form words =>
    if sum && (← sees (atSign "+")) then
      match form with
      | .name => g.readClosedSum words
      | .path => g.readClosedSum words
      | .bound inner => g.readClosedSum inner
      | .other => return (.other, Code.group words)
    else return (.other, Code.group words)

-- ── types ────────────────────────────────────────────────────────────────────────

/-- Read a type that starts with a path: the path, a call of a rule of rewriting, or a bound
    with what it is made for. -/
def readNamed (g : Grammar) (sum : Bool) (binder : Code) : Reader (TypeForm × Code) := do
  let (qualified, path) ← g.readQualified false
  if qualified then return (.other, path.words)
  if path.isBare && (← sees fun tokens => atSign "!" tokens && !atSign "!=" tokens) then
    let mark ← sign "!"
    return (.other, path.words ++ mark ++ (← anyGroup).2)
  let more ← if sum then do g.furtherBoundsUpTo ((← tokens).length + 1) else pure []
  let words := binder ++ path.words
  if !more.isEmpty then return (.other, words ++ more)
  else if !binder.isEmpty then return (.bound words, words)
  else if path.count = 1 && !path.rooted then return (.name, words)
  else return (.path, words)

/-- Read a pointer whose star has been read. -/
def readPointer (g : Grammar) : Reader Code := do
  let mode ← if ← word? "const" then pure ["const"] else word "mut"
  return mode ++ (← g.singleType)

/-- Read an array or a slice. -/
def readArray (g : Grammar) : Reader Code := do
  return Code.list (← inside '[' do
    let item ← g.anyType
    if ← sign? ";" then return item ++ ";" :: (← g.anyExpression) else return item)

/-- Read a value of any type that has traits. With a star it has no form. -/
def readDynamic (g : Grammar) (sum : Bool) : Reader Code := asWritten do
  let mark ← word "dyn"
  let starred ← sign? "*"
  let bounds ← g.readTraitBounds .dynamic sum
  return if starred then none else some (mark ++ bounds)

/-- Read a type that starts with no binder. -/
def readUnbound (g : Grammar) (sum : Bool) : Reader (TypeForm × Code) := do
  let tokens ← tokens
  let plain := fun (reader : Reader Code) => do return (TypeForm.other, ← reader)
  if atGroup '(' tokens then g.readParenthesized sum
  else if atFunction tokens then plain g.readFunction
  else if atBuiltIn tokens then plain readBuiltIn
  else if atSegment tokens || atSign "::" tokens || atSign "<" tokens then g.readNamed sum []
  else if atWord "dyn" tokens then plain (g.readDynamic sum)
  else if atGroup '[' tokens then plain g.readArray
  else if atSign "*" tokens then plain (inOrder [sign "*", g.readPointer])
  else if atSign "&" tokens then
    plain (inOrder [sign "&", optionalLifetime, optionalWord "mut", g.singleType])
  else if atSign "!" tokens then plain (sign "!")
  else if atWord "impl" tokens then
    plain (inOrder [word "impl", g.readTraitBounds .hidden sum])
  else if atWord "_" tokens then plain (word "_")
  else
    guard (atLifetime tokens)
    plain (g.readTraitBounds .dynamic true)

/-- Read a type. -/
def readType (g : Grammar) (sum : Bool) : Reader (TypeForm × Code) := do
  if ← sees (atWord "for") then
    let start ← tokens
    let binder ← g.readBinder
    let tokens ← tokens
    if atFunction tokens then return (.other, binder ++ (← g.readFunction))
    else if atBuiltIn tokens then
      let _ ← readBuiltIn
      let rest ← Reader.tokens
      return (.other, writtenWords (start.take (start.length - rest.length)))
    else
      guard (atSegment tokens)
      g.readNamed sum binder
  else g.readUnbound sum

end Grammar

end Bindery.Crate
