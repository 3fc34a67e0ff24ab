import Bindery.Crate.Grammar.Statement

/-!
# Declarations

Functions, types, traits and their implementations, modules, constants, and the rules of
rewriting. What is declared in a trait, in an implementation or outside the language has
rules of its own. Some declarations are accepted that have no form.

Declarations are the last family of parts, so that all are tied to each other here. Parts may
nest to any depth, so the grammar is built from the inside out: each level reads the parts
inside its own with the level below.

* **`Grammar.readDeclaration`** — a declaration with its attributes.
* **`Grammar.ofDepth`** — the grammar of source that nests no deeper than a number.
-/

namespace Bindery.Crate

open Reader

/-- What stands behind the words in front of the declaration of a function, which may be
    `safe` outside the language. -/
def afterQualifiers (safe : Bool) (tokens : List Token) : List Token :=
  let pass := fun (word : String) (tokens : List Token) =>
    if atWord word tokens then tokens.drop 1 else tokens
  let tokens := pass "async" (pass "const" tokens)
  let tokens := if safe && atWord "safe" tokens then tokens.drop 1 else pass "unsafe" tokens
  if atWord "extern" tokens then
    if atText (tokens.drop 1) then tokens.drop 2 else tokens.drop 1
  else tokens

/-- Whether tokens start with the declaration of a function. -/
def atSignature (safe : Bool) (tokens : List Token) : Bool :=
  atWord "fn" (afterQualifiers safe tokens)

/-- Whether tokens start with a call of a rule of rewriting. -/
def atInvocation (tokens : List Token) : Bool := atSegment tokens || atSign "::" tokens

/-- Read who can see something, if it is said. -/
def readVisibility : Reader Code := do
  if ← word? "pub" then
    match ← tokens with
    | .group '(' inner :: _ =>
      if atWords ["crate", "self", "super"] inner && inner.length = 1 then
        return "pub" :: Code.group (← inside '(' anyWord)
      else if atWord "in" inner then
        return "pub" :: Code.group (← inside '(' (inOrder [word "in", readBarePath]))
      else return ["pub"]
    | _ => return ["pub"]
  else return []

/-- Read a call of a rule of rewriting. A semicolon follows it unless braces end it. -/
def readInvocation : Reader Code := do
  let path ← inOrder [readBarePath, sign "!"]
  let (bracket, inner) ← anyGroup
  return path ++ inner ++ (← if bracket = '\x7b' then pure [] else sign ";")

/-- Read a rule of rewriting, or a call of one that declares something with a name. -/
def readNamedInvocation : Reader Code := do
  let path ← inOrder [readBarePath, sign "!"]
  let name ← if ← sees fun tokens => atName tokens || atWord "try" tokens then anyWord else pure []
  let (bracket, inner) ← anyGroup
  return path ++ name ++ inner ++ (← if bracket = '\x7b' then pure [] else sign ";")

namespace Grammar

-- ── what is used ─────────────────────────────────────────────────────────────────

/-- Read an item of a group of things that are used. One that starts at the root has no
    form. -/
def readUsageItem (g : Grammar) (rooted : Bool) : Reader (Option Code) := do
  let fromRoot ← if rooted then sign? "::" else pure false
  let item ← g.usage (rooted && !fromRoot)
  return if fromRoot then none else item

/-- The words of a group of things that are used, if all of them have a form. -/
def usageWords? : List (Option Code × Bool) → Option (List (Code × Bool))
  | [] => some []
  | (item, comma) :: rest => do return (← item, comma) :: (← usageWords? rest)

/-- Read what is used from elsewhere. -/
def readUsage (g : Grammar) (rooted : Bool) : Reader (Option Code) := do
  let tokens ← tokens
  if atName tokens || atWords ["self", "super", "crate", "try"] tokens then
    let first ← anyWord
    if ← sign? "::" then return (← g.usage false).map (first ++ "::" :: ·)
    else if ← word? "as" then return some (first ++ "as" :: (← nameOrBlank))
    else return some first
  else if atSign "*" tokens then return some (← sign "*")
  else
    let items ← inside '\x7b' (listed List.isEmpty (g.readUsageItem rooted))
    return (usageWords? items).map fun items => Code.block (listWords items)

/-- Read the declaration of what is used from elsewhere. -/
def readUse (g : Grammar) : Reader (Option Code) := do
  let head ← inOrder [word "use", optionalSign "::"]
  let tree ← g.usage (head.length = 1)
  let mark ← sign ";"
  return tree.map (head ++ · ++ mark)

-- ── functions ────────────────────────────────────────────────────────────────────

/-- Read the receiver of a method. -/
def readReceiver (g : Grammar) : Reader Code := do
  if ← sign? "&" then
    return "&" :: (← inOrder [optionalLifetime, optionalWord "mut", word "self"])
  else
    let receiver ← inOrder [optionalWord "mut", word "self"]
    if ← sign? ":" then return receiver ++ ":" :: (← g.anyType) else return receiver

/-- Read a parameter of a function. A type alone stands for a parameter without a name. -/
def readTypedParameter (g : Grammar) : Reader Code := do
  if ← sees fun tokens => atName tokens && atSign "<" (tokens.drop 1) then
    return "_" :: ":" :: (← g.anyType)
  else
    let (_, pattern) ← g.pattern
    return pattern ++ (← inOrder [sign ":", g.anyType])

/-- Read the sign of further parameters, which may have a pattern, and the comma behind it. -/
def readFurtherParameters (g : Grammar) : Reader Code := do
  let label ← if ← sees (atSign "...") then pure [] else do
    let (_, pattern) ← g.pattern
    pure (pattern ++ (← sign ":"))
  let mark ← sign "..."
  return label ++ mark ++ (← if ← sees List.isEmpty then pure [] else sign ",")

/-- Read the parameters of a function up to the end of their group. A receiver is first. -/
def parametersUpTo (g : Grammar) (first : Bool) : (fuel : Nat) → Reader Code
  | 0 => failure
  | fuel + 1 => do
    if ← sees List.isEmpty then return []
    let attributes ← g.readAttributes
    let source ← get
    match g.readFurtherParameters source with
    | some (further, rest) =>
      set rest
      return attributes ++ further
    | none =>
      let parameter ← match g.readReceiver source with
        | some (receiver, rest) => do
          guard first
          set rest
          pure receiver
        | none => g.readTypedParameter
      if ← sees List.isEmpty then return attributes ++ parameter
      let comma ← sign ","
      return attributes ++ parameter ++ comma ++ (← g.parametersUpTo false fuel)

/-- Read the head of a function, and tell whether it is said to be safe. -/
def readSignature (g : Grammar) (safe : Bool) : Reader (Bool × Code) := do
  let modes ← inOrder (["const", "async", "unsafe"].map optionalWord)
  let isSafe ← if safe && modes.getLast? ≠ some "unsafe" then word? "safe" else pure false
  let head ← inOrder [readOptionalLinkage, word "fn", name, g.readParameters]
  let parameters ← inside '(' do g.parametersUpTo true ((← tokens).length + 1)
  let ending ← inOrder [g.readResult true, g.readWhere]
  return (isSafe, modes ++ head ++ Code.group parameters ++ ending)

/-- Read a function; one without a body has no form. -/
def readFunctionItem (g : Grammar) : Reader (Option Code) := do
  let (_, signature) ← g.readSignature false
  if ← sign? ";" then return none else return some (signature ++ (← g.readOwnBlock))

-- ── constants and types ──────────────────────────────────────────────────────────

/-- Read a constant. Its value may be `optional`; with parameters, and without a value
    otherwise, it has no form. -/
def readConstantItem (g : Grammar) (optional : Bool) : Reader (Option Code) := do
  let head ← inOrder [word "const", nameOrBlank]
  let bare ← sees fun tokens => !atSign "<" tokens
  let _ ← g.readParameters
  let type ← inOrder [sign ":", g.anyType]
  let value ← if ← sign? "=" then pure ("=" :: (← g.anyExpression)) else pure []
  let unbounded ← sees fun tokens => !atWord "where" tokens
  let _ ← g.readWhere
  let mark ← sign ";"
  if bare && unbounded && (optional || !value.isEmpty) then
    return some (head ++ type ++ value ++ mark)
  else return none

/-- Read a static variable; one without a type or a value has no form. -/
def readStatic (g : Grammar) : Reader (Option Code) := do
  let head ← inOrder [word "static", optionalWord "mut", name]
  if ← sees (atSign "=") then
    let _ ← inOrder [sign "=", g.anyExpression, sign ";"]
    return none
  else
    let type ← inOrder [sign ":", g.anyType]
    if ← sign? ";" then return none
    else return some (head ++ type ++ (← inOrder [sign "=", g.anyExpression, sign ";"]))

/-- Where the bounds behind `where` stand in the declaration of a type: in front of its
    definition, behind it, or at either place. -/
inductive WherePlace where
  | before | behind | either
deriving DecidableEq

/-- The declaration of a type that has been read: its name with its parameters, its bounds,
    its definition, and what stands behind `where`. -/
structure TypeText where
  name : Code
  hasColon : Bool
  bounds : Code
  definition : Code
  predicates : Code

/-- Read the declaration of a type. -/
def readTypeText (g : Grammar) (place : WherePlace) : Reader TypeText := do
  let name ← inOrder [word "type", name, g.readParameters]
  let hasColon ← sees (atSign ":")
  let bounds ← g.readDeclaredBounds fun tokens =>
    atWord "where" tokens || atSign "=" tokens || atSign ";" tokens
  let isEarly ← sees (atWord "where")
  let early ← if place = .behind then pure [] else g.readWhere
  let definition ← if ← sign? "=" then pure ("=" :: (← g.anyType)) else pure []
  let late ← if place = .before || (place = .either && isEarly) then pure [] else g.readWhere
  let _ ← sign ";"
  return ⟨name, hasColon, bounds, definition, early ++ late⟩

/-- Read a type with another name; without a definition, or with bounds, it has no form. -/
def readAlias (g : Grammar) (place : WherePlace) : Reader (Option Code) := do
  let text ← g.readTypeText place
  if text.hasColon || text.definition.isEmpty then return none
  else if place = .before then
    return some (text.name ++ text.predicates ++ text.definition ++ [";"])
  else return some (text.name ++ text.definition ++ text.predicates ++ [";"])

/-- Read fields with names in braces. -/
def readNamedFields (g : Grammar) : Reader Code := do
  return Code.block (← inside '\x7b' (whole g.field))

/-- Read a field with a name. One without a name may have the fields of a struct or a union
    in place of a type, and no form. -/
def readField (g : Grammar) : Reader Code := do
  let start ← inOrder [g.readAttributes, readVisibility]
  let isBlank ← sees (atWord "_")
  let label ← inOrder [nameOrBlank, sign ":"]
  let isNested ← sees fun tokens =>
    isBlank && (atWord "struct" tokens
      || (atWord "union" tokens && atGroup '\x7b' (tokens.drop 1)))
  let type ← if isNested then asWritten do
      let _ ← inOrder [anyWord, g.readNamedFields]
      return none
    else g.anyType
  return start ++ label ++ type

/-- Read fields without names in round brackets. -/
def readTupleFields (g : Grammar) : Reader Code := do
  return Code.group (← inside '(' (whole (inOrder [g.readAttributes, readVisibility, g.anyType])))

/-- Read a struct. -/
def readStruct (g : Grammar) : Reader Code := do
  let head ← inOrder [word "struct", name, g.readParameters]
  let tokens ← tokens
  if atGroup '(' tokens then
    return head ++ (← inOrder [g.readTupleFields, g.readWhere, sign ";"])
  else
    let predicates ← g.readWhere
    if ← sees (atGroup '\x7b') then return head ++ predicates ++ (← g.readNamedFields)
    else return head ++ predicates ++ (← sign ";")

/-- Read a variant. Who can see it is left out. -/
def readVariant (g : Grammar) : Reader Code := do
  let attributes ← g.readAttributes
  let _ ← readVisibility
  let name ← name
  let tokens ← tokens
  let fields ← if atGroup '\x7b' tokens then g.readNamedFields
    else if atGroup '(' tokens then g.readTupleFields
    else pure []
  let value ← if ← sign? "=" then pure ("=" :: (← g.anyExpression)) else pure []
  return attributes ++ name ++ fields ++ value

/-- Read an enumeration. -/
def readEnum (g : Grammar) : Reader Code := do
  let head ← inOrder [word "enum", name, g.readParameters, g.readWhere]
  return head ++ Code.block (← inside '\x7b' (whole g.readVariant))

/-- Read a union. -/
def readUnion (g : Grammar) : Reader Code :=
  inOrder [word "union", name, g.readParameters, g.readWhere, g.readNamedFields]

-- ── traits and implementations ───────────────────────────────────────────────────

/-- Read what is declared in a trait. What says who can see it, or is a default, has no
    form. -/
def readTraitItem (g : Grammar) : Reader Code := asWritten do
  let attributes ← g.readAttributes
  let visibility ← readVisibility
  let isDefault ← word? "default"
  let tokens ← tokens
  let isPlain := visibility.isEmpty && !isDefault
  let words ← if atSignature false tokens then do
      let (_, signature) ← g.readSignature false
      let body ← if ← sees (atGroup '\x7b') then g.readOwnBlock else sign ";"
      pure (some (signature ++ body))
    else if atWord "const" tokens then g.readConstantItem true
    else if atWord "type" tokens then do
      let text ← g.readTypeText .behind
      pure (some (text.name ++ text.bounds ++ text.definition ++ text.predicates ++ [";"]))
    else do
      guard (isPlain && atInvocation tokens)
      pure (some (← readInvocation))
  return if isPlain then words.map (attributes ++ ·) else none

/-- Read what is declared in an implementation. -/
def readImplItem (g : Grammar) : Reader Code := asWritten do
  let attributes ← g.readAttributes
  let visibility ← readVisibility
  let default ← if ← sees fun tokens =>
      atWord "default" tokens && !atSign "!" (tokens.drop 1) then word "default" else pure []
  let tokens ← tokens
  let words ← if atSignature false tokens then g.readFunctionItem
    else if atWord "const" tokens then g.readConstantItem false
    else if atWord "type" tokens then g.readAlias .behind
    else do
      guard (visibility.isEmpty && default.isEmpty && atInvocation tokens)
      pure (some (← readInvocation))
  return words.map (attributes ++ visibility ++ default ++ ·)

/-- Read what is declared outside the language. What is said to be safe or unsafe, and what
    has a body or a value, has no form. -/
def readForeignItem (g : Grammar) : Reader Code := asWritten do
  let attributes ← g.readAttributes
  let visibility ← readVisibility
  let tokens ← tokens
  let words ← if atSignature true tokens then do
      let (isSafe, signature) ← g.readSignature true
      if ← sees (atGroup '\x7b') then
        let _ ← g.readOwnBlock
        pure none
      else
        let mark ← sign ";"
        pure (if isSafe then none else some (signature ++ mark))
    else if atWord "static" tokens
        || (atWords ["unsafe", "safe"] tokens && atWord "static" (tokens.drop 1)) then do
      let isMarked ← sees fun tokens => !atWord "static" tokens
      if isMarked then advance 1
      let words ← inOrder [word "static", optionalWord "mut", name, sign ":", g.anyType]
      let value ← if ← sign? "=" then g.anyExpression else pure []
      let mark ← sign ";"
      pure (if isMarked || !value.isEmpty then none else some (words ++ mark))
    else if atWord "type" tokens then do
      let text ← g.readTypeText .either
      pure (if text.hasColon || !text.definition.isEmpty then none
        else some (text.name ++ text.predicates ++ [";"]))
    else do
      guard (visibility.isEmpty && atInvocation tokens)
      pure (some (← readInvocation))
  return words.map (attributes ++ visibility ++ ·)

/-- Read the inside of a declaration that holds others. -/
def readBody (g : Grammar) (item : Reader Code) : Reader Code := do
  return Code.block (← inside '\x7b' (inOrder [g.readInnerAttributes, all item]))

/-- Read a trait. -/
def readTraitDeclaration (g : Grammar) : Reader Code := do
  let modes ← inOrder [optionalWord "unsafe", optionalWord "auto"]
  let head ← inOrder [word "trait", name, g.readParameters]
  if modes.isEmpty && (← sees (atSign "=")) then
    let ends := fun tokens => atWord "where" tokens || atSign ";" tokens
    return head ++ (← inOrder [sign "=", summed ends (g.bound .dynamic), g.readWhere, sign ";"])
  else
    let ends := fun tokens => atWord "where" tokens || atGroup '\x7b' tokens
    return modes ++ head
      ++ (← inOrder [g.readDeclaredBounds ends, g.readWhere, g.readBody g.readTraitItem])

/-- Read an implementation. One of a constant trait, or of something that is no trait, has no
    form. -/
def readImpl (g : Grammar) : Reader (Option Code) := do
  let head ← inOrder [optionalWord "default", optionalWord "unsafe", word "impl"]
  let parameters ← if ← sees atParameters then g.readParameters else pure []
  let constant ← sees fun tokens =>
    atWord "const" tokens || (atSign "?" tokens && atWord "const" (tokens.drop 1))
  if constant then
    let _ ← inOrder [optionalSign "?", word "const"]
  let negative ← if ← sees fun tokens =>
      atSign "!" tokens && !atGroup '\x7b' (tokens.drop 1) then sign "!" else pure []
  let (form, first) ← g.type true
  let isFor ← word? "for"
  guard (isFor || negative.isEmpty)
  let target ← if isFor then pure ("for" :: (← g.anyType)) else pure []
  let ending ← inOrder [g.readWhere, g.readBody g.readImplItem]
  if constant || (isFor && !form.isPath) then return none
  else return some (head ++ parameters ++ negative ++ first ++ target ++ ending)

-- ── modules and rules ────────────────────────────────────────────────────────────

/-- Read a module. -/
def readModule (g : Grammar) : Reader Code := do
  let head ← inOrder [optionalWord "unsafe", word "mod"]
  let name ← if ← word? "try" then pure ["try"] else name
  return head ++ name ++ (← if ← sees (atSign ";") then sign ";" else g.readBody g.item)

/-- Read things that are declared outside the language. -/
def readForeign (g : Grammar) : Reader Code :=
  inOrder [optionalWord "unsafe", readLinkage, g.readBody g.readForeignItem]

/-- Read a crate that is used under a name. -/
def readExternCrate : Reader Code := do
  let head ← inOrder [word "extern", word "crate"]
  let name ← if ← word? "self" then pure ["self"] else name
  let rename ← if ← word? "as" then pure ("as" :: (← nameOrBlank)) else pure []
  return head ++ name ++ rename ++ (← sign ";")

/-- Read a rule of rewriting, which has no form. -/
def readRule : Reader (Option Code) := do
  let _ ← inOrder [word "macro", name]
  if ← sees (atGroup '(') then
    let _ ← rawGroup '('
  let _ ← rawGroup '\x7b'
  return none

/-- Read a declaration behind its attributes, and tell who can see it. -/
def readVisible (g : Grammar) (isVisible : Bool) : Reader (Option Code) := do
  let tokens ← tokens
  let second := tokens.drop 1
  let kept := fun (reader : Reader Code) => do return some (← reader)
  if atSignature false tokens then g.readFunctionItem
  else if atWord "extern" tokens && atWord "crate" second then kept readExternCrate
  else if atWord "extern" tokens || (atWord "unsafe" tokens && atWord "extern" second) then
    guard !isVisible
    kept g.readForeign
  else if atWord "use" tokens then g.readUse
  else if atWord "static" tokens then g.readStatic
  else if atWord "const" tokens then g.readConstantItem false
  else if atWord "mod" tokens || (atWord "unsafe" tokens && atWord "mod" second) then
    kept g.readModule
  else if atWord "type" tokens then g.readAlias .before
  else if atWord "struct" tokens then kept g.readStruct
  else if atWord "enum" tokens then kept g.readEnum
  else if atWord "union" tokens && atName second then kept g.readUnion
  else if atWord "trait" tokens || (atWords ["unsafe", "auto"] tokens
      && (atWord "trait" second || (atWord "auto" second && atWord "trait" (tokens.drop 2)))) then
    kept g.readTraitDeclaration
  else if atWord "impl" tokens || (atWord "unsafe" tokens && atWord "impl" second)
      || (atWord "default" tokens && !atSign "!" second) then
    let words ← g.readImpl
    return if isVisible then none else words
  else if atWord "macro" tokens then readRule
  else
    guard (!isVisible && atInvocation tokens)
    kept readNamedInvocation

/-- Read a declaration with its attributes. -/
def readDeclaration (g : Grammar) : Reader Code := asWritten do
  let attributes ← g.readAttributes
  let visibility ← readVisibility
  let words ← g.readVisible (!visibility.isEmpty)
  return words.map (attributes ++ visibility ++ ·)

-- ── all parts ────────────────────────────────────────────────────────────────────

/-- The grammar of a level, given that of the level below. -/
def next (g : Grammar) : Grammar where
  type := g.readType
  bound := g.readBound
  arguments := g.readArguments
  expression := g.readExpression
  operand := g.readOperand
  operators := g.readOperators
  early := g.readEarly
  pattern := g.readPattern
  statements := g.readStatements
  item := g.readDeclaration
  field := g.readField
  usage := g.readUsage

/-- The grammar of source whose parts nest no deeper than a number. -/
def ofDepth : Nat → Grammar
  | 0 => empty
  | depth + 1 => next (ofDepth depth)

end Grammar

end Bindery.Crate
