import Bindery.Crate.Grammar.Pattern

/-!
# Expressions

An expression is made of operands with operators between them. Operators that bind as tightly
as each other group to the left, those that assign to the right; comparisons do not group at
all, and neither do ranges. An operand is something in brackets, a path, a literal, a block or a
jump, with signs in front and accesses behind. Braces behind a path hold fields where nothing
else is expected.

* **`operators`** — the operators with their precedence, longer signs first.
* **`Grammar.readOperators`** — what stands behind an operand.
* **`Grammar.readOperand`** — an operand.
* **`Grammar.readBlockLike?`** — one that ends with a block.
* **`Grammar.readEarly`** — an expression that may end with its first block.
-/

namespace Bindery.Crate

open Reader

-- ── operators ────────────────────────────────────────────────────────────────────

/-- The operators with two operands and how tightly they bind, longer signs first. -/
def operators : List (String × Precedence) :=
  [("+=", .assignment), ("-=", .assignment), ("*=", .assignment), ("/=", .assignment),
    ("%=", .assignment), ("^=", .assignment), ("&=", .assignment), ("|=", .assignment),
    ("<<=", .assignment), (">>=", .assignment), ("&&", .conjunction), ("||", .disjunction),
    ("<<", .shift), (">>", .shift), ("==", .comparison), ("<=", .comparison),
    ("!=", .comparison), (">=", .comparison), ("+", .sum), ("-", .sum), ("*", .product),
    ("/", .product), ("%", .product), ("^", .bitXor), ("&", .bitAnd), ("|", .bitOr),
    ("<", .comparison), (">", .comparison)]

/-- The operator that tokens start with. -/
def operator? (tokens : List Token) : Option (String × Precedence) :=
  operators.find? fun (sign, _) => atSign sign tokens

/-- Whether tokens start with the sign of an assignment. -/
def atAssignment (tokens : List Token) : Bool := atSign "=" tokens && !atSign "=>" tokens

/-- How tightly what tokens start with binds to the operand in front of it. -/
def precedenceAt (tokens : List Token) : Precedence :=
  match operator? tokens with
  | some (_, precedence) => precedence
  | none =>
    if atAssignment tokens then .assignment
    else if atSign ".." tokens then .range
    else if atWord "as" tokens then .cast
    else .jump

/-- Whether tokens end a range that does not hold its end. -/
def endsOpenRange (braces : Bool) (tokens : List Token) : Bool :=
  tokens.isEmpty || atDot tokens || (!braces && atGroup '\x7b' tokens) || atWord "as" tokens
    || [",", ";", "?", "=>", "=", "+", "/", "%", "^", ">", "<=", "!=", "-=", "*=", "&=", "|=",
      "<<="].any (atSign · tokens)

/-- Whether tokens start with something that may not follow the type of a cast. -/
def atAccess (tokens : List Token) : Bool :=
  atDot tokens || atSign "?" tokens || atGroup '[' tokens || atGroup '(' tokens

namespace Grammar

/-- Read operators behind the right operand of another one, as long as they bind more tightly.
    Assignments group to the right. -/
def rightUpTo (g : Grammar) (braces : Bool) (precedence : Precedence) :
    (fuel : Nat) → ExpressionText → Reader ExpressionText
  | 0, _ => failure
  | fuel + 1, right => do
    let before ← tokens
    let next := precedenceAt before
    if precedence.rank < next.rank || (next = .assignment && precedence = .assignment) then
      let longer ← g.operators braces next right
      if (← tokens).length = before.length then return longer
      else g.rightUpTo braces precedence fuel longer
    else return right

/-- Read the right operand of an operator. -/
def readRight (g : Grammar) (braces : Bool) (precedence : Precedence) :
    Reader ExpressionText := do
  let operand ← g.operand braces
  g.rightUpTo braces precedence ((← tokens).length + 1) operand

/-- Read the rest of a range whose start has been read. -/
def readRange (g : Grammar) (braces : Bool) (start : Code) : Reader ExpressionText := do
  let (closed, mark) ← readRangeSign
  if !closed && (← sees (endsOpenRange braces)) then return ⟨start ++ mark, .range, true⟩
  else return ⟨start ++ mark ++ (← g.readRight braces .range).words, .range, true⟩

/-- Read operators that bind at least as tightly as a precedence, with their operands. -/
def readOperators (g : Grammar) (braces : Bool) (base : Precedence) (left : ExpressionText) :
    Reader ExpressionText := do
  if left.form = .range then return left
  let tokens ← tokens
  match operator? tokens with
  | some (mark, precedence) =>
    if precedence.rank < base.rank then return left
    guard (precedence ≠ .comparison || left.form ≠ .comparison)
    let mark ← sign mark
    let right ← g.readRight braces precedence
    g.operators braces base ⟨left.words ++ mark ++ right.words,
      if precedence = .comparison then .comparison else .other, left.takesAttributes⟩
  | none =>
    if base.rank ≤ Precedence.assignment.rank && atAssignment tokens then
      let mark ← sign "="
      let right ← g.readRight braces .assignment
      g.operators braces base ⟨left.words ++ mark ++ right.words, .other, left.takesAttributes⟩
    else if base.rank ≤ Precedence.range.rank && atSign ".." tokens then
      g.operators braces base (← g.readRange braces left.words)
    else if atWord "as" tokens then
      let mark ← word "as"
      let type ← g.singleType
      guard !(← sees atAccess)
      g.operators braces base ⟨left.words ++ mark ++ type, .other, left.takesAttributes⟩
    else return left

/-- Read an expression. -/
def readExpression (g : Grammar) (braces : Bool) : Reader ExpressionText := do
  g.operators braces .jump (← g.operand braces)

end Grammar

-- ── what expressions start with ──────────────────────────────────────────────────

/-- Whether tokens start with an expression. -/
def atExpression (tokens : List Token) : Bool :=
  (atAnyWord tokens && !atWord "as" tokens) || (atAnyGroup tokens) || atLiteral tokens
    || (atSign "!" tokens && !atSign "!=" tokens)
    || (atSign "-" tokens && !atSign "-=" tokens && !atSign "->" tokens)
    || (atSign "*" tokens && !atSign "*=" tokens) || (atSign "|" tokens && !atSign "|=" tokens)
    || (atSign "&" tokens && !atSign "&=" tokens) || atSign ".." tokens
    || atArguments tokens || atSign "::" tokens || atLifetime tokens || atSign "#" tokens

/-- Whether tokens start with the lifetimes of a closure. -/
def atClosureBinder (tokens : List Token) : Bool :=
  atWord "for" tokens && atSign "<" (tokens.drop 1)
    && (atLifetime (tokens.drop 2) || atSign ">" (tokens.drop 2))

/-- Whether tokens start with a block that runs apart from what is around it. -/
def atAsyncBlock (tokens : List Token) : Bool :=
  atWord "async" tokens
    && (atGroup '\x7b' (tokens.drop 1)
      || (atWord "move" (tokens.drop 1) && atGroup '\x7b' (tokens.drop 2)))

/-- Whether tokens start with a closure. -/
def atClosure (tokens : List Token) : Bool :=
  let second := tokens.drop 1
  atSign "|" tokens || atWord "move" tokens || atClosureBinder tokens
    || (atWord "const" tokens && !atGroup '\x7b' second) || atWord "static" tokens
    || (atWord "async" tokens && (atSign "|" second || atWord "move" second))

/-- Whether tokens start with a path, a call of a rule of rewriting or a struct. -/
def atPath (tokens : List Token) : Bool :=
  atSegment tokens || atSign "::" tokens || atSign "<" tokens
    || (atWord "try" tokens && (atSign "!" (tokens.drop 1) || atSign "::" (tokens.drop 1)))

namespace Grammar

-- ── blocks ───────────────────────────────────────────────────────────────────────

/-- Read a condition and what follows from it. -/
def conditionalUpTo (g : Grammar) : (fuel : Nat) → Reader Code
  | 0 => failure
  | fuel + 1 => do
    let positive ← inOrder [word "if", g.condition, g.readBlock]
    if ← word? "else" then
      let negative ← if ← sees (atWord "if") then g.conditionalUpTo fuel else g.readBlock
      return positive ++ "else" :: negative
    else return positive

/-- Read a loop or a block that may have a label. -/
def readLabelled (g : Grammar) : Reader Code := do
  let tokens ← tokens
  if atWord "while" tokens then inOrder [word "while", g.condition, g.readOwnBlock]
  else if atWord "for" tokens then
    let pattern := do return (← g.readAlternatives).2
    inOrder [word "for", pattern, word "in", g.condition, g.readOwnBlock]
  else if atWord "loop" tokens then inOrder [word "loop", g.readOwnBlock]
  else g.readOwnBlock

/-- Read the arms of a match. A comma ends an arm that is no block. -/
def armsUpTo (g : Grammar) : (fuel : Nat) → Reader Code
  | 0 => failure
  | fuel + 1 => do
    if ← sees List.isEmpty then return []
    let attributes ← g.readAttributes
    let (_, pattern) ← g.readAlternatives
    let guarded ← if ← word? "if" then pure ("if" :: (← g.anyExpression)) else pure []
    let arrow ← sign "=>"
    let body ← g.early
    let comma ← if body.form ≠ .block && !(← sees List.isEmpty) then sign ","
      else optionalSign ","
    return attributes ++ pattern ++ guarded ++ arrow ++ body.words ++ comma
      ++ (← g.armsUpTo fuel)

/-- Read a match. -/
def readMatch (g : Grammar) : Reader Code := do
  let start ← inOrder [word "match", g.condition]
  let arms ← inside '\x7b' do
    let attributes ← g.readInnerAttributes
    return attributes ++ (← g.armsUpTo ((← tokens).length + 1))
  return start ++ Code.block arms

/-- Read an operand that ends with a block, if tokens start with one. -/
def readBlockLike? (g : Grammar) : Reader (Option Code) := do
  let tokens ← tokens
  let second := tokens.drop 1
  if atWord "if" tokens then return some (← g.conditionalUpTo (tokens.length + 1))
  else if atWords ["while", "loop"] tokens || atGroup '\x7b' tokens
      || (atWord "for" tokens && !atClosureBinder tokens) then
    return some (← g.readLabelled)
  else if atWord "match" tokens then return some (← g.readMatch)
  else if atWord "try" tokens && atGroup '\x7b' second then
    return some (← inOrder [word "try", g.readBlock])
  else if atWord "unsafe" tokens then
    return some (← inOrder [word "unsafe", g.readOwnBlock])
  else if atWord "const" tokens && atGroup '\x7b' second then
    return some (← inOrder [word "const", g.readOwnBlock])
  else if atLifetime tokens then
    return some (← inOrder [lifetime, sign ":", g.readLabelled])
  else return none

-- ── closures, structs and jumps ──────────────────────────────────────────────────

/-- Read a parameter of a closure. Attributes of a pattern without a form are lost, unless a
    type follows it. -/
def readClosureParameter (g : Grammar) : Reader Code := do
  let attributes ← g.readAttributes
  let (form, pattern) ← g.pattern
  if ← sign? ":" then return attributes ++ pattern ++ ":" :: (← g.anyType)
  else if form = .irregular then return pattern
  else return attributes ++ pattern

/-- Read a closure. -/
def readClosure (g : Grammar) (braces : Bool) : Reader Code := do
  let binder ← g.readOptionalBinder
  let modes ← inOrder (["const", "static", "async", "move"].map optionalWord)
  let start ← sign "|"
  let parameters ← listed (atSign "|") g.readClosureParameter
  let close ← sign "|"
  let head := binder ++ modes ++ start ++ listWords parameters ++ close
  if ← sees (atSign "->") then
    return head ++ (← inOrder [sign "->", g.anyType, g.readBlock])
  else return head ++ (← g.expression braces).words

/-- Read a field of a struct and its value. -/
def readFieldValue (g : Grammar) : Reader Code := do
  let attributes ← g.readAttributes
  let (isName, member) ← readMember
  if !isName || (← sees (atSign ":")) then
    return attributes ++ member ++ (← inOrder [sign ":", g.anyExpression])
  else return attributes ++ member

/-- Read the fields of a struct. Two dots stand for the rest of them. -/
def fieldValuesUpTo (g : Grammar) : (fuel : Nat) → Reader Code
  | 0 => failure
  | fuel + 1 => do
    if ← sees List.isEmpty then return []
    if ← sign? ".." then
      if ← sees List.isEmpty then return [".."] else return ".." :: (← g.anyExpression)
    let field ← g.readFieldValue
    if ← sees List.isEmpty then return field
    let comma ← sign ","
    return field ++ comma ++ (← g.fieldValuesUpTo fuel)

/-- Read a path, a call of a rule of rewriting or a struct. -/
def readPathOperand (g : Grammar) (braces : Bool) : Reader ExpressionText := do
  let (qualified, path) ← g.readQualified true
  let tokens ← tokens
  if !qualified && path.isBare && atSign "!" tokens && !atSign "!=" tokens then
    let mark ← sign "!"
    let (bracket, inner) ← anyGroup
    return ⟨path.words ++ mark ++ inner, .invocation (bracket = '\x7b'), true⟩
  else if braces && atGroup '\x7b' tokens then
    let fields ← inside '\x7b' do g.fieldValuesUpTo ((← Reader.tokens).length + 1)
    return .plain (path.words ++ Code.block fields)
  else return .plain path.words

/-- Read items in square brackets: a list, or an item and how often it stands. -/
def readItems (g : Grammar) : Reader Code := do
  if ← sees List.isEmpty then return []
  let first ← g.anyExpression
  if ← sign? ";" then return first ++ ";" :: (← g.anyExpression)
  else if ← sign? "," then return first ++ "," :: (← whole g.anyExpression)
  else return first

/-- Read a value that may stand behind a jump. -/
def readOptionalValue (g : Grammar) : Reader Code := do
  if ← sees atExpression then g.anyExpression else return []

/-- Read a jump out of a loop or block. A label is no part of the value behind it. -/
def readBreak (g : Grammar) (braces : Bool) : Reader Code := do
  let start ← inOrder [word "break", optionalLifetime]
  guard (start.length = 1 || !(← sees (atSign ":")))
  if ← sees fun tokens => atExpression tokens && (braces || !atGroup '\x7b' tokens) then
    return start ++ (← g.anyExpression)
  else return start

/-- Read a jump to another function, which has no form. -/
def readBecome (g : Grammar) : Reader Code := asWritten do
  let _ ← inOrder [word "become", g.anyExpression]
  return none

/-- Read a condition that binds names. -/
def readLet (g : Grammar) (braces : Bool) : Reader Code := do
  let start ← word "let"
  let (_, pattern) ← g.readAlternatives
  let equals ← sign "="
  let value ← g.operators braces .comparison (← g.operand braces)
  return start ++ pattern ++ equals ++ value.words

-- ── operands ─────────────────────────────────────────────────────────────────────

/-- Read an operand without signs in front and accesses behind. -/
def readAtom (g : Grammar) (braces : Bool) : Reader ExpressionText := do
  let tokens ← tokens
  let plain := fun (reader : Reader Code) => do return ExpressionText.plain (← reader)
  if let some words ← g.readBlockLike? then return ⟨words, .block, true⟩
  else if atLiteral tokens then plain literal
  else if atAsyncBlock tokens then
    plain (inOrder [word "async", optionalWord "move", g.readBlock])
  else if atClosure tokens then plain (g.readClosure braces)
  else if atBuiltIn tokens then return ⟨← readBuiltIn, .irregular, false⟩
  else if atPath tokens then g.readPathOperand braces
  else if atGroup '(' tokens then
    return .plain (Code.group (← inside '(' (whole g.anyExpression)))
  else if atGroup '[' tokens then return .plain (Code.list (← inside '[' g.readItems))
  else if atWord "break" tokens then plain (g.readBreak braces)
  else if atWord "continue" tokens then plain (inOrder [word "continue", optionalLifetime])
  else if atWord "return" tokens then plain (inOrder [word "return", g.readOptionalValue])
  else if atWord "yield" tokens then plain (inOrder [word "yield", g.readOptionalValue])
  else if atWord "become" tokens then return ⟨← g.readBecome, .irregular, false⟩
  else if atWord "let" tokens then plain (g.readLet braces)
  else if atSign ".." tokens then g.readRange braces []
  else plain (word "_")

/-- The numbers of the fields in a literal with dots in it, and whether a dot is last. -/
def fieldNumbers? (text : String) : Option (List Nat × Bool) := do
  let pieces := Text.splitText '.' text
  guard (1 < pieces.length)
  let trailing := pieces.getLast? = some ""
  let numbers ← (if trailing then pieces.dropLast else pieces).mapM index?
  return (numbers, trailing)

/-- Read the name behind a dot, with a call if there is one. -/
def readAccess (g : Grammar) : Reader Code := do
  if ← word? "await" then return ["await"]
  let (isName, member) ← readMember
  if isName && (← sees (atSign "::")) then
    let arguments ← inOrder [sign "::", g.arguments]
    return member ++ arguments ++ Code.group (← inside '(' (whole g.anyExpression))
  else return member

/-- Read what is behind a dot: numbers of fields that a dot parts, or a name. -/
def readMembers (g : Grammar) : Reader Code := do
  match ← tokens with
  | .literal text :: _ =>
    match fieldNumbers? text with
    | some (numbers, trailing) =>
      advance 1
      let fields := numbers.flatMap fun number => [".", Code.number number]
      if trailing then return fields ++ "." :: (← g.readAccess) else return fields
    | none =>
      let access ← g.readAccess
      return "." :: access
  | _ =>
    let access ← g.readAccess
    return "." :: access

/-- Read calls, indices and fields behind an operand. -/
def accessesUpTo (g : Grammar) : (fuel : Nat) → ExpressionText → Reader ExpressionText
  | 0, _ => failure
  | fuel + 1, left => do
    let tokens ← tokens
    let isRange := left.form = .range
    if atGroup '(' tokens then
      let inner ← inside '(' (whole g.anyExpression)
      g.accessesUpTo fuel (.plain (left.words ++ Code.group inner))
    else if !isRange && atDot tokens then
      let _ ← sign "."
      let members ← g.readMembers
      g.accessesUpTo fuel (.plain (left.words ++ members))
    else if atGroup '[' tokens then
      let inner ← inside '[' g.anyExpression
      g.accessesUpTo fuel (.plain (left.words ++ Code.list inner))
    else if !isRange && atSign "?" tokens then
      let mark ← sign "?"
      g.accessesUpTo fuel (.plain (left.words ++ mark))
    else return left

/-- Read what is behind an operand. Every access takes a token. -/
def readAccesses (g : Grammar) (left : ExpressionText) : Reader ExpressionText := do
  g.accessesUpTo ((← tokens).length + 1) left

/-- Read the signs in front of an operand that it is borrowed with. -/
def readBorrow : Reader Code := do
  let start ← sign "&"
  let isRaw ← sees fun tokens => atWord "raw" tokens && atWords ["mut", "const"] (tokens.drop 1)
  if isRaw then return start ++ (← inOrder [anyWord, anyWord])
  else return start ++ (← optionalWord "mut")

/-- Read a sign with one operand. -/
def readUnary : Reader Code := do
  if ← sign? "*" then return ["*"] else if ← sign? "!" then return ["!"] else sign "-"

/-- Read an operand. Attributes may not stand in front of a range; what has no form is kept
    with its attributes. -/
def readOperand (g : Grammar) (braces : Bool) : Reader ExpressionText := do
  let start ← tokens
  let attributes ← g.readAttributes
  let tokens ← tokens
  if atSign "&" tokens then
    return .plain (attributes ++ (← readBorrow) ++ (← g.operand braces).words)
  else if atSign "*" tokens || atSign "!" tokens || atSign "-" tokens then
    return .plain (attributes ++ (← readUnary) ++ (← g.operand braces).words)
  else
    let operand ← g.readAccesses (← g.readAtom braces)
    if operand.form = .irregular then
      let rest ← Reader.tokens
      return { operand with words := writtenWords (start.take (start.length - rest.length)) }
    else
      guard (attributes.isEmpty || operand.form ≠ .range)
      return operand.withAttributes attributes

/-- Read an expression that may end with its first block, as statements and the arms of a
    match do. -/
def readEarly (g : Grammar) : Reader ExpressionText := do
  let attributes ← g.readAttributes
  match ← g.readBlockLike? with
  | some words =>
    let block : ExpressionText := ⟨words, .block, true⟩
    if ← sees fun tokens => atDot tokens || atSign "?" tokens then
      let longer ← g.readAccesses block
      g.operators true .jump (longer.withAttributes attributes)
    else return block.withAttributes attributes
  | none =>
    let operand ← g.operand true
    g.operators true .jump (operand.withAttributes attributes)

end Grammar

end Bindery.Crate
