import Bindery.Crate.Grammar.Basic

/-!
# Paths and attributes

A path is made of segments, each of which may be applied to types, lifetimes and constants.
It may start from a type (`<T as U>::V`). Attributes stand in front of what they describe, or
at the start of its block.

* **`Grammar.readPath`** — a path; **`Grammar.readQualified`** — one that may start from a
  type; **`readBarePath`** — one that nothing is applied in.
* **`Grammar.readAttributes`**, **`Grammar.readInnerAttributes`** — the attributes at a place.
* **`Grammar.readOwnBlock`** — a block with attributes inside.
-/

namespace Bindery.Crate

open Reader

-- ── segments ─────────────────────────────────────────────────────────────────────

/-- Whether tokens start with the bracket of arguments. -/
def atArguments (tokens : List Token) : Bool :=
  atSign "<" tokens && !atSign "<=" tokens && !atSign "<<=" tokens

namespace Grammar

/-- Read a segment of a path. In an expression arguments have `::` in front. -/
def readSegment (g : Grammar) (inExpression : Bool) : Reader PathText := do
  if ← sees (atWords ["super", "self", "crate", "try"]) then
    return ⟨← anyWord, 1, false, true, true⟩
  let word ← if ← word? "Self" then pure ["Self"] else name
  let tokens ← tokens
  if !inExpression && atArguments tokens then
    return ⟨word ++ (← g.arguments), 1, false, false, false⟩
  else if atSign "::" tokens && atSign "<" (tokens.drop 2) then
    let mark ← sign "::"
    return ⟨word ++ mark ++ (← g.arguments), 1, false, false, false⟩
  else return ⟨word, 1, false, true, true⟩

/-- Read the segments of a path. -/
def readSegments (g : Grammar) (inExpression : Bool) : (fuel : Nat) → Reader PathText
  | 0 => failure
  | fuel + 1 => do
    let first ← g.readSegment inExpression
    let tokens ← tokens
    if atSign "::" tokens && !atGroup '(' (tokens.drop 2) then
      let mark ← sign "::"
      let rest ← g.readSegments inExpression fuel
      return ⟨first.words ++ mark ++ rest.words, rest.count + 1, false,
        first.isBare && rest.isBare, rest.endsBare⟩
    else return first

/-- Read a path. Every segment takes a token. -/
def readPath (g : Grammar) (inExpression : Bool) : Reader PathText := do
  let mark ← optionalSign "::"
  let path ← g.readSegments inExpression ((← tokens).length + 1)
  return { path with words := mark ++ path.words, rooted := !mark.isEmpty }

/-- Read a path that may start from a type in angle brackets, and tell whether it does. -/
def readQualified (g : Grammar) (inExpression : Bool) : Reader (Bool × PathText) := do
  if ← sees (atSign "<") then
    let start ← sign "<"
    let this ← g.anyType
    let trait ← if ← word? "as" then pure ("as" :: (← g.readPath false).words) else pure []
    let close ← sign ">"
    let mark ← sign "::"
    let path ← g.readSegments inExpression ((← tokens).length + 1)
    return (true, { path with words := start ++ this ++ trait ++ close ++ mark ++ path.words })
  else return (false, ← g.readPath inExpression)

end Grammar

/-- Read words with `::` between them, none of which is applied to anything. -/
def bareSegmentsUpTo : (fuel : Nat) → Reader Code
  | 0 => failure
  | fuel + 1 => do
    guard (← sees atSegment)
    let first ← anyWord
    if ← sign? "::" then return first ++ "::" :: (← bareSegmentsUpTo fuel) else return first

/-- Read a path in which nothing is applied. -/
def readBarePath : Reader Code := do
  let mark ← optionalSign "::"
  return mark ++ (← bareSegmentsUpTo ((← tokens).length + 1))

-- ── attributes ───────────────────────────────────────────────────────────────────

/-- Whether tokens start with any group. -/
def atAnyGroup (tokens : List Token) : Bool :=
  atGroup '(' tokens || atGroup '[' tokens || atGroup '\x7b' tokens

/-- Whether tokens start with an attribute that stands `within` what it describes; a mark
    alone starts one in front of it. -/
def atAttribute (within : Bool) (tokens : List Token) : Bool :=
  atSign "#" tokens && (!within || atSign "!" (tokens.drop 1))

namespace Grammar

/-- Read what an attribute says: a path, with anything in brackets or a value behind it. -/
def readMeaning (g : Grammar) : Reader Code := do
  let path ← if ← word? "unsafe" then pure ["unsafe"] else readBarePath
  let tokens ← tokens
  if atAnyGroup tokens then return path ++ (← anyGroup).2
  else if atSign "=" tokens && !atSign "==" tokens && !atSign "=>" tokens then
    let equals ← sign "="
    guard !(← sees fun tokens => atAttribute false tokens && atGroup '[' (tokens.drop 1))
    return path ++ equals ++ (← g.anyExpression)
  else return path

/-- Read an attribute that stands `within` what it describes, or in front of it. -/
def readAttribute (g : Grammar) (within : Bool) : Reader Code := do
  let mark ← if within then inOrder [sign "#", sign "!"] else sign "#"
  return mark ++ Code.list (← inside '[' g.readMeaning)

/-- Read attributes as long as tokens start with one. -/
def attributesUpTo (g : Grammar) (within : Bool) : (fuel : Nat) → Reader Code
  | 0 => failure
  | fuel + 1 => do
    if ← sees (atAttribute within) then
      let first ← g.readAttribute within
      return first ++ (← g.attributesUpTo within fuel)
    else return []

/-- Read the attributes in front of something. -/
def readAttributes (g : Grammar) : Reader Code := do
  g.attributesUpTo false ((← tokens).length + 1)

/-- Read the attributes at the start of a block. -/
def readInnerAttributes (g : Grammar) : Reader Code := do
  g.attributesUpTo true ((← tokens).length + 1)

/-- Read a block that may start with attributes. -/
def readOwnBlock (g : Grammar) : Reader Code := do
  return Code.block (← inside '\x7b' (inOrder [g.readInnerAttributes, g.statements]))

end Grammar

end Bindery.Crate
