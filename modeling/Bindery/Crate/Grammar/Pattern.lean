import Bindery.Crate.Grammar.Type
import Bindery.Text.Split

/-!
# Patterns

Patterns are names, literals, ranges, and the shapes of tuples, structs and slices. The old
sign of a range that holds its end is written as the new one.

* **`Grammar.readPattern`** — a pattern; **`Grammar.readAlternatives`** — several of them.
* **`readMember`** — the name or the number of a field.
-/

namespace Bindery.Crate

open Reader

-- ── fields ───────────────────────────────────────────────────────────────────────

/-- The value of digits in a base, underscores left aside, if there is one. -/
def indexOfDigits? (base : Nat) (cs : List Char) : Option Nat :=
  let digits := cs.filter (· ≠ '_')
  let values := digits.map fun c =>
    if Text.isAsciiDigit c then c.toNat - 48 else if isHex c then c.toNat % 32 + 9 else 16
  let value := values.foldl (fun value digit => value * base + digit) 0
  if digits.isEmpty || values.any (base ≤ ·) || 4294967296 ≤ value then none else some value

/-- The number of a field that a literal stands for: a whole number of 32 bits without a
    suffix. -/
def index? (text : String) : Option Nat :=
  match text.toList with
  | '0' :: 'x' :: digits => indexOfDigits? 16 digits
  | '0' :: 'o' :: digits => indexOfDigits? 8 digits
  | '0' :: 'b' :: digits => indexOfDigits? 2 digits
  | digits => indexOfDigits? 10 digits

/-- Read the name or the number of a field, and tell whether it is a name. -/
def readMember : Reader (Bool × Code) := do
  match ← tokens with
  | .literal text :: _ =>
    match index? text with
    | some index =>
      advance 1
      return (false, [Code.number index])
    | none => failure
  | _ => return (true, ← name)

-- ── ranges ───────────────────────────────────────────────────────────────────────

/-- Whether tokens start with the sign of a pattern behind which another one may stand. -/
def atAlternative (tokens : List Token) : Bool :=
  atSign "|" tokens && !atSign "||" tokens && !atSign "|=" tokens

/-- Whether tokens end a range in a pattern. -/
def endsRange (tokens : List Token) : Bool :=
  tokens.isEmpty || atSign "|" tokens || atSign "=" tokens || atColon tokens
    || atSign "," tokens || atSign ";" tokens || atWord "if" tokens

/-- Read the sign of a range, and tell whether the range holds its end. -/
def readRangeSign : Reader (Bool × Code) := do
  if ← sign? "..=" then return (true, ["..="])
  else
    guard !(← sees (atSign "..."))
    return (false, ← sign "..")

/-- Read the sign of a range in a pattern, and tell whether the range holds its end. -/
def readPatternRangeSign : Reader (Bool × Code) := do
  if ← sign? "..." then return (true, ["..="]) else readRangeSign

/-- Whether tokens start with a pattern that starts with a path, other than a single name. -/
def atPathPattern (tokens : List Token) : Bool :=
  let second := tokens.drop 1
  (atName tokens
      && (atSign "::" second || atSign "!" second || atGroup '\x7b' second || atGroup '(' second
        || atSign ".." second))
    || (atWord "self" tokens && atSign "::" second)
    || atSign "::" tokens || atSign "<" tokens || atWords ["Self", "super", "crate"] tokens

namespace Grammar

/-- Read the end of a range, if there is one. -/
def readRangeBound (g : Grammar) : Reader (Option Code) := do
  let tokens ← tokens
  if endsRange tokens then return none
  else if atLiteral tokens then return some (← literal)
  else if atSegment tokens || atSign "::" tokens || atSign "<" tokens then
    return some (← g.readQualified true).2.words
  else return some (← inOrder [word "const", g.readOwnBlock])

/-- Read the rest of a range whose start has been read. -/
def readRangeFrom (g : Grammar) (start : Code) : Reader (PatternForm × Code) := do
  let (closed, mark) ← readPatternRangeSign
  match ← g.readRangeBound with
  | some bound => return (.other, start ++ mark ++ bound)
  | none =>
    guard !closed
    return (.openRange, start ++ mark)

/-- Read a literal or a range that starts with one. -/
def readLiteralPattern (g : Grammar) : Reader (PatternForm × Code) := do
  match ← g.readRangeBound with
  | some start => if ← sees (atSign "..") then g.readRangeFrom start else return (.other, start)
  | none => failure

/-- Read a range without a start, or the rest of a list. -/
def readRangeTo (g : Grammar) : Reader (PatternForm × Code) := do
  let (closed, mark) ← readRangeSign
  match ← g.readRangeBound with
  | some bound => return (.openRange, mark ++ bound)
  | none =>
    guard !closed
    return (.rest, mark)

-- ── lists and fields ─────────────────────────────────────────────────────────────

/-- Read the patterns behind another one, each with the sign in front. -/
def alternativesUpTo (g : Grammar) : (fuel : Nat) → Reader (Bool × Code)
  | 0 => failure
  | fuel + 1 => do
    if ← sees atAlternative then
      let mark ← sign "|"
      let (_, first) ← g.pattern
      return (true, mark ++ first ++ (← g.alternativesUpTo fuel).2)
    else return (false, [])

/-- Read one or several patterns; a sign may stand in front of the first one. -/
def readAlternatives (g : Grammar) : Reader (PatternForm × Code) := do
  let mark ← optionalSign "|"
  let (form, first) ← g.pattern
  let (several, others) ← g.alternativesUpTo ((← tokens).length + 1)
  return (if several || !mark.isEmpty then .other else form, mark ++ first ++ others)

/-- Read patterns in a tuple up to the end of its group. -/
def readPatterns (g : Grammar) : Reader Code := whole do return (← g.readAlternatives).2

/-- Read the items of a slice. None of them is a range that an end lacks. -/
def readSliceItems (g : Grammar) : Reader Code := whole do
  let (form, words) ← g.readAlternatives
  guard (form ≠ .openRange)
  return words

/-- Read a field in the pattern of a struct. A boxed one has no form. -/
def readFieldPattern (g : Grammar) : Reader Code := asWritten do
  let boxed ← word? "box"
  let mode ← inOrder [optionalWord "ref", optionalWord "mut"]
  if boxed || !mode.isEmpty then
    let words := mode ++ (← name)
    return if boxed then none else some words
  else
    let (isName, member) ← readMember
    if !isName || (← sees (atSign ":")) then
      let mark ← sign ":"
      return some (member ++ mark ++ (← g.readAlternatives).2)
    else return some member

/-- Read the fields in the pattern of a struct. Two dots stand for the rest of them. -/
def fieldPatternsUpTo (g : Grammar) : (fuel : Nat) → Reader Code
  | 0 => failure
  | fuel + 1 => do
    if ← sees List.isEmpty then return []
    let attributes ← g.readAttributes
    if ← sign? ".." then return attributes ++ [".."]
    let field ← g.readFieldPattern
    if ← sees List.isEmpty then return attributes ++ field
    let comma ← sign ","
    return attributes ++ field ++ comma ++ (← g.fieldPatternsUpTo fuel)

-- ── patterns ─────────────────────────────────────────────────────────────────────

/-- Read a pattern that starts with a path. -/
def readPathPattern (g : Grammar) : Reader (PatternForm × Code) := do
  let (qualified, path) ← g.readQualified true
  let tokens ← tokens
  if !qualified && path.isBare && atSign "!" tokens && !atSign "!=" tokens then
    let mark ← sign "!"
    return (.other, path.words ++ mark ++ (← anyGroup).2)
  else if atGroup '\x7b' tokens then
    let fields ← inside '\x7b' do g.fieldPatternsUpTo ((← Reader.tokens).length + 1)
    return (.other, path.words ++ Code.block fields)
  else if atGroup '(' tokens then
    return (.other, path.words ++ Code.group (← inside '(' g.readPatterns))
  else if atSign ".." tokens then g.readRangeFrom path.words
  else return (.other, path.words)

/-- Read a name that a value is bound to, and the pattern that the value has. -/
def readNamePattern (g : Grammar) : Reader Code := do
  let start ← inOrder [optionalWord "ref", optionalWord "mut"]
  let bound ← if ← word? "self" then pure ["self"] else name
  if ← sign? "@" then return start ++ bound ++ "@" :: (← g.pattern).2
  else return start ++ bound

/-- Read a boxed pattern, which has no form. -/
def readBoxed (g : Grammar) : Reader Code := asWritten do
  let _ ← word "box"
  let _ ← g.pattern
  return none

/-- Read a pattern. -/
def readPattern (g : Grammar) : Reader (PatternForm × Code) := do
  let tokens ← tokens
  let plain := fun (reader : Reader Code) => do return (PatternForm.other, ← reader)
  if atPathPattern tokens then g.readPathPattern
  else if atWord "_" tokens then plain (word "_")
  else if atWord "box" tokens then return (.irregular, ← g.readBoxed)
  else if atSign "-" tokens || atLiteral tokens || atWord "const" tokens then
    g.readLiteralPattern
  else if atWords ["ref", "mut", "self"] tokens || atName tokens then plain g.readNamePattern
  else if atSign "&" tokens then
    let start ← inOrder [sign "&", optionalWord "mut"]
    return (.other, start ++ (← g.pattern).2)
  else if atGroup '(' tokens then
    return (.other, Code.group (← inside '(' g.readPatterns))
  else if atGroup '[' tokens then
    return (.other, Code.list (← inside '[' g.readSliceItems))
  else g.readRangeTo

end Grammar

end Bindery.Crate
