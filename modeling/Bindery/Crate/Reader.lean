import Bindery.Crate.Token

/-!
# Reading tokens

Grammars are written as readers, which take tokens from the front of a list or fail. What
they take they give back as words in the form in which it is written again.

* **`Source`** — what is left to read, and whether anything so far had no form of its own.
* **`Reader`** — takes tokens from the front of a source, or fails.
* **`Reader.inside`** — reads all of a group; **`Reader.asWritten`** keeps the tokens of
  what has no form.
* **`Reader.listed`** — reads a list whose items a sign parts.
-/

namespace Bindery.Crate

/-- What is left to read, and whether something before it is `irregular`: kept as it was
    written, because it has no form of its own. -/
structure Source where
  tokens : List Token
  irregular : Bool

/-- Takes tokens from the front of a source, or fails. -/
abbrev Reader := StateT Source Option

-- ── what tokens start with ───────────────────────────────────────────────────────

/-- Whether tokens start with a sign of several characters, which must not be parted. -/
def startsSign : List Char → List Token → Bool
  | [], _ => true
  | [c], .sign d _ :: _ => c = d
  | c :: cs, .sign d joint :: rest => c = d && joint && startsSign cs rest
  | _ :: _, _ => false

/-- Whether tokens start with a sign. -/
def atSign (sign : String) (tokens : List Token) : Bool := startsSign sign.toList tokens

/-- Whether tokens start with a word. -/
def atWord (word : String) : List Token → Bool
  | .name other :: _ => word = other
  | _ => false

/-- Whether tokens start with one of several words. -/
def atWords (words : List String) (tokens : List Token) : Bool := words.any (atWord · tokens)

/-- Whether tokens start with a group in brackets of a kind. -/
def atGroup (bracket : Char) : List Token → Bool
  | .group other _ :: _ => bracket = other
  | _ => false

/-- Whether tokens start with a lifetime. -/
def atLifetime : List Token → Bool
  | .lifetime _ :: _ => true
  | _ => false

/-- Whether tokens start with a name that is no keyword. -/
def atName : List Token → Bool
  | .name word :: _ => word ∉ keywords && word ∉ restrictedWords
  | _ => false

/-- Whether tokens start with any word. -/
def atAnyWord : List Token → Bool
  | .name _ :: _ => true
  | _ => false

/-- Whether tokens start with a literal; a number may have a minus in front. -/
def atLiteral : List Token → Bool
  | .literal _ :: _ => true
  | .name word :: _ => word = "true" || word = "false"
  | .sign '-' _ :: .literal text :: _ => text.toList.head?.any Text.isAsciiDigit
  | _ => false

/-- Whether tokens start with a literal text. -/
def atText : List Token → Bool
  | .literal text :: _ => text.startsWith "\"" || text.startsWith "r"
  | _ => false

/-- Whether tokens start with a colon that is not the first of two. -/
def atColon (tokens : List Token) : Bool := atSign ":" tokens && !atSign "::" tokens

/-- Whether tokens start with a dot that is not the first of two. -/
def atDot (tokens : List Token) : Bool := atSign "." tokens && !atSign ".." tokens

/-- The words that a path may start with beside names. -/
def pathStarts : List String := ["super", "self", "Self", "crate"]

/-- Whether tokens start with a segment of a path. -/
def atSegment (tokens : List Token) : Bool := atName tokens || atWords pathStarts tokens

namespace Reader

-- ── single tokens ────────────────────────────────────────────────────────────────

/-- The tokens that are left. -/
def tokens : Reader (List Token) := do return (← get).tokens

/-- Whether the tokens that are left pass a test. -/
def sees (test : List Token → Bool) : Reader Bool := do return test (← tokens)

/-- Pass over tokens. -/
def advance (count : Nat) : Reader Unit :=
  modify fun source => { source with tokens := source.tokens.drop count }

/-- Take a sign if it is there. -/
def sign? (sign : String) : Reader Bool := do
  if ← sees (atSign sign) then
    advance sign.length
    return true
  else return false

/-- Take a sign. -/
def sign (sign : String) : Reader Code := do
  guard (← sign? sign)
  return [sign]

/-- Take a sign if it is there, as words. -/
def optionalSign (sign : String) : Reader Code := do
  return if ← sign? sign then [sign] else []

/-- Take a word if it is there. -/
def word? (word : String) : Reader Bool := do
  if ← sees (atWord word) then
    advance 1
    return true
  else return false

/-- Take a word. -/
def word (word : String) : Reader Code := do
  guard (← word? word)
  return [word]

/-- Take a word if it is there, as words. -/
def optionalWord (word : String) : Reader Code := do
  return if ← word? word then [word] else []

/-- Take a name that is no keyword. -/
def name : Reader Code := do
  match ← tokens with
  | .name word :: _ =>
    guard (word ∉ keywords && word ∉ restrictedWords)
    advance 1
    return [word]
  | _ => failure

/-- Take any word. -/
def anyWord : Reader Code := do
  match ← tokens with
  | .name word :: _ =>
    advance 1
    return [word]
  | _ => failure

/-- Take a name or an underscore. -/
def nameOrBlank : Reader Code := do
  if ← word? "_" then return ["_"] else name

/-- Take a lifetime if it is there, as words. -/
def optionalLifetime : Reader Code := do
  match ← tokens with
  | .lifetime text :: _ =>
    advance 1
    return [text]
  | _ => return []

/-- Take a lifetime. -/
def lifetime : Reader Code := do
  guard (← sees atLifetime)
  optionalLifetime

/-- Take a literal. -/
def literal : Reader Code := do
  let tokens ← tokens
  guard (atLiteral tokens)
  match tokens with
  | .sign _ _ :: .literal text :: _ =>
    advance 2
    return ["-", text]
  | token :: _ =>
    advance 1
    return token.words
  | [] => failure

-- ── groups ───────────────────────────────────────────────────────────────────────

/-- Read all of the inside of a group in brackets of a kind. -/
def inside {α : Type} (bracket : Char) (reader : Reader α) : Reader α := fun source =>
  match source.tokens with
  | .group other inner :: rest =>
    if bracket = other then
      match reader ⟨inner, source.irregular⟩ with
      | some (result, ⟨[], irregular⟩) => some (result, ⟨rest, irregular⟩)
      | _ => none
    else none
  | _ => none

/-- Take a group in brackets of any kind, as it is written, and tell its bracket. -/
def anyGroup : Reader (Char × Code) := do
  match ← tokens with
  | .group bracket inner :: _ =>
    advance 1
    return (bracket, (Token.group bracket inner).words)
  | _ => failure

/-- Take a group in brackets of a kind, as it is written. -/
def rawGroup (bracket : Char) : Reader Code := do
  guard (← sees (atGroup bracket))
  return (← anyGroup).2

-- ── forms ────────────────────────────────────────────────────────────────────────

/-- Read something, and keep its tokens as they were written if it has no form. -/
def asWritten (reader : Reader (Option Code)) : Reader Code := do
  let start ← tokens
  match ← reader with
  | some words => return words
  | none =>
    let rest ← tokens
    modify fun source => { source with irregular := true }
    return writtenWords (start.take (start.length - rest.length))

/-- Read the items of a list up to tokens that end it, each with whether the sign follows
    that parts it from the next one. -/
def listedUpTo {α : Type} (separator : String) (ends : List Token → Bool) (item : Reader α) :
    (fuel : Nat) → Reader (List (α × Bool))
  | 0 => failure
  | fuel + 1 => do
    if ← sees ends then return []
    let first ← item
    if ← sees ends then return [(first, false)]
    guard (← sign? separator)
    return (first, true) :: (← listedUpTo separator ends item fuel)

/-- Read the items of a list, parted by commas, up to tokens that end it. Every item takes a
    token or is followed by a comma. -/
def listed {α : Type} (ends : List Token → Bool) (item : Reader α) :
    Reader (List (α × Bool)) := do
  listedUpTo "," ends item ((← tokens).length + 1)

/-- The words of a list whose items commas part. -/
def listWords : List (Code × Bool) → Code
  | [] => []
  | (words, comma) :: rest => words ++ (if comma then [","] else []) ++ listWords rest

/-- Read the items of a list that takes up all of a group. -/
def whole (item : Reader Code) : Reader Code := do
  return listWords (← listed List.isEmpty item)

/-- The words of a list in which some items go in front of the others. The last of those in
    front gets a comma if others follow. -/
def sortedWords (items : List ((Bool × Code) × Bool)) : Code :=
  let front := (items.filter (·.1.1)).map fun ((_, words), comma) => (words, comma)
  let back := (items.filter (!·.1.1)).map fun ((_, words), comma) => (words, comma)
  let parted := back.isEmpty || front.getLast?.all (·.2)
  listWords front ++ (if parted then [] else [","]) ++ listWords back

/-- Read items as long as a plus follows them, up to tokens that end the sum. A plus may be
    last. -/
def summedUpTo (ends : List Token → Bool) (item : Reader Code) : (fuel : Nat) → Reader Code
  | 0 => failure
  | fuel + 1 => do
    if ← sees ends then return []
    let first ← item
    if ← sign? "+" then return first ++ "+" :: (← summedUpTo ends item fuel) else return first

/-- Read the items of a sum up to tokens that end it. -/
def summed (ends : List Token → Bool) (item : Reader Code) : Reader Code := do
  summedUpTo ends item ((← tokens).length + 1)

/-- Read things until the tokens are used up. -/
def allUpTo (item : Reader Code) : (fuel : Nat) → Reader Code
  | 0 => failure
  | fuel + 1 => do
    if ← sees List.isEmpty then return []
    let first ← item
    return first ++ (← allUpTo item fuel)

/-- Read things until the tokens are used up. Each of them takes a token. -/
def all (item : Reader Code) : Reader Code := do
  allUpTo item ((← tokens).length + 1)

/-- Words of several readers, one after the other. -/
def inOrder : List (Reader Code) → Reader Code
  | [] => return []
  | first :: rest => do
    let words ← first
    return words ++ (← inOrder rest)

end Reader

end Bindery.Crate
