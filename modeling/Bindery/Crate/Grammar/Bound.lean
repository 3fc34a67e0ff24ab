import Bindery.Crate.Grammar.Path

/-!
# Bounds and parameters

What a type has to satisfy: traits it has, and lifetimes it outlives. Parameters of types and
functions carry bounds; further ones stand behind `where`. Bounds that there are none of are
left out with the sign in front of them.

* **`Grammar.readBound`** — a bound.
* **`Grammar.readBinder`** — the parameters that a type is made `for`;
  **`Grammar.readParameters`** — those of something that is declared.
* **`Grammar.readWhere`** — the bounds behind `where`.
-/

namespace Bindery.Crate

open Reader

-- ── what bounds start and end with ───────────────────────────────────────────────

/-- Whether tokens start with a bound behind a plus, which may be in brackets where constant
    traits are allowed. -/
def atBound (constant : Bool) (tokens : List Token) : Bool :=
  atAnyWord tokens || atSign "::" tokens || atSign "?" tokens || atLifetime tokens
    || atGroup '(' tokens || (constant && atGroup '[' tokens)

/-- Whether tokens end the bounds of a parameter. -/
def endsParameter (tokens : List Token) : Bool :=
  tokens.isEmpty || atSign "," tokens || atSign ">" tokens

/-- Whether tokens end the bounds of a type behind `where`. -/
def endsPredicate (tokens : List Token) : Bool :=
  tokens.isEmpty || atGroup '\x7b' tokens || atSign "," tokens || atSign ";" tokens
    || atColon tokens || atSign "=" tokens

/-- Whether tokens start with parameters rather than with a path that starts from a type. -/
def atParameters (tokens : List Token) : Bool :=
  let second := tokens.drop 1
  let third := tokens.drop 2
  atSign "<" tokens
    && (atSign ">" second || atSign "#" second || atWord "const" second
      || ((atLifetime second || atName second)
        && (atSign ">" third || atSign "," third || atColon third || atSign "=" third)))

/-- Read a name or a lifetime that a type captures, and tell whether it is a lifetime. -/
def readCapture : Reader (Bool × Code) := do
  if ← sees atLifetime then return (true, ← lifetime)
  else if ← word? "Self" then return (false, ["Self"])
  else return (false, ← name)

/-- Read what a type captures; lifetimes go first. -/
def readCaptures : Reader Code := do
  let start ← inOrder [word "use", sign "<"]
  let names ← listed (atSign ">") readCapture
  return start ++ sortedWords names ++ (← sign ">")

namespace Grammar

-- ── parameters with bounds ───────────────────────────────────────────────────────

/-- Read the result of a function if it is there. -/
def readResult (g : Grammar) (sum : Bool) : Reader Code := do
  if ← sign? "->" then return "->" :: (← g.type sum).2 else return []

/-- Read a path whose last segment may have parameters in round brackets. -/
def readTraitPath (g : Grammar) : Reader Code := do
  let path ← g.readPath false
  let tokens ← tokens
  if path.endsBare
      && (atGroup '(' tokens || (atSign "::" tokens && atGroup '(' (tokens.drop 2))) then
    let _ ← sign? "::"
    let parameters ← inside '(' (whole g.anyType)
    return path.words ++ Code.group parameters ++ (← g.readResult false)
  else return path.words

/-- Read a lifetime that is a parameter, with the lifetimes that it outlives. -/
def readLifetimeParameter : Reader Code := do
  let name ← lifetime
  if ← sign? ":" then
    let bounds ← summed endsParameter lifetime
    return if bounds.isEmpty then name else name ++ ":" :: bounds
  else return name

/-- Read a constant: a literal, a name or a block. -/
def readConstant (g : Grammar) : Reader Code := do
  let tokens ← tokens
  if atLiteral tokens then literal
  else if atName tokens then name
  else g.readOwnBlock

/-- Read a constant that is a parameter. -/
def readConstantParameter (g : Grammar) : Reader Code := do
  let declared ← inOrder [word "const", name, sign ":", g.anyType]
  if ← sign? "=" then return declared ++ "=" :: (← g.readConstant) else return declared

/-- Read the bounds of something that is declared, with the colon in front. If there are none,
    the colon is left out. -/
def readDeclaredBounds (g : Grammar) (ends : List Token → Bool) : Reader Code := do
  if ← sign? ":" then
    let bounds ← summed ends (g.bound .declared)
    return if bounds.isEmpty then [] else ":" :: bounds
  else return []

/-- Read a type that is a parameter. -/
def readTypeParameter (g : Grammar) : Reader Code := do
  let bounded ← inOrder
    [name, g.readDeclaredBounds fun tokens => endsParameter tokens || atSign "=" tokens]
  if ← sign? "=" then return bounded ++ "=" :: (← g.anyType) else return bounded

/-- Read a parameter with its attributes, and tell whether it is a lifetime. -/
def readParameter (g : Grammar) : Reader (Bool × Code) := do
  let attributes ← g.readAttributes
  let tokens ← tokens
  if atLifetime tokens then return (true, attributes ++ (← readLifetimeParameter))
  else if atWord "const" tokens then return (false, attributes ++ (← g.readConstantParameter))
  else return (false, attributes ++ (← g.readTypeParameter))

/-- Read a parameter of something that is declared, which may have no name. -/
def readDeclaredParameter (g : Grammar) : Reader (Bool × Code) := do
  let attributes ← g.readAttributes
  if ← word? "_" then return (false, attributes ++ ["_"])
  let (isLifetime, words) ← g.readParameter
  return (isLifetime, attributes ++ words)

/-- Read the parameters of something that is declared, if there are any. Lifetimes go first;
    brackets around nothing are left out. -/
def readParameters (g : Grammar) : Reader Code := do
  if ← sign? "<" then
    let parameters ← listed (atSign ">") g.readDeclaredParameter
    let close ← sign ">"
    return if parameters.isEmpty then [] else "<" :: sortedWords parameters ++ close
  else return []

/-- Read the parameters that a type is made for. -/
def readBinder (g : Grammar) : Reader Code := do
  let start ← inOrder [word "for", sign "<"]
  let parameters ← listed (atSign ">") g.readParameter
  let words := listWords (parameters.map fun ((_, words), comma) => (words, comma))
  return start ++ words ++ (← sign ">")

/-- Read the parameters that a type is made for, if there are any. -/
def readOptionalBinder (g : Grammar) : Reader Code := do
  if ← sees (atWord "for") then g.readBinder else return []

-- ── bounds ───────────────────────────────────────────────────────────────────────

/-- Read the mark of a constant trait if it is there. -/
def readConstantMark : Reader Bool := do
  if ← sees (atGroup '[') then
    let _ ← inside '[' (word "const")
    return true
  else word? "const"

/-- Read a trait with what it is made for and its question mark. One that is constant has no
    form. -/
def readTrait (g : Grammar) (kinds : BoundKinds) : Reader (Option Code) := do
  let binder ← g.readOptionalBinder
  let constant ← readConstantMark
  guard (kinds.constant || !constant)
  let maybe ← optionalSign "?"
  guard (maybe.isEmpty || binder.isEmpty)
  let path ← g.readTraitPath
  return if constant then none else some (maybe ++ binder ++ path)

/-- Read a bound. -/
def readBound (g : Grammar) (kinds : BoundKinds) : Reader Code := do
  let tokens ← tokens
  if atLifetime tokens then lifetime
  else if atWord "use" tokens then
    guard kinds.captures
    readCaptures
  else asWritten do
    if atGroup '(' tokens then
      return (← inside '(' (g.readTrait kinds)).map Code.group
    else g.readTrait kinds

/-- Read bounds, several of them where `sum` says so, and tell whether one of them is a trait.
    A plus may be last. -/
def boundsUpTo (g : Grammar) (kinds : BoundKinds) (sum : Bool) : (fuel : Nat) → Reader (Bool × Code)
  | 0 => failure
  | fuel + 1 => do
    let isTrait ← sees fun tokens => !atLifetime tokens && !atWord "use" tokens
    let first ← g.bound kinds
    if sum && (← sign? "+") then
      if ← sees (atBound kinds.constant) then
        let (others, words) ← g.boundsUpTo kinds sum fuel
        return (isTrait || others, first ++ "+" :: words)
      else return (isTrait, first ++ ["+"])
    else return (isTrait, first)

/-- Read bounds at least one of which is a trait. -/
def readTraitBounds (g : Grammar) (kinds : BoundKinds) (sum : Bool) : Reader Code := do
  let (hasTrait, words) ← g.boundsUpTo kinds sum ((← tokens).length + 1)
  guard hasTrait
  return words

/-- Read a bound behind `where`. -/
def readPredicate (g : Grammar) : Reader Code := do
  if ← sees fun tokens => atLifetime tokens && atSign ":" (tokens.drop 1) then
    inOrder [lifetime, sign ":", summed endsPredicate lifetime]
  else
    inOrder [g.readOptionalBinder, g.anyType, sign ":", summed endsPredicate (g.bound .declared)]

/-- Read the bounds behind `where`. -/
def predicatesUpTo (g : Grammar) : (fuel : Nat) → Reader Code
  | 0 => failure
  | fuel + 1 => do
    if ← sees endsPredicate then return []
    let first ← g.readPredicate
    if ← sign? "," then return first ++ "," :: (← g.predicatesUpTo fuel) else return first

/-- Read the bounds behind `where` if it is there; without bounds it is left out. -/
def readWhere (g : Grammar) : Reader Code := do
  if ← word? "where" then
    guard !(← sees atParameters)
    let predicates ← g.predicatesUpTo ((← tokens).length + 1)
    return if predicates.isEmpty then [] else "where" :: predicates
  else return []

end Grammar

end Bindery.Crate
