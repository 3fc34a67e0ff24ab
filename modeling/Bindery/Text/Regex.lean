import Bindery.Text.Char

/-!
# Regular expressions and patterns

Expressions that match parts of a line. Of all matches at a place the longest counts. They
are written in the basic or in the extended style, which differ in the signs that need a
backslash. A text is cut into signs first; a fault is the last sign of a text that cannot be
read any further, so that of two faults the one in front is found.

A pattern is matched as a whole. Some of its characters stand for others: `*` for any text, `?`
for any character, and a set in square brackets for one of its characters. A quoted character
stands for itself.

* **`Regex`** — an expression; **`Regex.literal`** — the one that matches a text only.
* **`Regex.find?`** — the first match of an expression in a line.
* **`RegexFault`** — why a text is no expression.
* **`RegexSign`** — the signs of a text.
* **`Regex.ofText`** — the expression that a text is.
* **`Pattern.ofMarks`** — a text as a pattern.
* **`Pattern.accepts`** — whether a pattern matches a whole text.
* **`Pattern.dropFront`**, **`Pattern.dropBack`** — a text without what a pattern matches
  at one of its ends.
-/

namespace Bindery.Text

/-- An expression. -/
inductive Regex where
  | empty
  | char (c : Char)
  | any
  | oneOf (set : CharSet)
  | start
  | stop
  | edge (begins ends : Bool)
  | group (number : Nat) (inner : Regex)
  | again (number : Nat)
  | sequence (first second : Regex)
  | either (first second : Regex)
  | times (least : Nat) (most : Option Nat) (inner : Regex)
deriving DecidableEq

namespace Regex

/-- The expression that matches a text only. -/
def literal (cs : List Char) : Regex := cs.foldr (fun c rest => .sequence (.char c) rest) .empty

-- ── matching ─────────────────────────────────────────────────────────────────────

/-- A place in a line while it is matched: what is behind it, last first; what is left;
    and the texts of the groups. -/
structure Place where
  before : List Char
  rest : List Char
  groups : List (Nat × List Char)
deriving DecidableEq

/-- Whether a character is part of a word. -/
def isWordChar (c : Char) : Bool := isAsciiAlphanumeric c || c = '_'

/-- Go on behind some characters. -/
def Place.advance (place : Place) (count : Nat) : Place :=
  { place with
    before := (place.rest.take count).reverse ++ place.before
    rest := place.rest.drop count }

/-- Whether two characters are the same, or differ in case only if that does not count. -/
def sameChar (anyCase : Bool) (a b : Char) : Bool := a = b || (anyCase && toLower a = toLower b)

/-- The places where a match that starts at a place can end. `fuel` bounds the repetitions. -/
def ends (anyCase : Bool) : (fuel : Nat) → Regex → Place → List Place
  | 0, _, _ => []
  | fuel + 1, regex, place =>
    match regex with
    | .empty => [place]
    | .char c =>
      match place.rest with
      | d :: _ => if sameChar anyCase c d then [place.advance 1] else []
      | [] => []
    | .any => if place.rest.isEmpty then [] else [place.advance 1]
    | .oneOf set =>
      match place.rest with
      | d :: _ =>
        let found := set.has d || (anyCase && (toLower d ++ toUpper d).any set.has)
        if found then [place.advance 1] else []
      | [] => []
    | .start => if place.before.isEmpty then [place] else []
    | .stop => if place.rest.isEmpty then [place] else []
    | .edge begins stops =>
      let before := place.before.head?.any isWordChar
      let after := place.rest.head?.any isWordChar
      if (begins && !before && after) || (stops && before && !after) then [place] else []
    | .group number inner =>
      (ends anyCase fuel inner place).map fun stop =>
        let text := place.rest.take (place.rest.length - stop.rest.length)
        { stop with groups := (number, text) :: stop.groups.filter (·.1 ≠ number) }
    | .again number =>
      match place.groups.find? (·.1 = number) with
      | some (_, text) => if text.isPrefixOf place.rest then [place.advance text.length] else []
      | none => []
    | .sequence first second => (ends anyCase fuel first place).flatMap (ends anyCase fuel second)
    | .either first second => ends anyCase fuel first place ++ ends anyCase fuel second place
    | .times 0 (some 0) _ => [place]
    | .times least most inner =>
      let further := ((ends anyCase fuel inner place).filter fun next =>
          next.rest.length < place.rest.length || least > 0).flatMap
        (ends anyCase fuel (.times (least - 1) (most.map (· - 1)) inner))
      (if least = 0 then further ++ [place] else further).eraseDups

/-- How many signs an expression has. -/
def size : Regex → Nat
  | .group _ inner => size inner + 1
  | .times least _ inner => size inner + least + 1
  | .sequence a b | .either a b => size a + size b + 1
  | _ => 1

/-- A match: what stands in front of it, its text, what follows, and the groups. -/
structure Match where
  before : List Char
  text : List Char
  after : List Char
  groups : List (Nat × List Char)
deriving DecidableEq

/-- The longest of some places. -/
def longest : List Place → Option Place
  | [] => none
  | place :: rest =>
    match longest rest with
    | some other => if other.rest.length < place.rest.length then some other else some place
    | none => some place

/-- The longest match at a place. -/
def matchAt? (anyCase : Bool) (regex : Regex) (place : Place) : Option Match :=
  let fuel := (regex.size + 2) * (place.rest.length + 2)
  (longest (ends anyCase fuel regex place)).map fun stop =>
    ⟨place.before.reverse, place.rest.take (place.rest.length - stop.rest.length), stop.rest,
      stop.groups⟩

/-- The first match at or behind a place. -/
def findFrom? (anyCase : Bool) (regex : Regex) : (before rest : List Char) → Option Match
  | before, [] => matchAt? anyCase regex ⟨before, [], []⟩
  | before, c :: rest =>
    match matchAt? anyCase regex ⟨before, c :: rest, []⟩ with
    | some found => some found
    | none => findFrom? anyCase regex (c :: before) rest

/-- The first match in a line. -/
def find? (anyCase : Bool) (regex : Regex) (line : List Char) : Option Match :=
  findFrom? anyCase regex [] line

end Regex

/-- The rules by which expressions are written. Lenient ones take signs that make no sense
    where they stand for nothing or for themselves, and know no escapes for control
    characters. -/
structure RegexSyntax where
  extended : Bool
  lenient : Bool
deriving DecidableEq

/-- Why a text is no expression. -/
inductive RegexFault where
  | bareSet | openSet | outsideSet | badClass | badRange
  | openGroup | strayClosing | openBound | badBound | tooMany
  | misplaced | badReference | endingBackslash
deriving DecidableEq

/-- The wording of a fault. -/
def RegexFault.message : RegexFault → String
  | .bareSet => "Invalid regular expression"
  | .openSet => "Unmatched [, [^, [:, [., or [="
  | .outsideSet => "character class syntax is [[:space:]], not [:space:]"
  | .badClass => "Invalid character class name"
  | .badRange => "Invalid range end"
  | .openGroup => "Unmatched ( or \\("
  | .strayClosing => "Unmatched ) or \\)"
  | .openBound => "Unmatched \\\x7b"
  | .badBound => "Invalid content of \\\x7b\\\x7d"
  | .tooMany => "Regular expression too big"
  | .misplaced => "Invalid preceding regular expression"
  | .badReference => "Invalid back reference"
  | .endingBackslash => "Trailing backslash"

-- ── signs ────────────────────────────────────────────────────────────────────────

/-- A sign of an expression, or a character that stands for itself. A repetition keeps the
    character that it is written with. -/
inductive RegexSign where
  | char (c : Char)
  | any
  | oneOf (set : CharSet)
  | start | stop | opening | closing | bar
  | edge (begins ends : Bool)
  | again (number : Nat)
  | times (c : Char) (least : Nat) (most : Option Nat)
  | fault (fault : RegexFault)
deriving DecidableEq

namespace RegexSign

/-- The letters, digits and underscores. -/
def wordSet (negated : Bool) : CharSet := ⟨negated, [.named "alnum", .char '_']⟩

/-- The white space. -/
def spaceSet (negated : Bool) : CharSet := ⟨negated, [.named "space"]⟩

/-- The control character that a letter stands for behind a backslash. -/
def control? (c : Char) : Option Char :=
  match c with
  | 'a' => some (Char.ofNat 7)
  | 'f' => some (Char.ofNat 12)
  | 'n' => some '\n'
  | 'r' => some '\r'
  | 't' => some '\t'
  | 'v' => some (Char.ofNat 11)
  | _ => none

/-- The sign of a backslash with a letter. -/
def ofLetter (lenient : Bool) (c : Char) : RegexSign :=
  if c = 'w' then .oneOf (wordSet false)
  else if c = 'W' then .oneOf (wordSet true)
  else if c = 's' then .oneOf (spaceSet false)
  else if c = 'S' then .oneOf (spaceSet true)
  else if c = 'b' then .edge true true
  else if c = '<' then .edge true false
  else if c = '>' then .edge false true
  else if c.toNat = 0x60 then .start
  else if c.toNat = 0x27 then .stop
  else if '1' ≤ c ∧ c ≤ '9' then .again (c.toNat - 48)
  else .char ((if lenient then none else control? c).getD c)

/-- The sign that a character is if it is not taken for itself. -/
def ofSpecial? (c : Char) : Option RegexSign :=
  if c = '(' then some .opening
  else if c = ')' then some .closing
  else if c = '|' then some .bar
  else if c = '+' then some (.times c 1 none)
  else if c = '?' then some (.times c 0 (some 1))
  else none

/-- Whether a sign is one behind which a caret stands for the start of the line. -/
def beginsPart : RegexSign → Bool
  | .opening | .bar | .start | .stop | .edge _ _ => true
  | _ => false

/-- The most repetitions that can be asked for. -/
def greatestCount : Nat := 32767

/-- A number of repetitions up to a comma or the closing sign: the number, if all in front
    of these are digits, or nothing if there is nothing; and the text from there on. -/
def takeCount (closing : List Char) (cs : List Char) : Option (Option Nat) × List Char :=
  let rec inside : List Char → List Char
    | [] => []
    | c :: rest => if c = ',' ∨ closing.isPrefixOf (c :: rest) then [] else c :: inside rest
  let written := inside cs
  let rest := cs.drop written.length
  if written.isEmpty then (some none, rest)
  else if written.all isAsciiDigit ∧ rest ≠ [] then
    (some (some (written.foldl (fun n c => min (greatestCount + 1) (n * 10 + (c.toNat - 48))) 0)), rest)
  else (none, rest)

/-- The repetition behind its opening brace, and the text behind it; without a sign the
    brace stands for itself. -/
def bounds (orBrace : Bool) (closing : List Char) (cs : List Char) : RegexSign × List Char :=
  let brace : RegexSign × List Char := (.char '\x7b', cs)
  let wrong (rest : List Char) : RegexSign × List Char :=
    if orBrace then brace
    else (.fault (if rest.isEmpty then .openBound else .badBound), rest)
  let closed (least : Nat) (most : Option Nat) (rest : List Char) : RegexSign × List Char :=
    if !closing.isPrefixOf rest ∨ most.any (· < least) then (.fault .badBound, rest)
    else if greatestCount < most.getD least then (.fault .tooMany, rest)
    else (.times '\x7b' least most, rest.drop closing.length)
  match takeCount closing cs with
  | (none, rest) => wrong rest
  | (some least, ',' :: rest) =>
    match takeCount closing rest with
    | (none, rest) => wrong rest
    | (some _, []) => wrong []
    | (some most, rest) => closed (least.getD 0) most rest
  | (some (some n), rest) => closed n (some n) rest
  | (some none, []) => wrong []
  | (some none, rest) => (.fault .badBound, rest)

/-- The names of the classes that a set may hold. -/
def classTitles : List String := ["alpha", "digit", "alnum", "upper", "lower", "space", "blank",
  "xdigit", "cntrl", "print", "graph", "punct"]

/-- Whether a class is begun among members, and not ended. -/
def hasOpenClass : List Member → Bool
  | .char '[' :: .char ':' :: _ => true
  | _ :: rest => hasOpenClass rest
  | [] => false

/-- What is wrong with a set: a class that is not ended or not known, a range whose ends
    are the wrong way round, or a class that is written without the brackets of a set. -/
def setFault? (set : CharSet) : Option RegexFault :=
  let colon : Member := .char ':'
  let inner := (set.members.drop 1).dropLast
  if hasOpenClass set.members then some .openSet
  else if set.members.any fun
      | .named title => !classTitles.contains title
      | _ => false
  then some .badClass
  else if set.members.any fun
      | .range first last => last.toNat < first.toNat
      | _ => false
  then some .badRange
  else if set.members.head? = some colon ∧ set.members.getLast? = some colon ∧ inner ≠ []
      ∧ inner.all fun
        | .char c => c ≠ ':'
        | _ => false
  then some .outsideSet
  else none

/-- A text with its escapes of control characters put in place. -/
def controlled : List Char → List Char
  | '\\' :: c :: rest =>
    match control? c with
    | some found => found :: controlled rest
    | none => '\\' :: c :: controlled rest
  | c :: rest => c :: controlled rest
  | [] => []

/-- The set behind its opening bracket, and the text behind it. -/
def bracketed (lenient : Bool) (cs : List Char) : RegexSign × List Char :=
  let inside := cs.takeWhile (· ≠ ']')
  let cs := if lenient then cs else controlled inside ++ cs.drop inside.length
  match CharSet.read? '^' (cs.map (⟨·, false⟩)) with
  | some (set, rest) =>
    match setFault? set with
    | some found => (.fault found, [])
    | none => (.oneOf set, rest.map (·.char))
  | none => (.fault (if cs = [] ∨ cs = ['^'] then .bareSet else .openSet), [])

/-- The sign behind a backslash, and the text behind it. -/
def escaped (rules : RegexSyntax) : List Char → RegexSign × List Char
  | [] => (.fault .endingBackslash, [])
  | c :: rest =>
    if c = '\x7b' ∧ !rules.extended then bounds false ['\\', '\x7d'] rest
    else ((if rules.extended then none else ofSpecial? c).getD (ofLetter rules.lenient c), rest)

/-- The sign at the front of a text, and the text behind it. `first` says whether a part
    begins here, where a caret stands for the start of the line. -/
def next (rules : RegexSyntax) (first : Bool) (c : Char) (rest : List Char) :
    RegexSign × List Char :=
  let endsPart := rest = [] || ['\\', ')'].isPrefixOf rest || ['\\', '|'].isPrefixOf rest
  if c = '\\' then escaped rules rest
  else if c = '.' then (.any, rest)
  else if c = '[' then bracketed rules.lenient rest
  else if c = '*' then (.times '*' 0 none, rest)
  else if c = '^' ∧ (rules.extended ∨ first) then (.start, rest)
  else if c = '$' ∧ (rules.extended ∨ endsPart) then (.stop, rest)
  else if rules.extended then
    if c = '\x7b' then bounds rules.lenient ['\x7d'] rest
    else ((ofSpecial? c).getD (.char c), rest)
  else (.char c, rest)

/-- The signs of a text. Every step takes a character, so the length of the text is fuel
    enough. -/
def ofChars (rules : RegexSyntax) : (fuel : Nat) → (first : Bool) → List Char → List RegexSign
  | 0, _, _ | _, _, [] => []
  | fuel + 1, first, c :: rest =>
    let (sign, rest) := next rules first c rest
    sign :: ofChars rules fuel sign.beginsPart rest

end RegexSign

-- ── expressions ──────────────────────────────────────────────────────────────────

/-- Signs that are read: those that are left, how many groups have been opened, those that
    have been closed, and the repetitions that were passed over because there is nothing to
    repeat. -/
structure RegexSource where
  signs : List RegexSign
  count : Nat
  closed : List Nat
  passed : List Char

/-- Reads an expression from the front of signs. -/
abbrev RegexReader := StateT RegexSource (Except RegexFault)

namespace RegexReader

/-- The signs that are left. -/
def signs : RegexReader (List RegexSign) := return (← get).signs

/-- Go on with other signs. -/
def resume (signs : List RegexSign) : RegexReader Unit := modify ({ · with signs := signs })

/-- A part with the repetitions that follow it, and the signs behind them. In strict basic
    style a star or a brace does not repeat a part that `isRepeated`. -/
def repeated (rules : RegexSyntax) (isRepeated : Bool) (part : Regex) :
    List RegexSign → Except RegexFault (Regex × List RegexSign)
  | .times c least most :: rest =>
    if isRepeated && !rules.extended && !rules.lenient && (c = '*' || c = '\x7b') then
      .error .misplaced
    else repeated rules true (.times least most part) rest
  | signs => .ok (part, signs)

/-- Go on behind a part with its repetitions. -/
def finish (rules : RegexSyntax) (part : Regex) (rest : List RegexSign) : RegexReader Regex := do
  let (part, rest) ← repeated rules false part rest
  resume rest
  return part

mutual

/-- Read alternatives. `depth` is the number of groups around them. -/
def alternatives (rules : RegexSyntax) : (fuel depth : Nat) → RegexReader Regex
  | 0, _ => throw .openGroup
  | fuel + 1, depth => do
    let first ← parts rules fuel depth
    match ← signs with
    | .bar :: rest =>
      resume rest
      return .either first (← alternatives rules fuel depth)
    | _ => return first

/-- Read parts that follow one another. -/
def parts (rules : RegexSyntax) : (fuel depth : Nat) → RegexReader Regex
  | 0, _ => throw .openGroup
  | fuel + 1, depth => do
    let atEnd := match ← signs with
      | [] | .bar :: _ => true
      | .closing :: _ => depth ≠ 0
      | _ => false
    if atEnd then return .empty
    else
      let first ← part rules fuel depth
      return .sequence first (← parts rules fuel depth)

/-- Read a part. Nothing repeats a place in the line. A repetition without anything to
    repeat is a fault, or nothing, or in basic style its own character. -/
def part (rules : RegexSyntax) : (fuel depth : Nat) → RegexReader Regex
  | 0, _ => throw .openGroup
  | fuel + 1, depth => do
    match ← signs with
    | .fault fault :: _ => throw fault
    | .char c :: rest => finish rules (.char c) rest
    | .any :: rest => finish rules .any rest
    | .oneOf set :: rest => finish rules (.oneOf set) rest
    | .start :: rest =>
      resume rest
      return .start
    | .stop :: rest =>
      resume rest
      return .stop
    | .edge begins ends :: rest =>
      resume rest
      return .edge begins ends
    | .again number :: rest =>
      if (← get).closed.contains number then finish rules (.again number) rest
      else throw .badReference
    | .times c _ _ :: rest =>
      if rules.extended && rules.lenient || c = '\x7b' && rules.lenient then
        modify fun source => { source with signs := rest, passed := source.passed ++ [c] }
        part rules fuel depth
      else if rules.extended || c = '\x7b' then throw .misplaced
      else finish rules (.char c) rest
    | .opening :: rest =>
      let number := (← get).count + 1
      modify fun source => { source with signs := rest, count := number }
      let inner ← alternatives rules fuel (depth + 1)
      match ← signs with
      | .closing :: rest =>
        modify fun source => { source with closed := number :: source.closed }
        finish rules (.group number inner) rest
      | _ => throw .openGroup
    | .closing :: rest =>
      if rules.extended && rules.lenient then finish rules (.char ')') rest
      else throw .strayClosing
    | .bar :: _ | [] => return .empty

end

end RegexReader

/-- The expression that a text is, and the repetitions in it that were passed over. -/
def Regex.ofText (rules : RegexSyntax) (cs : List Char) : Except RegexFault (Regex × List Char) :=
  let signs := RegexSign.ofChars rules cs.length true cs
  match (RegexReader.alternatives rules (4 * signs.length + 8) 0).run ⟨signs, 0, [], []⟩ with
  | .ok (regex, source) => .ok (regex, source.passed)
  | .error fault => .error fault

-- ── patterns ─────────────────────────────────────────────────────────────────────

/-- A part of a pattern. -/
inductive PatternPart where
  | char (c : Char)
  | any
  | run
  | set (set : CharSet)
deriving DecidableEq

/-- A pattern. -/
abbrev Pattern := List PatternPart

namespace Pattern

/-- A text as a pattern; the length of the text is fuel enough. -/
def ofMarksUpTo : (fuel : Nat) → List Mark → Pattern
  | 0, _ | _, [] => []
  | fuel + 1, mark :: rest =>
    if mark.quoted then .char mark.char :: ofMarksUpTo fuel rest
    else if mark.char = '*' then .run :: ofMarksUpTo fuel rest
    else if mark.char = '?' then .any :: ofMarksUpTo fuel rest
    else if mark.char = '[' then
      match CharSet.read? '!' rest with
      | some (set, after) => .set set :: ofMarksUpTo fuel after
      | none => .char '[' :: ofMarksUpTo fuel rest
    else .char mark.char :: ofMarksUpTo fuel rest

/-- A text as a pattern. -/
def ofMarks (marks : List Mark) : Pattern := ofMarksUpTo marks.length marks

/-- Whether a pattern has no part that stands for something else. -/
def isPlain (pattern : Pattern) : Bool :=
  pattern.all fun
    | .char _ => true
    | _ => false

/-- Whether a pattern matches a whole text. -/
def acceptsChars : Pattern → List Char → Bool
  | [], cs => cs.isEmpty
  | .run :: rest, [] => acceptsChars rest []
  | .run :: rest, c :: cs => acceptsChars rest (c :: cs) || acceptsChars (.run :: rest) cs
  | .char d :: rest, c :: cs => c = d && acceptsChars rest cs
  | .any :: rest, _ :: cs => acceptsChars rest cs
  | .set set :: rest, c :: cs => set.has c && acceptsChars rest cs
  | _ :: _, [] => false
termination_by pattern cs => pattern.length + cs.length

/-- Whether a pattern matches a whole text. -/
def accepts (pattern : Pattern) (text : String) : Bool := pattern.acceptsChars text.toList

/-- What is left of a text without the part in front that a pattern matches: the longest
    or the shortest such part. -/
def dropFront (pattern : Pattern) (longest : Bool) (text : String) : String :=
  let cs := text.toList
  let cuts := List.range (cs.length + 1)
  match (if longest then cuts.reverse else cuts).find? fun n => pattern.acceptsChars (cs.take n) with
  | some n => String.ofList (cs.drop n)
  | none => text

/-- The same at the back. -/
def dropBack (pattern : Pattern) (longest : Bool) (text : String) : String :=
  let cs := text.toList
  let cuts := List.range (cs.length + 1)
  match (if longest then cuts else cuts.reverse).find? fun n => pattern.acceptsChars (cs.drop n) with
  | some n => String.ofList (cs.take n)
  | none => text

end Pattern

end Bindery.Text
