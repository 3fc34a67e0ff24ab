import Bindery.Crate.Code
import Bindery.Text.Char
import Bindery.Text.Words

/-!
# Identifiers and tokens of Rust source

Names of an interface become identifiers: characters that no identifier holds become
underscores, and words that the language keeps for itself are marked as raw or, where
they cannot be, get an underscore behind them.

Source text is cut into names, literals, lifetimes, signs and groups in brackets. Blanks and
comments between them are passed over; a comment that documents something stands for an
attribute.

* **`Name`** — an identifier; **`Name.of`** makes one of any text.
* **`Name.field`**, **`Name.type`**, **`Name.constant`** — the identifiers of a name in
  the case of its role.
* **`isIdentifier`** — the texts that are identifiers, raw marks left aside.
* **`Token`** — a token. A sign knows whether another sign follows it directly.
* **`Token.words`** — a token as it is written; **`writtenWords`** — several of them.
* **`afterLiteral?`** — what stands behind a literal at the start of a text.
* **`Token.scan?`** — the tokens of a text.
-/

namespace Bindery.Crate

/-- An identifier: its characters, and whether it is marked as raw. -/
structure Name where
  word : String
  raw : Bool
deriving DecidableEq

/-- The words that are neither identifiers nor raw identifiers. -/
def restrictedWords : List String := ["self", "Self", "super", "crate", "_"]

/-- The other words that are no identifiers unless marked as raw. -/
def keywords : List String :=
  ["abstract", "as", "async", "await", "become", "box", "break", "const", "continue", "do",
    "dyn", "else", "enum", "extern", "false", "final", "fn", "for", "if", "impl", "in", "let",
    "loop", "macro", "match", "mod", "move", "mut", "override", "priv", "pub", "ref", "return",
    "static", "struct", "trait", "true", "try", "type", "typeof", "unsafe", "unsized", "use",
    "virtual", "where", "while", "yield"]

/-- A text that starts like an identifier and goes on like one. -/
def isIdentifier (text : String) : Bool :=
  match text.toList with
  | [] => false
  | c :: rest => (Text.isIdentifierStart c || c = '_') && rest.all Text.isIdentifierPart

/-- The nearest text of ASCII letters, digits and underscores that does not start with a
    digit. -/
def sanitized (text : String) : String :=
  let kept := text.toList.map fun c => if Text.isAsciiAlphanumeric c || c = '_' then c else '_'
  match kept with
  | [] => "_"
  | c :: _ => String.ofList (if Text.isAsciiDigit c then '_' :: kept else kept)

namespace Name

/-- The identifier for a text. -/
def of (text : String) : Name :=
  let word := sanitized text
  if word ∈ restrictedWords then ⟨word ++ "_", false⟩
  else ⟨word, decide (word ∈ keywords)⟩

/-- An identifier as it is written. -/
def text (name : Name) : String := if name.raw then "r#" ++ name.word else name.word

/-- An identifier with more letters behind it, which is no longer a raw one. -/
def extend (name : Name) (ending : String) : Name := ⟨name.word ++ ending, false⟩

/-- The identifier of a field, parameter or module. -/
def field (name : String) : Name := of (Text.snakeCase name)

/-- The identifier of a type or variant. -/
def type (name : String) : Name := of (Text.upperCamelCase name)

/-- The identifier of a constant whose name has an ending. -/
def constant (name ending : String) : Name := of (Text.shoutyCase name ++ ending)

end Name

/-- A token of source text. A group has the bracket that opens it. -/
inductive Token where
  | name (word : String)
  | literal (text : String)
  | lifetime (text : String)
  | sign (c : Char) (joint : Bool)
  | group (bracket : Char) (inner : List Token)

/-- The bracket that closes another one. -/
def closing (bracket : Char) : Char :=
  if bracket = '(' then ')' else if bracket = '[' then ']' else '\x7d'

/-- Whether a token is a sign that another sign follows directly. -/
def Token.isJoint : Token → Bool
  | .sign _ joint => joint
  | _ => false

/-- Words with the first one drawn to the word before it. -/
def drawTogether : (first next : Code) → Code
  | [word], other :: rest => (word ++ other) :: rest
  | first, next => first ++ next

mutual

/-- A token as it is written. -/
def Token.words : Token → Code
  | .name word => [word]
  | .literal text => [text]
  | .lifetime text => [text]
  | .sign c _ => [c.toString]
  | .group bracket inner =>
    bracket.toString :: writtenWords inner ++ [(closing bracket).toString]

/-- Tokens as they are written. Signs that touch stay together. -/
def writtenWords : List Token → Code
  | [] => []
  | token :: rest =>
    if token.isJoint then drawTogether token.words (writtenWords rest)
    else token.words ++ writtenWords rest

end

-- ── blanks and comments ──────────────────────────────────────────────────────────

/-- Whether a character separates words: white space, or a mark of writing direction. -/
def isSeparator (c : Char) : Bool :=
  Text.isBlank c || c.toNat = 0x200E || c.toNat = 0x200F

/-- What stands behind a block comment whose opening has been read `depth` times. -/
def afterBlock : (depth : Nat) → List Char → Option (List Char)
  | _, [] => none
  | depth, '/' :: '*' :: rest => afterBlock (depth + 1) rest
  | depth, '*' :: '/' :: rest => if depth ≤ 1 then some rest else afterBlock (depth - 1) rest
  | depth, _ :: rest => afterBlock depth rest

/-- What stands behind a line. -/
def afterLine (cs : List Char) : List Char := cs.dropWhile (· ≠ '\n')

/-- What stands behind a comment that documents nothing. -/
def afterComment? : List Char → Option (List Char)
  | '/' :: '/' :: rest =>
    match rest with
    | '!' :: _ => none
    | '/' :: '/' :: more => some (afterLine more)
    | '/' :: _ => none
    | plain => some (afterLine plain)
  | '/' :: '*' :: rest =>
    match rest with
    | '!' :: _ => none
    | '*' :: '*' :: _ => afterBlock 1 rest
    | '*' :: '/' :: more => some more
    | '*' :: _ => none
    | plain => afterBlock 1 plain
  | _ => none

/-- A comment that documents the thing behind it, or the thing that it is `within`. -/
structure DocComment where
  within : Bool
  text : List Char

/-- Characters without the carriage return that belongs to the end of a line. -/
def withoutReturn (cs : List Char) (atEnd : Bool) : List Char :=
  if cs.getLast? = some '\r' && !atEnd then cs.dropLast else cs

/-- The rest of a line as a comment, and what stands behind it. -/
def takeDocLine (within : Bool) (cs : List Char) : DocComment × List Char :=
  let line := cs.takeWhile (· ≠ '\n')
  let rest := afterLine cs
  (⟨within, withoutReturn line rest.isEmpty⟩, rest)

/-- A block whose opening has been read as a comment, and what stands behind it. -/
def takeDocBlock? (within : Bool) (cs : List Char) : Option (DocComment × List Char) := do
  let rest ← afterBlock 1 cs
  return (⟨within, cs.take (cs.length - rest.length - 2)⟩, rest)

/-- The comment at the start of a text that documents something, and what stands behind
    it. -/
def takeDocComment? : List Char → Option (DocComment × List Char)
  | '/' :: '/' :: '!' :: rest => some (takeDocLine true rest)
  | '/' :: '/' :: '/' :: rest => if rest.head? = some '/' then none else some (takeDocLine false rest)
  | '/' :: '*' :: '!' :: rest => takeDocBlock? true rest
  | '/' :: '*' :: '*' :: rest => if rest.head? = some '*' then none else takeDocBlock? false rest
  | _ => none

/-- Whether a text holds a carriage return that ends no line. -/
def hasBareReturn : List Char → Bool
  | [] => false
  | '\r' :: rest => rest.head? ≠ some '\n' || hasBareReturn rest
  | _ :: rest => hasBareReturn rest

/-- The attribute that a comment stands for. -/
def DocComment.tokens (comment : DocComment) : List Token :=
  .sign '#' false :: (if comment.within then [.sign '!' false] else [])
    ++ [.group '[' [.name "doc", .sign '=' false,
      .literal (stringLiteral (String.ofList comment.text))]]

-- ── names ────────────────────────────────────────────────────────────────────────

/-- The name at the start of a text and what stands behind it. -/
def takeIdentifier? (cs : List Char) : Option (String × List Char) :=
  let word := String.ofList (cs.takeWhile Text.isIdentifierPart)
  if isIdentifier word then some (word, cs.dropWhile Text.isIdentifierPart) else none

/-- The name at the start of a text, which may be marked as raw. -/
def takeName? : List Char → Option (String × List Char)
  | 'r' :: '#' :: rest => do
    let (word, rest) ← takeIdentifier? rest
    if word ∈ restrictedWords then none else some ("r#" ++ word, rest)
  | cs => takeIdentifier? cs

/-- Whether a text starts like a literal with a letter in front. -/
def startsPrefixed (cs : List Char) : Bool :=
  ["r\"", "r#\"", "r##", "b\"", "b'", "br\"", "br#", "c\"", "cr\"", "cr#"].any fun start =>
    start.toList.isPrefixOf cs

-- ── literals ─────────────────────────────────────────────────────────────────────

/-- What stands behind a literal: its suffix, if there is one, is passed over. -/
def afterSuffix (cs : List Char) : List Char :=
  match takeIdentifier? cs with
  | some (_, rest) => rest
  | none => cs

/-- Whether a character is a hexadecimal digit. -/
def isHex (c : Char) : Bool :=
  Text.isAsciiDigit c || (97 ≤ c.toNat && c.toNat ≤ 102) || (65 ≤ c.toNat && c.toNat ≤ 70)

/-- The kinds of quoted literals: of characters, of bytes, and of bytes that a null byte
    ends. -/
inductive Quoted where
  | text | bytes | terminated
deriving DecidableEq

/-- What stands behind the digits of a `\u` escape whose opening brace has been read, with
    the value of the `count` digits before. -/
def afterCodePoint (kind : Quoted) : (count value : Nat) → List Char → Option (List Char)
  | _, _, [] => none
  | count, value, c :: rest =>
    if c = '\x7d' then
      if 0 < count ∧ value.isValidChar ∧ (kind = .terminated → value ≠ 0) then some rest else none
    else if c = '_' ∧ 0 < count then afterCodePoint kind count value rest
    else if isHex c ∧ count < 6 then
      let digit := if Text.isAsciiDigit c then c.toNat - 48 else c.toNat % 32 + 9
      afterCodePoint kind (count + 1) (value * 16 + digit) rest
    else none

/-- What stands behind an escape whose backslash has been read. -/
def afterEscape? (kind : Quoted) : List Char → Option (List Char)
  | 'x' :: high :: low :: rest =>
    if isHex high && isHex low
        && (kind ≠ .text || (Text.isAsciiDigit high && high.toNat ≤ 55))
        && (kind ≠ .terminated || high ≠ '0' || low ≠ '0') then some rest
    else none
  | 'u' :: '\x7b' :: rest => if kind = .bytes then none else afterCodePoint kind 0 0 rest
  | '0' :: rest => if kind = .terminated then none else some rest
  | c :: rest => if c ∈ ['n', 'r', 't', '\\', '\'', '"'] then some rest else none
  | [] => none

/-- What stands behind the inside of a quoted literal and the quote that closes it. Every
    step takes a character, so as many steps as there are characters are enough. -/
def afterQuoted (kind : Quoted) : (fuel : Nat) → List Char → Option (List Char)
  | 0, _ => none
  | _ + 1, [] => none
  | _ + 1, '"' :: rest => some (afterSuffix rest)
  | fuel + 1, '\r' :: rest =>
    match rest with
    | '\n' :: more => afterQuoted kind fuel more
    | _ => none
  | fuel + 1, '\\' :: '\n' :: rest => afterQuoted kind fuel rest
  | fuel + 1, '\\' :: '\r' :: '\n' :: rest => afterQuoted kind fuel rest
  | fuel + 1, '\\' :: rest => (afterEscape? kind rest).bind (afterQuoted kind fuel)
  | fuel + 1, c :: rest =>
    if kind = .bytes ∧ !Text.isAscii c ∨ kind = .terminated ∧ c.toNat = 0 then none
    else afterQuoted kind fuel rest

/-- What stands behind the inside of a raw literal that a quote and a number of marks
    close. -/
def afterRaw (kind : Quoted) (marks : List Char) : List Char → Option (List Char)
  | [] => none
  | c :: rest =>
    if c = '"' ∧ marks.isPrefixOf rest then some (afterSuffix (rest.drop marks.length))
    else if c = '\r' ∧ rest.head? ≠ some '\n' then none
    else if kind = .bytes ∧ !Text.isAscii c ∨ kind = .terminated ∧ c.toNat = 0 then none
    else afterRaw kind marks rest

/-- What stands behind a raw literal whose letter has been read. -/
def afterRawStart? (kind : Quoted) (cs : List Char) : Option (List Char) :=
  let marks := cs.takeWhile (· = '#')
  match cs.drop marks.length with
  | '"' :: rest => if marks.length ≤ 255 then afterRaw kind marks rest else none
  | _ => none

/-- What stands behind a quoted character whose opening quote has been read. -/
def afterCharacter? (kind : Quoted) (cs : List Char) : Option (List Char) := do
  let rest ← match cs with
    | '\\' :: rest => afterEscape? kind rest
    | c :: rest => if kind = .bytes ∧ !Text.isAscii c then none else some rest
    | [] => none
  match rest with
  | '\'' :: rest => some (afterSuffix rest)
  | _ => none

/-- What stands behind a number, if no part of a name follows it. -/
def afterNumber? (cs : List Char) : Option (List Char) :=
  let rest := afterSuffix cs
  if rest.head?.any Text.isIdentifierPart then none else some rest

/-- What stands behind the digits of a whole number. -/
def afterDigits? (base : Nat) (cs : List Char) : Option (List Char) :=
  let isDigit := fun c => Text.isAsciiDigit c || c = '_' || (base = 16 && isHex c)
  let digits := cs.takeWhile isDigit
  if digits.all (· = '_') || (base = 10 && digits.head? = some '_')
      || digits.any (fun c => Text.isAsciiDigit c && base ≤ c.toNat - 48) then none
  else some (cs.dropWhile isDigit)

/-- What stands behind a whole number. -/
def afterWhole? (cs : List Char) : Option (List Char) :=
  match cs with
  | '0' :: 'x' :: rest => (afterDigits? 16 rest).bind afterNumber?
  | '0' :: 'o' :: rest => (afterDigits? 8 rest).bind afterNumber?
  | '0' :: 'b' :: rest => (afterDigits? 2 rest).bind afterNumber?
  | cs => (afterDigits? 10 cs).bind afterNumber?

/-- What stands behind the exponent of a number, if there is one with a digit. -/
def afterExponent? : List Char → Option (List Char)
  | e :: rest =>
    if e = 'e' ∨ e = 'E' then
      let unsigned := match rest.dropWhile (· = '_') with
        | '+' :: more => more
        | '-' :: more => more
        | more => more
      let isDigit := fun c => Text.isAsciiDigit c || c = '_'
      if (unsigned.takeWhile isDigit).any Text.isAsciiDigit then
        some (unsigned.dropWhile isDigit)
      else none
    else none
  | [] => none

/-- What stands behind a number with a fraction or an exponent. -/
def afterFraction? (cs : List Char) : Option (List Char) := do
  if !(cs.head?.any Text.isAsciiDigit) then none
  let isDigit := fun c => Text.isAsciiDigit c || c = '_'
  match cs.dropWhile isDigit with
  | '.' :: rest =>
    if rest.head?.any (fun c => c = '.' || c = '_' || Text.isIdentifierStart c) then none
    let rest := rest.dropWhile isDigit
    afterNumber? ((afterExponent? rest).getD rest)
  | rest => (afterExponent? rest).bind afterNumber?

/-- What stands behind a literal at the start of a text. -/
def afterLiteral? (cs : List Char) : Option (List Char) :=
  match cs with
  | '"' :: rest => afterQuoted .text cs.length rest
  | 'b' :: '"' :: rest => afterQuoted .bytes cs.length rest
  | 'c' :: '"' :: rest => afterQuoted .terminated cs.length rest
  | 'b' :: '\'' :: rest => afterCharacter? .bytes rest
  | '\'' :: rest => afterCharacter? .text rest
  | 'r' :: rest => afterRawStart? .text rest
  | 'b' :: 'r' :: rest => afterRawStart? .bytes rest
  | 'c' :: 'r' :: rest => afterRawStart? .terminated rest
  | cs => (afterFraction? cs).or (if cs.head?.any Text.isAsciiDigit then afterWhole? cs else none)

-- ── tokens ───────────────────────────────────────────────────────────────────────

/-- Whether a text starts with a sign. The start of a comment is none. -/
def startsWithSign : List Char → Bool
  | '/' :: '/' :: _ => false
  | '/' :: '*' :: _ => false
  | c :: _ => c ∈ "~!@#$%^&*-=+|;:,<.>/?'".toList
  | [] => false

/-- The lifetime at the start of a text whose quote has been read. It must not run into a
    quote, as a character would. -/
def takeLifetime? (cs : List Char) : Option (Token × List Char) := do
  let (word, rest) ← takeName? cs
  match rest with
  | '\'' :: _ => none
  | '#' :: _ => if "r#".toList.isPrefixOf cs then some (.lifetime ("'" ++ word), rest) else none
  | _ => some (.lifetime ("'" ++ word), rest)

/-- The token at the start of a text, which starts with no blank and no bracket. -/
def takeToken? (cs : List Char) : Option (Token × List Char) :=
  match afterLiteral? cs with
  | some rest => some (.literal (String.ofList (cs.take (cs.length - rest.length))), rest)
  | none =>
    match cs with
    | [] => none
    | c :: rest =>
      if c = '\'' then takeLifetime? rest
      else if startsWithSign cs then some (.sign c (startsWithSign rest), rest)
      else if startsPrefixed cs then none
      else (takeName? cs).map fun (word, rest) => (.name word, rest)

/-- A group that is still open: its bracket, and the tokens in front of it, the last one
    first. -/
structure OpenGroup where
  bracket : Char
  before : List Token

/-- The tokens of a text, with the groups that are open, the innermost one first, and the
    tokens that have been read, the last one first. Every step takes at least one character,
    so as many steps as there are characters are enough. -/
def scan : (fuel : Nat) → List OpenGroup → (done : List Token) → List Char → Option (List Token)
  | _, [], done, [] => some done.reverse
  | _, _ :: _, _, [] => none
  | 0, _, _, _ :: _ => none
  | fuel + 1, opened, done, c :: rest =>
    if isSeparator c then scan fuel opened done rest
    else
      match afterComment? (c :: rest) with
      | some more => scan fuel opened done more
      | none =>
        match takeDocComment? (c :: rest) with
        | some (comment, more) =>
          if hasBareReturn comment.text then none
          else scan fuel opened (comment.tokens.reverse ++ done) more
        | none =>
          if c ∈ "([\x7b".toList then scan fuel (⟨c, done⟩ :: opened) [] rest
          else if c ∈ ")]\x7d".toList then
            match opened with
            | [] => none
            | inner :: outer =>
              if closing inner.bracket = c then
                scan fuel outer (.group inner.bracket done.reverse :: inner.before) rest
              else none
          else do
            let (token, more) ← takeToken? (c :: rest)
            scan fuel opened (token :: done) more

/-- The tokens of a text; a mark of byte order in front is no part of it. -/
def Token.scan? (text : String) : Option (List Token) :=
  let cs := text.toList
  let cs := if cs.head?.any (·.toNat = 0xFEFF) then cs.tail else cs
  scan cs.length [] [] cs

end Bindery.Crate
