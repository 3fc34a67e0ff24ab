import Bindery.Text.Regex
import Bindery.Utility.Lines

/-!
# Editing scripts

An editing script is a list of steps, each of which acts on the lines that its addresses
choose. A step may go on at another place of the script, which a label marks.

* **`EditStep`** — a step: its addresses and its action.
* **`EditFault`** — why a text is no script.
* **`EditReader`** — reads a script from the front, and tells how much was left when it
  found fault.
* **`EditStep.ofText`** — the steps of a script.
-/

namespace Bindery.Utility

open Text (Regex RegexFault)

/-- An expression, and whether the case of letters counts. -/
structure EditPattern where
  regex : Regex
  anyCase : Bool
deriving DecidableEq

/-- A place in the lines: a number, the last line, every so many lines, a number of lines
    further on, the next multiple of a number, or every line that matches; without a
    pattern the one that was used last. -/
inductive Address where
  | line (n : Nat)
  | last
  | every (first step : Nat)
  | further (count : Nat)
  | multiple (n : Nat)
  | matching (pattern : Option EditPattern)
deriving DecidableEq

/-- How the case of a replacement changes from a place on. -/
inductive CaseChange where
  | upper | lower | none
deriving DecidableEq

/-- A part of what replaces a match: characters, the text of a group, the whole match being
    group 0, and changes of case for the next character or for all that follow. -/
inductive ReplacementPart where
  | char (c : Char)
  | group (number : Nat)
  | changeNext (change : CaseChange)
  | changeAll (change : CaseChange)
deriving DecidableEq

/-- How matches are replaced: all of them from the `first` on or only that one. The line is
    printed, or written to a file, if there was one. -/
structure Substitution where
  pattern : Option EditPattern
  replacement : List ReplacementPart
  all : Bool
  first : Nat
  prints : Bool
  target : Option String
deriving DecidableEq

/-- When a step goes on at a label: always, or as there has been a replacement since the
    line was read or not. -/
inductive JumpCondition where
  | always | ifReplaced | unlessReplaced
deriving DecidableEq

/-- What a step does. -/
inductive EditAction where
  | substitute (substitution : Substitution)
  | exchange (old new : List Char)
  | delete | deleteFirst | print | printFirst | next | join | number | spellOut | clear
  | append (text : List Char)
  | insert (text : List Char)
  | replace (text : List Char)
  | appendFile (path : String)
  | write (path : String)
  | keep | keepMore | fetch | fetchMore | swap
  | quit (status : Nat)
  | leave (status : Nat)
  | label (name : String)
  | jump (condition : JumpCondition) (label : String)
  | block (count : Nat)
deriving DecidableEq

/-- A step: its addresses, whether it acts on all other lines, and what it does. A block
    is followed by its steps. -/
structure EditStep where
  first : Option Address
  second : Option Address
  negated : Bool
  action : EditAction
deriving DecidableEq

-- ── faults ───────────────────────────────────────────────────────────────────────

/-- Why a text is no script. -/
inductive EditFault where
  | openSubstitution | openExchange | openExpression | unknownOption | repeatedOption (c : Char)
  | manyNumbers | zeroNumber | missingGroup (number : Nat) | unknownStep (c : Char)
  | noStep | strayComma | zeroAddress | oneAddress | addressedLabel | repeatedNegation
  | openBlock | strayClosing | textMissing | pathMissing | labelMissing | lengths | afterStep
  | expression (fault : RegexFault)
deriving DecidableEq

/-- The wording of a fault. -/
def EditFault.message : EditFault → String
  | .openSubstitution => "unterminated \x60s' command"
  | .openExchange => "unterminated \x60y' command"
  | .openExpression => "unterminated address regex"
  | .unknownOption => "unknown option to \x60s'"
  | .repeatedOption c => s!"multiple \x60{c}' options to \x60s' command"
  | .manyNumbers => "multiple number options to \x60s' command"
  | .zeroNumber => "number option to \x60s' command may not be zero"
  | .missingGroup number => "invalid reference \\" ++ toString number ++ " on \x60s' command's RHS"
  | .unknownStep c => s!"unknown command: \x60{c}'"
  | .noStep => "missing command"
  | .strayComma => "unexpected \x60,'"
  | .zeroAddress => "invalid usage of line address 0"
  | .oneAddress => "command only uses one address"
  | .addressedLabel => ": doesn't want any addresses"
  | .repeatedNegation => "multiple \x60!'s"
  | .openBlock => "unmatched \x60\x7b'"
  | .strayClosing => "unexpected \x60\x7d'"
  | .textMissing => "expected \\ after \x60a', \x60c' or \x60i'"
  | .pathMissing => "missing filename in r/R/w/W commands"
  | .labelMissing => "\":\" lacks a label"
  | .lengths => "strings for \x60y' command are different lengths"
  | .afterStep => "extra characters after command"
  | .expression fault => fault.message

-- ── reading scripts ──────────────────────────────────────────────────────────────

/-- Reads a script from the front. A failure tells how many characters were left, unless it
    belongs to the script as a whole. -/
abbrev EditReader := StateT (List Char) (Except (EditFault × Option Nat))

namespace EditReader

/-- Find fault with a script. -/
def fail {α : Type} (fault : EditFault) : EditReader α := do
  throw (fault, some (← get).length)

/-- Find fault with a script behind its next character. -/
def failBehind {α : Type} (fault : EditFault) : EditReader α := do
  modify (·.drop 1)
  fail fault

/-- Pass over characters. -/
def skipWhile (test : Char → Bool) : EditReader Unit := modify (·.dropWhile test)

/-- Whether a character is a blank. -/
def isBlank (c : Char) : Bool := c = ' ' || c = '\t'

/-- Take a number. -/
def number : EditReader Nat := do
  let digits := (← get).takeWhile Text.isAsciiDigit
  modify (·.drop digits.length)
  return (String.ofList digits).toNat?.getD 0

/-- Take the characters that a test accepts. -/
def taken (test : Char → Bool) : EditReader String := do
  let found := (← get).takeWhile test
  modify (·.drop found.length)
  return String.ofList found

-- ── texts between delimiters ─────────────────────────────────────────────────────

/-- The text up to a delimiter that is neither quoted nor, in an expression, inside a set,
    and what follows the delimiter; or what is left where the text or its line ends without
    one. A quoted delimiter loses its backslash. `opened` counts the characters of a set
    that has been begun. -/
def upTo (delimiter : Char) (inRegex : Bool) :
    (fuel : Nat) → (opened : Option Nat) → List Char → Except (List Char) (List Char × List Char)
  | 0, _, _ | _, _, [] => .error []
  | fuel + 1, opened, c :: rest =>
    let put (taken : List Char) (opened : Option Nat) (rest : List Char) :
        Except (List Char) (List Char × List Char) :=
      (upTo delimiter inRegex fuel opened rest).map fun (text, after) => (taken ++ text, after)
    match opened with
    | some n =>
      if c = ']' ∧ n > 0 then put [c] none rest
      else put [c] (some (if c = '^' ∧ n = 0 then 0 else n + 1)) rest
    | none =>
      match c, rest with
      | '\\', d :: rest => put (if d = delimiter then [d] else ['\\', d]) none rest
      | c, rest =>
        if c = delimiter then .ok ([], rest)
        else if c = '\n' then .error (c :: rest)
        else put [c] (if inRegex ∧ c = '[' then some 0 else none) rest

/-- Take the text up to a delimiter, and the delimiter. -/
def delimited (delimiter : Char) (inRegex : Bool) (fault : EditFault) :
    EditReader (List Char) := do
  let cs ← get
  match upTo delimiter inRegex (cs.length + 1) none cs with
  | .ok (text, rest) =>
    set rest
    return text
  | .error rest =>
    set rest
    fail fault

/-- The pattern that a text is; an empty text stands for the one that was used last. -/
def patternOf (extended anyCase : Bool) (text : List Char) : EditReader (Option EditPattern) :=
  if text.isEmpty then return none
  else match Regex.ofText ⟨extended, false⟩ text with
    | .ok (regex, _) => return some ⟨regex, anyCase⟩
    | .error .outsideSet => throw (.expression .outsideSet, none)
    | .error fault => fail (.expression fault)

-- ── addresses ────────────────────────────────────────────────────────────────────

/-- Take an address if there is one. -/
def address? (extended : Bool) : EditReader (Option Address) := do
  match ← get with
  | '$' :: rest =>
    set rest
    return some .last
  | '/' :: rest => matching '/' rest
  | '\\' :: delimiter :: rest => matching delimiter rest
  | c :: _ =>
    if Text.isAsciiDigit c then
      let first ← number
      match ← get with
      | '~' :: rest =>
        set rest
        return some (.every first (← number))
      | _ => return some (.line first)
    else return none
  | [] => return none
where
  matching (delimiter : Char) (rest : List Char) : EditReader (Option Address) := do
    set rest
    let text ← delimited delimiter true .openExpression
    let anyCase := (← get).head? = some 'I'
    if anyCase then modify (·.drop 1)
    return some (.matching (← patternOf extended anyCase text))

/-- Take a second address if there is one. -/
def secondAddress? (extended : Bool) (first : Option Address) : EditReader (Option Address) := do
  match first, ← get with
  | some first, ',' :: rest =>
    set rest
    skipWhile isBlank
    let second ← match ← get with
      | '+' :: rest => do
        set rest
        pure (some (Address.further (← number)))
      | '~' :: rest => do
        set rest
        pure (some (Address.multiple (← number)))
      | _ => address? extended
    match first, second with
    | _, none => failBehind .strayComma
    | .line 0, some (.matching _) => return second
    | .line 0, some _ => failBehind .zeroAddress
    | _, some _ => return second
  | some (.line 0), _ => failBehind .zeroAddress
  | _, _ => return none

-- ── replacements ─────────────────────────────────────────────────────────────────

/-- The value of up to `limit` digits of a base, and the text behind them. -/
def takeDigits (base : Nat) : (limit value : Nat) → List Char → Nat × List Char
  | limit + 1, value, c :: rest =>
    let digit := if Text.isAsciiDigit c then c.toNat - 48
      else if Text.isAsciiLower c then c.toNat - 87
      else if Text.isAsciiUpper c then c.toNat - 55
      else base
    if digit < base then takeDigits base limit (value * base + digit) rest else (value, c :: rest)
  | _, value, rest => (value, rest)

/-- The character of an escape behind its backslash, and the text behind it. -/
def escaped? : List Char → Option (Char × List Char)
  | 'x' :: rest => numbered 16 2 rest
  | 'o' :: rest => numbered 8 3 rest
  | 'd' :: rest => numbered 10 3 rest
  | 'c' :: c :: rest => (Text.toUpper c).head?.map fun upper => (Char.ofNat (upper.toNat ^^^ 64), rest)
  | c :: rest => (Text.RegexSign.control? c).map (·, rest)
  | [] => none
where
  numbered (base limit : Nat) (rest : List Char) : Option (Char × List Char) :=
    let (value, after) := takeDigits base limit 0 rest
    if after.length = rest.length then none else some (Char.ofNat (value % 256), after)

/-- The change of case that a letter asks for. -/
def caseChange? (c : Char) : Option ReplacementPart :=
  match c with
  | 'U' => some (.changeAll .upper)
  | 'L' => some (.changeAll .lower)
  | 'E' => some (.changeAll .none)
  | 'u' => some (.changeNext .upper)
  | 'l' => some (.changeNext .lower)
  | _ => none

/-- The parts of a replacement. Every step takes a character, so the length of the text is
    fuel enough. -/
def replacementOf : (fuel : Nat) → List Char → List ReplacementPart
  | 0, _ | _, [] => []
  | fuel + 1, '\\' :: c :: rest =>
    if Text.isAsciiDigit c then .group (c.toNat - 48) :: replacementOf fuel rest
    else match caseChange? c, escaped? (c :: rest) with
      | some change, _ => change :: replacementOf fuel rest
      | none, some (found, rest) => .char found :: replacementOf fuel rest
      | none, none => .char c :: replacementOf fuel rest
  | fuel + 1, '&' :: rest => .group 0 :: replacementOf fuel rest
  | fuel + 1, c :: rest => .char c :: replacementOf fuel rest

/-- Take the path at the end of a line. -/
def path : EditReader String := do
  skipWhile isBlank
  let found ← taken (· ≠ '\n')
  if found = "" then fail .pathMissing
  return found

/-- Options of a substitution: those of the substitution itself, and whether the case of
    letters counts and the number was given. -/
structure SubstitutionOptions where
  substitution : Substitution
  anyCase : Bool
  counted : Bool

/-- Take the options of a substitution with the end of the step. -/
def options : (fuel : Nat) → SubstitutionOptions → EditReader SubstitutionOptions
  | 0, found => return found
  | fuel + 1, found => do
    let flag (isGiven : Bool) (c : Char) (changed : Substitution) :
        EditReader SubstitutionOptions := do
      modify (·.drop 1)
      if isGiven then fail (.repeatedOption c)
      options fuel { found with substitution := changed }
    match ← get with
    | 'g' :: _ => flag found.substitution.all 'g' { found.substitution with all := true }
    | 'p' :: _ => flag found.substitution.prints 'p' { found.substitution with prints := true }
    | 'i' :: rest | 'I' :: rest =>
      set rest
      options fuel { found with anyCase := true }
    | 'w' :: rest =>
      set rest
      let target ← path
      return { found with substitution.target := some target }
    | [] | '\x7d' :: _ | '#' :: _ => return found
    | c :: rest =>
      if Text.isAsciiDigit c then
        if found.counted then failBehind .manyNumbers
        let first ← number
        if first = 0 then fail .zeroNumber
        options fuel { found with substitution.first := first, counted := true }
      else
        set rest
        if c = ';' ∨ c = '\n' then return found
        else if isBlank c then options fuel found
        else fail .unknownOption

/-- The number of groups of an expression. -/
def groupCount : Regex → Nat
  | .group number inner => max number (groupCount inner)
  | .sequence a b | .either a b => max (groupCount a) (groupCount b)
  | .times _ _ inner => groupCount inner
  | _ => 0

/-- Take a substitution behind its letter. -/
def substitution (extended : Bool) : EditReader EditAction := do
  match ← get with
  | [] => fail .openSubstitution
  | delimiter :: rest =>
    set rest
    let pattern ← delimited delimiter true .openSubstitution
    let replacement ← delimited delimiter false .openSubstitution
    let parts := replacementOf replacement.length replacement
    let found ← options (rest.length + 1) ⟨⟨none, parts, false, 1, false, none⟩, false, false⟩
    let pattern ← patternOf extended found.anyCase pattern
    if let some pattern := pattern then
      for part in parts do
        if let .group number := part then
          if groupCount pattern.regex < number then fail (.missingGroup number)
    return .substitute { found.substitution with pattern := pattern }

-- ── steps ────────────────────────────────────────────────────────────────────────

/-- The text of a step up to the end of its line; a backslash continues it. Every step
    takes a character, so the length of the text is fuel enough. -/
def textOf : (fuel : Nat) → List Char → List Char × List Char
  | 0, cs => ([], cs)
  | _, [] => ([], [])
  | fuel + 1, '\\' :: c :: rest =>
    let (found, rest) := (escaped? (c :: rest)).getD (c, rest)
    let (text, after) := textOf fuel rest
    (found :: text, after)
  | fuel + 1, c :: rest =>
    if c = '\n' then ([], rest)
    else
      let (text, after) := textOf fuel rest
      (c :: text, after)

/-- Take the text of a step. -/
def text : EditReader (List Char) := do
  skipWhile isBlank
  match ← get with
  | [] => fail .textMissing
  | '\\' :: '\n' :: rest => set rest
  | '\\' :: rest =>
    let line := rest.dropWhile isBlank
    set (if line.head? = some '\n' then line.drop 1 else rest)
  | _ => pure ()
  let cs ← get
  if cs.isEmpty then return []
  else
    let (text, rest) := textOf (cs.length + 1) cs
    set rest
    return text ++ ['\n']

/-- Take the end of a step. -/
def ending : EditReader Unit := do
  skipWhile isBlank
  match ← get with
  | [] => return
  | c :: rest =>
    if c = ';' || c = '\n' then set rest
    else if c = '\x7d' || c = '#' then return
    else
      set rest
      fail .afterStep

/-- The action of a letter that has nothing behind it. -/
def plainAction? (c : Char) : Option EditAction :=
  match c with
  | 'd' => some .delete
  | 'D' => some .deleteFirst
  | 'p' => some .print
  | 'P' => some .printFirst
  | 'n' => some .next
  | 'N' => some .join
  | '=' => some .number
  | 'l' => some .spellOut
  | 'z' => some .clear
  | 'h' => some .keep
  | 'H' => some .keepMore
  | 'g' => some .fetch
  | 'G' => some .fetchMore
  | 'x' => some .swap
  | _ => none

/-- Take a label, which ends in front of a blank, the end of a step or of a block. -/
def labelName : EditReader String := do
  skipWhile isBlank
  taken fun c => !isBlank c && c ≠ '\n' && c ≠ ';' && c ≠ '\x7d'

/-- Take what a step does behind its letter. -/
def actionOf (extended : Bool) (c : Char) : EditReader EditAction := do
  let simple (action : EditAction) : EditReader EditAction := do
    ending
    return action
  let jump (condition : JumpCondition) : EditReader EditAction := do
    let name ← labelName
    simple (.jump condition name)
  match c with
  | 's' => substitution extended
  | 'y' =>
    match ← get with
    | delimiter :: rest =>
      set rest
      let old ← delimited delimiter false .openExchange
      let new ← delimited delimiter false .openExchange
      let (old, new) := (setChars old.length old, setChars new.length new)
      if old.length ≠ new.length then fail .lengths
      simple (.exchange old new)
    | [] => fail .openExchange
  | 'a' => return .append (← text)
  | 'i' => return .insert (← text)
  | 'c' => return .replace (← text)
  | 'r' => return .appendFile (← path)
  | 'w' => return .write (← path)
  | 'b' => jump .always
  | 't' => jump .ifReplaced
  | 'T' => jump .unlessReplaced
  | ':' =>
    let name ← labelName
    if name = "" then fail .labelMissing
    return .label name
  | 'q' =>
    skipWhile isBlank
    let status ← number
    simple (.quit status)
  | 'Q' =>
    skipWhile isBlank
    let status ← number
    simple (.leave status)
  | c =>
    match plainAction? c with
    | some action => simple action
    | none => fail (.unknownStep c)

/-- Take a step without its addresses. -/
def action (extended : Bool) (first second : Option Address) : EditReader EditAction := do
  match ← get with
  | [] => fail .noStep
  | c :: rest =>
    set rest
    if c = ':' ∧ first.isSome then fail .addressedLabel
    if (c = 'q' ∨ c = 'Q') ∧ second.isSome then fail .oneAddress
    actionOf extended c

/-- Read steps up to the end of the script, or of a block. -/
def steps (extended : Bool) : (fuel : Nat) → (inBlock : Bool) → EditReader (List EditStep)
  | 0, _ => fail .noStep
  | fuel + 1, inBlock => do
    skipWhile fun c => isBlank c || c = ';' || c = '\n'
    match ← get with
    | [] => if inBlock then throw (.openBlock, some (← get).length) else return []
    | '#' :: _ =>
      skipWhile (· ≠ '\n')
      steps extended fuel inBlock
    | '\x7d' :: rest =>
      set rest
      if !inBlock then fail .strayClosing
      ending
      return []
    | _ =>
      let first ← address? extended
      skipWhile isBlank
      let second ← secondAddress? extended first
      skipWhile isBlank
      let negated := (← get).head? = some '!'
      if negated then modify (·.drop 1)
      skipWhile isBlank
      match ← get with
      | '!' :: _ => if negated then failBehind .repeatedNegation else fail .noStep
      | '\x7b' :: rest =>
        set rest
        let inner ← steps extended fuel true
        let others ← steps extended fuel inBlock
        return ⟨first, second, negated, .block inner.length⟩ :: inner ++ others
      | _ =>
        let found ← action extended first second
        return ⟨first, second, negated, found⟩ :: (← steps extended fuel inBlock)

end EditReader

/-- The steps of a script. -/
def EditStep.ofText (extended : Bool) (text : List Char) :
    Except (EditFault × Option Nat) (List EditStep) :=
  ((EditReader.steps extended (2 * text.length + 4) false).run text).map (·.1)

end Bindery.Utility
