import Bindery.Shell.Source

/-!
# Reading scripts

The grammar of scripts. A script is read a line at a time, so that what stands on its first
lines has run when a later one turns out to be wrong. A line is a list of commands, and as
many lines of text as these commands need.

* **`Script.readLine`** — the commands of the next line.
-/

namespace Bindery.Shell.Script

open Reader

/-- Where a sequence of pieces ends: behind a word, at a double quote, at a closing brace,
    behind the parentheses of an expression in which so many are open, or at the close of the
    text. -/
inductive Ending where
  | word | quote | brace
  | arithmetic (opened : Nat)
  | close
deriving DecidableEq

/-- How a list of commands ends: with the line; where a command that it belongs to goes on;
    or there, though it may be empty. -/
inductive ListKind where
  | line | inner | arm
deriving DecidableEq

/-- A piece in front of others, joined with the first if both are alike. -/
def join : Piece → List Piece → List Piece
  | .text a p, .text b q :: rest =>
    if p = q then .text (a ++ b) p :: rest else .text a p :: .text b q :: rest
  | piece, rest => piece :: rest

/-- The characters that a backslash quotes inside double quotes. -/
def escapable (ending : Ending) : List Char :=
  ['$', '\x60', '\\'] ++ match ending with
    | .quote => ['\x22']
    | .brace => ['\x22', '\x7d']
    | _ => []

/-- The text of a backquoted command: a backslash quotes itself, a dollar sign, a backquote,
    and, inside double quotes, a double quote. -/
def unquoteBackquoted (quoted : Bool) : List Char → List Char
  | '\\' :: c :: rest =>
    if c ∈ ['\\', '$', '\x60'] ∨ (quoted ∧ c = '\x22') then c :: unquoteBackquoted quoted rest
    else '\\' :: c :: unquoteBackquoted quoted rest
  | c :: rest => c :: unquoteBackquoted quoted rest
  | [] => []

/-- How many characters there are in front of the closing backquote. -/
def backquotedLength? : List Char → Option Nat
  | [] => none
  | '\\' :: _ :: rest => (backquotedLength? rest).map (· + 2)
  | c :: rest => if c = '\x60' then some 0 else (backquotedLength? rest).map (· + 1)

/-- The lines in front of one that is a mark, and the text behind it. The mark may be
    missing at the end of the text. -/
def takeUntilMark (indented : Bool) (mark : List Char) : (fuel : Nat) → List Char →
    List Char × List Char
  | 0, cs => ([], cs)
  | _ + 1, [] => ([], [])
  | fuel + 1, cs =>
    let line := cs.takeWhile (· ≠ '\n')
    let line := if indented then line.dropWhile (· = '\t') else line
    let after := (cs.dropWhile (· ≠ '\n')).drop 1
    if line = mark then ([], after)
    else
      let (lines, rest) := takeUntilMark indented mark fuel after
      (line ++ '\n' :: lines, rest)

/-- The mark of a text in a script, and whether a part of it is quoted. -/
def markOf : Word → String × Bool
  | [] => ("", false)
  | .text text quoted :: rest =>
    let (after, others) := markOf rest
    (text ++ after, quoted || others)
  | _ :: rest => markOf rest

/-- The number of a descriptor that is written as a digit. -/
def digit? (text : String) : Option Nat :=
  match text.toList with
  | [c] => if Text.isAsciiDigit c then some (c.toNat - 48) else none
  | _ => none

/-- Read the name of a parameter in braces. -/
def parameterName : Reader String := do
  match ← rest with
  | c :: _ =>
    if isNameStart c then return String.ofList (← takeWhile isNamePart)
    else if Text.isAsciiDigit c then return String.ofList (← takeWhile Text.isAsciiDigit)
    else if c ∈ specialParameters then
      skip 1
      return c.toString
    else return ""
  | [] => return ""

/-- Read what is made of a parameter in braces. -/
def change : Reader Change := do
  let text ← rest
  let (change, length) : Change × Nat := match text with
    | ':' :: '-' :: _ => (.default true, 2)
    | ':' :: '=' :: _ => (.assign true, 2)
    | ':' :: '?' :: _ => (.demand true, 2)
    | ':' :: '+' :: _ => (.alternative true, 2)
    | '-' :: _ => (.default false, 1)
    | '=' :: _ => (.assign false, 1)
    | '?' :: _ => (.demand false, 1)
    | '+' :: _ => (.alternative false, 1)
    | '%' :: '%' :: _ => (.dropBack true, 2)
    | '%' :: _ => (.dropBack false, 1)
    | '#' :: '#' :: _ => (.dropFront true, 2)
    | '#' :: _ => (.dropFront false, 1)
    | _ => (.none, 0)
  skip length
  return change

/-- The variable that a word sets, and the value. -/
def assignment? (word : Word) : Option (String × Word) :=
  match word with
  | .text text false :: rest =>
    let name := String.ofList (text.toList.takeWhile (· ≠ '='))
    match text.toList.dropWhile (· ≠ '=') with
    | _ :: value =>
      if isName name then
        some (name, if value.isEmpty then rest else .text (String.ofList value) false :: rest)
      else none
    | [] => none
  | _ => none

mutual

/-- Read pieces up to an ending. Inside double quotes blanks and single quotes are text. -/
def pieces : (fuel : Nat) → (quoted : Bool) → Ending → Reader (List Piece)
  | 0, _, _ => fail .tooDeep
  | fuel + 1, quoted, ending => do
    let put (count : Nat) (text : List Char) (quoted : Bool) (ending : Ending) :
        Reader (List Piece) := do
      skip count
      return join (.text (String.ofList text) quoted) (← pieces fuel quoted ending)
    match ← rest with
    | [] =>
      match ending with
      | .word | .close => return []
      | .quote => fail .openQuote
      | .brace => fail .openBrace
      | .arithmetic _ => fail .openArithmetic
    | '\\' :: '\n' :: _ =>
      skip 2
      pieces fuel quoted ending
    | '\\' :: c :: _ =>
      if !quoted then
        skip 2
        return join (.text c.toString true) (← pieces fuel quoted ending)
      else if c ∈ escapable ending then put 2 [c] quoted ending
      else put 1 ['\\'] quoted ending
    | '\\' :: [] =>
      skip 1
      return join (.text "\\" true) (← pieces fuel quoted ending)
    | '$' :: _ =>
      skip 1
      let piece ← dollar fuel quoted
      return join piece (← pieces fuel quoted ending)
    | '\x60' :: after =>
      let some length := backquotedLength? after | fail .openBackquote
      let line := (← get).line
      let inner := unquoteBackquoted quoted (after.take length)
      let script ← match (readAll fuel).run (.ofText inner line) with
        | .ok (script, _) => pure script
        | .error fault => throw fault
      skip (length + 2)
      return .output script quoted :: (← pieces fuel quoted ending)
    | c :: after =>
      if c = '\x22' ∧ ending = .quote then
        skip 1
        return []
      else if c = '\x22' ∧ !(quoted ∧ ending ≠ .brace) then
        skip 1
        let inner ← pieces fuel true .quote
        let rest ← pieces fuel quoted ending
        return (if inner.isEmpty then [.text "" true] else inner) ++ rest
      else if c.toNat = 0x27 ∧ !quoted then
        let text := after.takeWhile (·.toNat ≠ 0x27)
        if text.length = after.length then
          skip (text.length + 1)
          fail .openQuote
        skip (text.length + 2)
        return join (.text (String.ofList text) true) (← pieces fuel quoted ending)
      else match ending with
        | .word =>
          if endsWord c then return [] else put 1 [c] quoted ending
        | .brace =>
          if c = '\x7d' then
            skip 1
            return []
          else put 1 [c] quoted ending
        | .arithmetic opened =>
          if c = '(' then put 1 [c] quoted (.arithmetic (opened + 1))
          else if c = ')' ∧ opened > 0 then put 1 [c] quoted (.arithmetic (opened - 1))
          else if c = ')' then
            if after.head? = some ')' then
              skip 2
              return []
            else fail .openArithmetic
          else put 1 [c] quoted ending
        | .quote | .close => put 1 [c] quoted ending

/-- Read what stands behind a dollar sign. -/
def dollar : (fuel : Nat) → (quoted : Bool) → Reader Piece
  | 0, _ => fail .tooDeep
  | fuel + 1, quoted => do
    match ← rest with
    | '(' :: '(' :: _ =>
      skip 2
      return .arithmetic (← pieces fuel true (.arithmetic 0)) quoted
    | '(' :: _ =>
      skip 1
      let script ← list fuel .inner false
      let closing ← token fuel
      if !closing.is ")" then unexpected closing (some ")")
      return .output (Command.ofList script) quoted
    | '\x7b' :: _ =>
      skip 1
      braced fuel quoted
    | c :: _ =>
      if isNameStart c then
        return .parameter (String.ofList (← takeWhile isNamePart)) .none [] quoted
      else if Text.isAsciiDigit c || c ∈ specialParameters then
        skip 1
        return .parameter c.toString .none [] quoted
      else return .text "$" quoted
    | [] => return .text "$" quoted

/-- Read a parameter in braces, behind the opening one. -/
def braced : (fuel : Nat) → (quoted : Bool) → Reader Piece
  | 0, _ => fail .tooDeep
  | fuel + 1, quoted => do
    let text ← rest
    let isLength := match text with
      | '#' :: c :: d :: _ =>
        isNamePart c || (c ∈ specialParameters && d = '\x7d')
      | _ => false
    if isLength then skip 1
    let name ← parameterName
    if (← rest).take 2 = [':', '\x7d'] then
      skip 2
      let _ ← pieces fuel true .brace
      return .parameter name .malformed [] quoted
    let change : Change ← if isLength then pure .length else change
    match change with
    | .none | .length | .malformed =>
      let rest ← pieces fuel true .brace
      return .parameter name (if rest.isEmpty && name ≠ "" then change else .malformed) [] quoted
    | .dropFront _ | .dropBack _ =>
      return .parameter name change (← pieces fuel false .brace) quoted
    | _ => return .parameter name change (← pieces fuel quoted .brace) quoted

/-- Read a token. -/
def token : (fuel : Nat) → Reader Token
  | 0 => fail .tooDeep
  | fuel + 1 => do
    if let some token := (← get).putBack then
      modify fun source => { source with putBack := none }
      return token
    blanks ((← rest).length + 1)
    let text ← rest
    if let some sign := sign? text then
      skip sign.length
      return .sign sign
    if let some sign := redirectionSign? text then
      skip sign.length
      return .redirection (if sign.toList.head? = some '<' then 0 else 1) sign
    match text with
    | [] => return .ending
    | '\n' :: _ =>
      skip 1
      return .newline
    | c :: after =>
      match if Text.isAsciiDigit c then redirectionSign? after else none with
      | some sign =>
        skip (sign.length + 1)
        return .redirection (c.toNat - 48) sign
      | none => return .word (← pieces fuel false .word)

/-- Read a token that is not the end of a line. -/
def nextToken : (fuel : Nat) → Reader Token
  | 0 => fail .tooDeep
  | fuel + 1 => do
    match ← token fuel with
    | .newline => nextToken fuel
    | other => return other

/-- Read the rest of a redirection. -/
def redirection : (fuel : Nat) → (descriptor : Nat) → (sign : String) → Reader Redirection
  | 0, _, _ => fail .tooDeep
  | fuel + 1, descriptor, sign => do
    let word ← match ← token fuel with
      | .word word => pure word
      | other => unexpected other none
    let direction : Direction := match sign with
      | "<" => .read
      | ">>" => .append
      | "<>" => .both
      | "<<" | "<<-" => .text
      | "<&" | ">&" => .duplicate
      | ">|" => .replace
      | _ => .write
    match direction with
    | .text =>
      let (mark, quoted) := markOf word
      let source ← get
      let line := source.rest.takeWhile (· ≠ '\n')
      let after := (source.rest.dropWhile (· ≠ '\n')).drop 1
      let lines := after.count '\n'
      let (body, after) := takeUntilMark (sign = "<<-") mark.toList (after.length + 1) after
      set { source with
        rest := line ++ '\n' :: after
        ahead := source.ahead + (lines - after.count '\n') }
      if quoted then return .mk descriptor .text [.text (String.ofList body) true]
      match (pieces fuel true .close).run (.ofText body source.line) with
      | .ok (text, _) => return .mk descriptor .text text
      | .error fault => throw fault
    | .duplicate =>
      match bareText? word with
      | some text => if (digit? text).isNone && text ≠ "-" then fail .descriptor
      | none => pure ()
      return .mk descriptor .duplicate word
    | direction => return .mk descriptor direction word

/-- Read the redirections that follow a command. -/
def redirections : (fuel : Nat) → Reader (List Redirection)
  | 0 => fail .tooDeep
  | fuel + 1 => do
    match ← token fuel with
    | .redirection descriptor sign =>
      let first ← redirection fuel descriptor sign
      return first :: (← redirections fuel)
    | other =>
      back other
      return []

/-- Read a list of commands. `seen` says that it has begun. -/
def list : (fuel : Nat) → ListKind → (seen : Bool) → Reader (List Command)
  | 0, _, _ => fail .tooDeep
  | fuel + 1, kind, seen => do
    let first ← if kind = .line then token fuel else nextToken fuel
    match first with
    | .newline => return []
    | .ending =>
      back first
      return []
    | first =>
      back first
      if first.endsList && kind ≠ .line && (seen || kind = .arm) then return []
      let command ← andOr fuel
      match ← token fuel with
      | .sign "&" => return .background command :: (← list fuel kind true)
      | .sign ";" => return command :: (← list fuel kind true)
      | .newline =>
        if kind = .line then return [command] else return command :: (← list fuel kind true)
      | .ending =>
        back .ending
        return [command]
      | other =>
        if kind = .line then unexpected other none
        back other
        return [command]

/-- Read commands that depend on how the one before them ends. -/
def andOr : (fuel : Nat) → Reader Command
  | 0 => fail .tooDeep
  | fuel + 1 => do
    let first ← pipeline fuel
    andOrRest fuel first

/-- Read what follows a command that others may depend on. -/
def andOrRest : (fuel : Nat) → Command → Reader Command
  | 0, _ => fail .tooDeep
  | fuel + 1, first => do
    match ← token fuel with
    | .sign "&&" =>
      back (← nextToken fuel)
      let second ← pipeline fuel
      andOrRest fuel (.both first second)
    | .sign "||" =>
      back (← nextToken fuel)
      let second ← pipeline fuel
      andOrRest fuel (.either first second)
    | other =>
      back other
      return first

/-- Read commands that hand their output on. -/
def pipeline : (fuel : Nat) → Reader Command
  | 0 => fail .tooDeep
  | fuel + 1 => do
    let first ← token fuel
    let negated := first.is "!"
    if !negated then back first
    match ← pipelineParts fuel with
    | [command] => return if negated then .pipeline true [command] else command
    | parts => return .pipeline negated parts

/-- Read the commands of a pipeline. -/
def pipelineParts : (fuel : Nat) → Reader (List Command)
  | 0 => fail .tooDeep
  | fuel + 1 => do
    let first ← command fuel
    match ← token fuel with
    | .sign "|" =>
      back (← nextToken fuel)
      return first :: (← pipelineParts fuel)
    | other =>
      back other
      return [first]

/-- Read a token that has to be a certain one. -/
def expect : (fuel : Nat) → (text : String) → (afterLine : Bool) → Reader Unit
  | 0, _, _ => fail .tooDeep
  | fuel + 1, text, afterLine => do
    let found ← if afterLine then nextToken fuel else token fuel
    if !found.is text then unexpected found (some text)

/-- Read a list of commands inside another one. -/
def body : (fuel : Nat) → Reader (Option Command)
  | 0 => fail .tooDeep
  | fuel + 1 => return Command.ofList (← list fuel .inner false)

/-- Read a command. -/
def command : (fuel : Nat) → Reader Command
  | 0 => fail .tooDeep
  | fuel + 1 => do
    let first ← token fuel
    let finish (command : Command) : Reader Command := do
      match ← redirections fuel with
      | [] => return command
      | found => return .redirected command found
    match first, first.keyword? with
    | _, some "if" => finish (← choice fuel)
    | _, some "while" | _, some "until" =>
      let condition ← body fuel
      expect fuel "do" false
      let inner ← body fuel
      expect fuel "done" false
      finish (.loop (first.is "until") condition inner)
    | _, some "for" => finish (← forEach fuel)
    | _, some "case" =>
      let subject ← match ← token fuel with
        | .word word => pure word
        | other => fail (.unexpected other.title (some "word"))
      expect fuel "in" true
      finish (.select subject (← arms fuel))
    | _, some "\x7b" =>
      let inner ← body fuel
      expect fuel "\x7d" false
      finish (inner.getD default)
    | .sign "(", _ =>
      let inner ← body fuel
      expect fuel ")" false
      finish (.subshell inner)
    | .word _, none | .redirection _ _, _ =>
      back first
      simple fuel (← get).line [] [] []
    | other, _ => unexpected other none

/-- Read what stands behind `if` or `elif`. -/
def choice : (fuel : Nat) → Reader Command
  | 0 => fail .tooDeep
  | fuel + 1 => do
    let condition ← body fuel
    expect fuel "then" false
    let inner ← body fuel
    let next ← token fuel
    if next.is "elif" then return .choose condition inner (some (← choice fuel))
    else
      let otherwise ← if next.is "else" then body fuel
        else do
          back next
          pure none
      expect fuel "fi" false
      return .choose condition inner otherwise

/-- Read what stands behind `for`. -/
def forEach : (fuel : Nat) → Reader Command
  | 0 => fail .tooDeep
  | fuel + 1 => do
    let name ← match ← token fuel with
      | .word word =>
        match (bareText? word).filter isName with
        | some name => pure name
        | none => fail .loopVariable
      | _ => fail .loopVariable
    let next ← nextToken fuel
    let words ← if next.is "in" then some <$> wordsOf fuel
      else do
        if !next.is ";" then back next
        pure none
    expect fuel "do" true
    let inner ← body fuel
    expect fuel "done" false
    return .each name words inner

/-- Read the words of a loop up to the end of their line. -/
def wordsOf : (fuel : Nat) → Reader (List Word)
  | 0 => fail .tooDeep
  | fuel + 1 => do
    match ← token fuel with
    | .word word => return word :: (← wordsOf fuel)
    | .newline | .sign ";" => return []
    | other => unexpected other none

/-- Read the arms of `case`. -/
def arms : (fuel : Nat) → Reader (List (List Word × Option Command))
  | 0 => fail .tooDeep
  | fuel + 1 => do
    let first ← nextToken fuel
    if first.is "esac" then return []
    if !first.is "(" then back first
    let patterns ← patternsOf fuel
    let inner := Command.ofList (← list fuel .arm false)
    let next ← nextToken fuel
    if next.is ";;" then return (patterns, inner) :: (← arms fuel)
    else if next.is "esac" then return [(patterns, inner)]
    else unexpected next (some ";;")

/-- Read the patterns of an arm up to the parenthesis. -/
def patternsOf : (fuel : Nat) → Reader (List Word)
  | 0 => fail .tooDeep
  | fuel + 1 => do
    let pattern ← match ← token fuel with
      | .word word => pure word
      | other => unexpected other none
    match ← token fuel with
    | .sign "|" => return pattern :: (← patternsOf fuel)
    | .sign ")" => return [pattern]
    | other => unexpected other (some ")")

/-- Read a command of words. What is read comes last first. -/
def simple : (fuel : Nat) → (line : Nat) → List (String × Word) → List Word →
    List Redirection → Reader Command
  | 0, _, _, _, _ => fail .tooDeep
  | fuel + 1, line, assignments, words, found => do
    match ← token fuel with
    | .word word =>
      match if words.isEmpty then assignment? word else none with
      | some assigned => simple fuel line (assigned :: assignments) words found
      | none => simple fuel line assignments (word :: words) found
    | .redirection descriptor sign =>
      let one ← redirection fuel descriptor sign
      simple fuel line assignments words (one :: found)
    | .sign "(" =>
      match assignments, words, found with
      | [], [word], [] =>
        match ← token fuel with
        | .sign ")" =>
          match (bareText? word).filter fun name => isName name && !(name ∈ specialNames) with
          | some name =>
            back (← nextToken fuel)
            return .define name (← command fuel)
          | none => fail .functionName
        | .word _ => fail (.unexpected "word" (some "\x22)\x22"))
        | other => unexpected other (some ")")
      | _, _, _ => unexpected (.sign "(") none
    | other =>
      back other
      return .simple line assignments.reverse words.reverse found.reverse

/-- Read all commands of a text. -/
def readAll : (fuel : Nat) → Reader (Option Command)
  | 0 => fail .tooDeep
  | fuel + 1 => do
    let commands ← list fuel .inner false
    match ← token fuel with
    | .ending => return Command.ofList commands
    | other => unexpected other none

end

/-- The commands of the next line; nothing at the end of the script. The text has fewer
    nested parts than characters. -/
def readLine : Reader (Option (Option Command)) := do
  let fuel := 16 * ((← rest).length + 4)
  match ← token fuel with
  | .ending => return none
  | .newline => return some none
  | first =>
    back first
    return some (Command.ofList (← list fuel .line false))

end Bindery.Shell.Script
