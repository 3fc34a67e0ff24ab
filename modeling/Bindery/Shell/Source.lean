import Bindery.Text.Char

/-!
# Scripts and their text

A script is a command that may be built from others. Its words are lists of pieces, which
are given their values when the command runs. The text of a script is read from the front.
A token that has been taken can be put back once, because only what follows a command tells
where it ends.

* **`Piece`**, **`Word`** — the parts of a word.
* **`Redirection`** — where a descriptor of a command leads.
* **`Command`** — commands.
* **`Token`** — a word, or a sign between words.
* **`SyntaxFault`** — what is wrong with a script, and on which line.
* **`Source`**, **`Reader`** — what is left of a script, and what reads it.
-/

namespace Bindery.Shell

/-- What is made of the value of a parameter: the value, its length, or something that
    depends on whether the parameter is set. `orEmpty` counts an empty one as unset. -/
inductive Change where
  | none
  | length
  | default (orEmpty : Bool)
  | assign (orEmpty : Bool)
  | demand (orEmpty : Bool)
  | alternative (orEmpty : Bool)
  | dropFront (longest : Bool)
  | dropBack (longest : Bool)
  | malformed
deriving DecidableEq

/-- How a redirection uses its word: as a path, as the number of a descriptor, or as the
    text itself. A file that exists is always emptied by `replace`, but by `write` only if
    the shell allows it. -/
inductive Direction where
  | read | write | replace | append | both | duplicate | text
deriving DecidableEq

mutual

/-- A part of a word. What is `quoted` is neither cut at blanks nor taken as a pattern. -/
inductive Piece where
  | text (text : String) (quoted : Bool)
  | parameter (name : String) (change : Change) (operand : List Piece) (quoted : Bool)
  | output (script : Option Command) (quoted : Bool)
  | arithmetic (expression : List Piece) (quoted : Bool)

/-- Where a descriptor leads. -/
inductive Redirection where
  | mk (descriptor : Nat) (direction : Direction) (target : List Piece)

/-- A command. A simple one knows the line that it stands on. -/
inductive Command where
  | simple (line : Nat) (assignments : List (String × List Piece)) (words : List (List Piece))
      (redirections : List Redirection)
  | pipeline (negated : Bool) (parts : List Command)
  | both (first second : Command)
  | either (first second : Command)
  | sequence (first second : Command)
  | background (command : Command)
  | subshell (body : Option Command)
  | redirected (body : Command) (redirections : List Redirection)
  | choose (condition body : Option Command) (otherwise : Option Command)
  | loop (untilTrue : Bool) (condition body : Option Command)
  | each (name : String) (words : Option (List (List Piece))) (body : Option Command)
  | select (subject : List Piece) (arms : List (List (List Piece) × Option Command))
  | define (name : String) (body : Command)

end

/-- A word of a command. -/
abbrev Word := List Piece

instance : Inhabited Command := ⟨.subshell none⟩

/-- A list of commands as one, if there is any. -/
def Command.ofList : List Command → Option Command
  | [] => none
  | command :: rest =>
    match ofList rest with
    | none => some command
    | some others => some (.sequence command others)

/-- The text of a word that is written without quotes and without parameters. -/
def bareText? : Word → Option String
  | [] => some ""
  | .text text false :: rest => (bareText? rest).map (text ++ ·)
  | _ => none

-- ── tokens ───────────────────────────────────────────────────────────────────────

/-- A token of a script. -/
inductive Token where
  | ending
  | newline
  | sign (text : String)
  | redirection (descriptor : Nat) (sign : String)
  | word (word : Word)

/-- The words with a meaning of their own where a command begins. -/
def keywords : List String :=
  ["!", "case", "do", "done", "elif", "else", "esac", "fi", "for", "if", "in", "then", "until",
    "while", "\x7b", "\x7d"]

/-- The commands whose names cannot be those of functions. -/
def specialNames : List String :=
  ["break", "continue", "eval", "exec", "exit", "export", "local", "readonly", "return", "set",
    "shift", "times", "trap", "unset"]

/-- The keyword that a token is. -/
def Token.keyword? : Token → Option String
  | .word pieces => (bareText? pieces).filter (· ∈ keywords)
  | _ => none

/-- Whether a token is a sign or a keyword. -/
def Token.is (token : Token) (text : String) : Bool :=
  match token with
  | .sign other => other = text
  | token => token.keyword? = some text

/-- Whether a token ends a list of commands inside another command. -/
def Token.endsList : Token → Bool
  | .ending => true
  | .sign text => text = ")" || text = ";;"
  | token => token.keyword?.any
      (· ∈ ["do", "done", "elif", "else", "esac", "fi", "then", "\x7d"])

/-- What a token is called. -/
def Token.title : Token → String
  | .ending => "end of file"
  | .newline => "newline"
  | .sign text => s!"\"{text}\""
  | .redirection _ _ => "redirection"
  | token@(.word _) => (token.keyword?.map fun text => s!"\"{text}\"").getD "word"

-- ── faults ───────────────────────────────────────────────────────────────────────

/-- Why a script cannot be read. -/
inductive SyntaxCause where
  | unexpected (found : String) (expected : Option String)
  | openQuote
  | openBrace
  | openArithmetic
  | openBackquote
  | loopVariable
  | functionName
  | descriptor
  | tooDeep
deriving DecidableEq

/-- Why a script cannot be read, and the line on which that shows. -/
structure SyntaxFault where
  line : Nat
  cause : SyntaxCause
deriving DecidableEq

/-- The wording of a fault. -/
def SyntaxCause.message : SyntaxCause → String
  | .unexpected found none => s!"{found} unexpected"
  | .unexpected found (some expected) => s!"{found} unexpected (expecting {expected})"
  | .openQuote => "Unterminated quoted string"
  | .openBrace => "Missing '\x7d'"
  | .openArithmetic => "Missing '))'"
  | .openBackquote => "EOF in backquote substitution"
  | .loopVariable => "Bad for loop variable"
  | .functionName => "Bad function name"
  | .descriptor => "Bad fd number"
  | .tooDeep => "Commands are nested too deeply"

-- ── reading ──────────────────────────────────────────────────────────────────────

/-- What is left of a script: the token that was put back, the text, the number of the
    line that has been reached, and how many lines behind it have been taken already. -/
structure Source where
  putBack : Option Token
  rest : List Char
  line : Nat
  ahead : Nat

/-- A script of a text that starts on a line. -/
def Source.ofText (text : List Char) (line : Nat) : Source := ⟨none, text, line, 0⟩

/-- Reads a script from the front. -/
abbrev Reader := StateT Source (Except SyntaxFault)

namespace Reader

/-- Find fault with a script. -/
def fail {α : Type} (cause : SyntaxCause) : Reader α := do
  throw ⟨(← get).line, cause⟩

/-- Find fault with a token. -/
def unexpected {α : Type} (token : Token) (expected : Option String) : Reader α :=
  fail (.unexpected token.title (expected.map fun text => s!"\"{text}\""))

/-- The text that is left. -/
def rest : Reader (List Char) := return (← get).rest

/-- Go on behind some characters. -/
def skip (count : Nat) : Reader Unit :=
  modify fun source =>
    let passed := (source.rest.take count).count '\n'
    { source with
      rest := source.rest.drop count
      line := source.line + passed + (if passed = 0 then 0 else source.ahead)
      ahead := if passed = 0 then source.ahead else 0 }

/-- Take the characters up to the first that fails a test. -/
def takeWhile (test : Char → Bool) : Reader (List Char) := do
  let taken := (← rest).takeWhile test
  skip taken.length
  return taken

/-- Put a token back. -/
def back (token : Token) : Reader Unit := modify fun source => { source with putBack := some token }

/-- Pass over blanks, broken lines and a comment. -/
def blanks : (fuel : Nat) → Reader Unit
  | 0 => return
  | fuel + 1 => do
    match ← rest with
    | ' ' :: _ | '\t' :: _ =>
      skip 1
      blanks fuel
    | '\\' :: '\n' :: _ =>
      skip 2
      blanks fuel
    | '#' :: _ =>
      let _ ← takeWhile (· ≠ '\n')
    | _ => return

/-- The sign at the front of a text that is not part of a word. -/
def sign? : List Char → Option String
  | '&' :: '&' :: _ => some "&&"
  | '&' :: _ => some "&"
  | '|' :: '|' :: _ => some "||"
  | '|' :: _ => some "|"
  | ';' :: ';' :: _ => some ";;"
  | ';' :: _ => some ";"
  | '(' :: _ => some "("
  | ')' :: _ => some ")"
  | _ => none

/-- The sign of a redirection at the front of a text. -/
def redirectionSign? : List Char → Option String
  | '<' :: '<' :: '-' :: _ => some "<<-"
  | '<' :: '<' :: _ => some "<<"
  | '<' :: '&' :: _ => some "<&"
  | '<' :: '>' :: _ => some "<>"
  | '<' :: _ => some "<"
  | '>' :: '>' :: _ => some ">>"
  | '>' :: '&' :: _ => some ">&"
  | '>' :: '|' :: _ => some ">|"
  | '>' :: _ => some ">"
  | _ => none

/-- Whether a character ends a word unless it is quoted. -/
def endsWord (c : Char) : Bool := c ∈ [' ', '\t', '\n', '&', '|', ';', '(', ')', '<', '>']

end Reader

-- ── names ────────────────────────────────────────────────────────────────────────

/-- Whether a character may begin the name of a variable. -/
def isNameStart (c : Char) : Bool := Text.isAsciiLower c || Text.isAsciiUpper c || c = '_'

/-- Whether a character may be part of the name of a variable. -/
def isNamePart (c : Char) : Bool := isNameStart c || Text.isAsciiDigit c

/-- Whether a text is the name of a variable. -/
def isName (text : String) : Bool :=
  text.toList.head?.any isNameStart && text.toList.all isNamePart

/-- The parameters with a name of one sign. -/
def specialParameters : List Char := ['@', '*', '#', '?', '-', '$', '!']

end Bindery.Shell
