import Bindery.Shell.Arithmetic
import Bindery.Shell.Launch

/-!
# Running scripts

Gives words their values and runs commands. Commands in parentheses, in a pipeline or in a
substitution run in a copy of the shell, of which only the streams are kept. All of it
recurs on a number of steps, because a script need not end.

* **`Run.atomsOf`**, **`Run.wordsOf`** — the values of words.
* **`Run.run`** — run a command; **`Run.script`** — run the text of a script.
* **`Run.launch`** — run a program with its arguments.
* **`Command.run`** — run one by itself, and collect what it prints. So a shell and the
  utilities that come with it are the programs of any machine with files; every other one
  counts as not installed.
-/

namespace Bindery.Shell

open Text (Pattern)

variable {m : Type → Type} [Machine m]

namespace Run

-- ── parameters ───────────────────────────────────────────────────────────────────

/-- Whether a name stands for all parameters. -/
def isList (name : String) : Bool := name = "@" || name = "*"

/-- The values that a parameter stands for, if it is set. -/
def valuesOf (name : String) : Run m (Option (List String)) := do
  let shell ← get
  if isList name then return if shell.parameters.isEmpty then none else some shell.parameters
  else return (shell.parameter? name).map ([·])

/-- The atoms of the values of a parameter. In quotes `$*` is one value. -/
def atomsOfValues (name : String) (quoted : Bool) (values : List String) : Run m (List Atom) := do
  if name = "*" && quoted then
    let joint := ((← get).separators.head?.map fun c => String.ofList [c]).getD ""
    return Atom.ofValue true (joint.intercalate values)
  else return Atom.ofValues quoted values

/-- The atoms of a parameter as it is. -/
def plainParameter (name : String) (quoted : Bool) : Run m (List Atom) := do
  match ← valuesOf name with
  | some values => atomsOfValues name quoted values
  | none =>
    if (← get).has 'u' && !isList name then fatal s!"{name}: parameter not set"
    else return if name = "@" then [] else Atom.ofValue quoted ""

/-- The atoms of the length of a parameter: the number of its bytes, or of parameters. -/
def lengthOf (name : String) (quoted : Bool) : Run m (List Atom) := do
  match ← valuesOf name with
  | some values =>
    let n := if isList name then values.length else (values.head?.getD "").utf8ByteSize
    return Atom.ofValue quoted (toString n)
  | none =>
    if (← get).has 'u' then plainParameter name quoted else return Atom.ofValue quoted "0"

/-- The value of an expression of numbers; the variables that it sets are set. -/
def calculate (text : String) : Run m Int := do
  let shell ← get
  let result : Except ExpressionFault (Int × List (String × Int)) := do
    (← Expression.ofText text).value shell.value? |>.run []
  match result with
  | .error fault => fatal (fault.message text)
  | .ok (value, assigned) =>
    for (name, n) in assigned.reverse do
      assign name (toString n)
    return value

/-- A word in which the home of a user takes the place of a tilde at its front. -/
def atHome (word : Word) : Run m Word := do
  match word with
  | .text text false :: rest =>
    match text.toList with
    | '~' :: after =>
      let name := after.takeWhile fun c => c ≠ '/' && c ≠ ':'
      let behind := after.drop name.length
      let own := (← get).value? "HOME"
      let home := match String.ofList name with
        | "" => own
        | "root" => some "/root"
        | _ => none
      match if behind.isEmpty && !rest.isEmpty then none else home with
      | some home => return .text home true :: .text (String.ofList behind) false :: rest
      | none => return word
    | _ => return word
  | _ => return word

-- ── names of commands ────────────────────────────────────────────────────────────

/-- Whether a command is one of those whose faults end the shell. -/
def isSpecial (m : Type → Type) [Machine m] (name : String) : Bool :=
  ((builtIn? (m := m) name).any (·.isSpecial)) || name = "eval" || name = "exec" || name = "."

/-- What a name is for the shell itself. -/
def titleOf? (name : String) : Run m (Option String) := do
  let shell ← get
  return if keywords.contains name then some "is a shell keyword"
    else if shell.functions.any (·.1 = name) then some "is a shell function"
    else if isSpecial m name then some "is a special shell builtin"
    else if (builtIn? (m := m) name).isSome || runners.contains name || inner.contains name then
      some "is a shell builtin"
    else none

/-- Tell what names are: in full, or only by what a command of that name would run. -/
def describe (full : Bool) : List String → Run m Nat
  | [] => return 0
  | name :: rest => do
    let status ← match ← titleOf? (m := m) name with
      | some title => do
        BuiltIn.print (if full then s!"{name} {title}\n" else name ++ "\n")
        pure 0
      | none => do
        match ← program (m := m) name with
        | .ok found =>
          let path := if name.toList.contains '/' then name else "/usr/bin/" ++ found
          BuiltIn.print (if full then s!"{name} is {path}\n" else path ++ "\n")
          pure 0
        | .error _ =>
          if full then BuiltIn.print s!"{name}: not found\n"
          pure 127
    let others ← describe full rest
    return if others = 0 then status else others

/-- Complain about a program that cannot be run. -/
def notLaunched (name : String) (fault : FileFault) : Run m Ending := do
  let missing := fault = .notFound || fault = .notADirectory
  let reason := if missing then "not found" else fault.reason
  complain s!"{name}: {reason}"
  return .status (if missing || fault = .nameTooLong then 127 else 126)

/-- The status of a program that has ended. What a signal has done to it is told. -/
def statusOfEnding : Ending → Run m Nat
  | .status n => return n
  | .signal n => do
    let title := BuiltIn.signalTitle n
    if title ≠ "" then send 2 (Text.utf8Bytes (title ++ "\n"))
    return 128 + n

/-- Show a command before it runs, if that is wanted. -/
def trace (values : List (String × String)) (words : List String) : Run m Unit := do
  if (← get).has 'x' then
    let settings := values.map fun (name, value) => name ++ "=" ++ value
    send 2 (Text.utf8Bytes ("+ " ++ " ".intercalate (settings ++ words) ++ "\n"))

/-- The text of the script in a file, which is looked for only where its path says. -/
def sourceOf (path : String) : Run m String := do
  let fault ←
    if path.toList.contains '/' then
      match ← files (m := m) (FileSystem.readBytes (m := Utility m) path) with
      | .ok bytes => return Text.decodeLossy bytes
      | .error fault =>
        let reason := openingFault "No such file" fault
        pure s!"cannot open {path}: {reason}"
    else pure s!"{path}: not found"
  modify fun shell => { shell with caller := some "." }
  fatal fault

-- ── other shells ─────────────────────────────────────────────────────────────────

/-- A shell that another one runs: it has the variables that are handed on, and the
    streams. -/
def startedBy (outer : State) (name : String) : State :=
  let fresh := State.initial name [] outer.folder ((outer.value? "PWD").getD "")
  let handed := outer.entries.filter (·.isExported)
  { fresh with
    entries := handed ++ fresh.entries.filter fun standard =>
      handed.all (·.name ≠ standard.name)
    descriptors := outer.descriptors
    streams := outer.streams
    line := 0 }

/-- The script that the arguments of a shell ask for; nothing if there is none to run. -/
def scriptOf (words : List String) : Run m (Option String) := do
  let options := words.takeWhile fun word =>
    word.toList.head? = some '-' && word ≠ "-" && word ≠ "--"
  let letters := options.flatMap (·.toList.drop 1)
  for letter in letters do
    if letter ≠ 'c' then BuiltIn.turn true letter
  let rest := words.drop options.length
  let given := if rest.head? = some "--" then rest.drop 1 else rest
  let start (name : String) (parameters : List String) : Run m Unit :=
    modify fun shell => { shell with name := name, parameters := parameters, line := 1 }
  match letters.contains 'c', given with
  | true, [] => fatal "-c requires an argument"
  | true, text :: parameters =>
    start (parameters.head?.getD (← get).name) (parameters.drop 1)
    return some text
  | false, [] =>
    start (← get).name []
    return some (Text.decodeLossy (← takeAll 0))
  | false, path :: parameters =>
    match ← files (m := m) (FileSystem.readBytes (m := Utility m) path) with
    | .ok bytes =>
      start path parameters
      return some (Text.decodeLossy bytes)
    | .error .isADirectory => return none
    | .error fault =>
      let reason := openingFault "No such file" fault
      fatal s!"cannot open {path}: {reason}"

-- ── evaluation ───────────────────────────────────────────────────────────────────

mutual

/-- The atoms of pieces. `splits` says whether text that is not quoted is cut. -/
def atomsOf : (fuel : Nat) → (splits : Bool) → List Piece → Run m (List Atom)
  | 0, _, _ => throw .tooLong
  | _, _, [] => return []
  | fuel + 1, splits, piece :: rest => do
    let first ← atomsOfPiece fuel splits piece
    return first ++ (← atomsOf fuel splits rest)

/-- The atoms of a piece. -/
def atomsOfPiece : (fuel : Nat) → (splits : Bool) → Piece → Run m (List Atom)
  | 0, _, _ => throw .tooLong
  | fuel + 1, splits, piece => do
    match piece with
    | .text text quoted => return Atom.ofText quoted splits text
    | .arithmetic expression quoted =>
      let n ← calculate (Atom.textOf (← atomsOf fuel false expression))
      return Atom.ofValue quoted (toString n)
    | .output script quoted =>
      let (status, bytes) ← collecting fun place =>
        apart (fun shell => shell.connect 1 (some place)) (runBody fuel false script)
      setStatus status
      let text := (bytes.reverse.dropWhile (· = 10)).reverse.filter (· ≠ 0)
      return Atom.ofValue quoted (Text.decodeLossy text)
    | .parameter name change operand quoted => parameter fuel name change operand quoted

/-- The atoms of a parameter. -/
def parameter : (fuel : Nat) → (name : String) → Change → List Piece → (quoted : Bool) →
    Run m (List Atom)
  | 0, _, _, _, _ => throw .tooLong
  | fuel + 1, name, change, operand, quoted => do
    let values ← valuesOf name
    let isUnset (orEmpty : Bool) : Bool :=
      match values with
      | none => true
      | some values => orEmpty && values.all (· = "")
    let trimmed (trim : Pattern → String → String) : Run m (List Atom) := do
      let pattern := Pattern.ofMarks (Atom.marksOf (← atomsOf fuel false operand))
      match values with
      | some values => atomsOfValues name quoted (values.map (trim pattern))
      | none => plainParameter name quoted
    match change with
    | .none => plainParameter name quoted
    | .malformed => fatal "Bad substitution"
    | .length => lengthOf name quoted
    | .dropFront longest => trimmed fun pattern text => pattern.dropFront longest text
    | .dropBack longest => trimmed fun pattern text => pattern.dropBack longest text
    | .default orEmpty =>
      if isUnset orEmpty then atomsOf fuel (!quoted) operand else plainParameter name quoted
    | .alternative orEmpty =>
      if isUnset orEmpty then return Atom.ofValue quoted "" else atomsOf fuel (!quoted) operand
    | .assign orEmpty =>
      if isUnset orEmpty then
        let text := Atom.textOf (← atomsOf fuel false operand)
        if !isName name then fatal s!"{name}: bad variable name"
        assign name text
        return Atom.ofValue quoted text
      else plainParameter name quoted
    | .demand orEmpty =>
      if isUnset orEmpty then
        let text := Atom.textOf (← atomsOf fuel false operand)
        let text := if text ≠ "" then text
          else if orEmpty then "parameter not set or null" else "parameter not set"
        fatal s!"{name}: {text}"
      else plainParameter name quoted

/-- The text of a word that is not cut. -/
def textOf : (fuel : Nat) → Word → Run m String
  | 0, _ => throw .tooLong
  | fuel + 1, word => do
    return Atom.textOf (← atomsOf fuel false (← atHome word))

/-- The words that words of a script stand for. -/
def wordsOf : (fuel : Nat) → List Word → Run m (List String)
  | 0, _ => throw .tooLong
  | _, [] => return []
  | fuel + 1, word :: rest => do
    let atoms ← atomsOf fuel false (← atHome word)
    let found ← (fields (← get).separators atoms).mapM fun field => paths (m := m) field
    return found.flatten ++ (← wordsOf fuel rest)

/-- The variables that are set, with their values. -/
def valuesOfAll : (fuel : Nat) → List (String × Word) → Run m (List (String × String))
  | 0, _ => throw .tooLong
  | _, [] => return []
  | fuel + 1, (name, word) :: rest => do
    let text ← textOf fuel word
    return (name, text) :: (← valuesOfAll fuel rest)

/-- Redirect descriptors; whether all of it could be done. -/
def redirect : (fuel : Nat) → List Redirection → Run m Bool
  | 0, _ => throw .tooLong
  | _, [] => return true
  | fuel + 1, .mk descriptor direction target :: rest => do
    let text ← textOf fuel target
    let done ← match direction with
      | .text => connectNew descriptor (.source (Text.utf8Bytes text) none)
      | .duplicate =>
        if text = "-" then do
          modify fun shell => shell.connect descriptor none
          pure true
        else match Script.digit? text with
          | some source => connectTo descriptor source
          | none => fatal "Syntax error: Bad fd number"
      | direction => openFile descriptor direction text
    if done then redirect fuel rest else return false

/-- Run a command that may be missing. -/
def runBody : (fuel : Nat) → (tested : Bool) → Option Command → Run m Unit
  | 0, _, _ => throw .tooLong
  | fuel + 1, tested, body =>
    match body with
    | some command => run fuel tested command
    | none => setStatus 0

/-- Run a command. `tested` says that something depends on whether it fails. -/
def run : (fuel : Nat) → (tested : Bool) → Command → Run m Unit
  | 0, _, _ => throw .tooLong
  | fuel + 1, tested, command => do
    if (← get).has 'n' then return
    match command with
    | .simple line assignments words redirections =>
      modify fun shell => { shell with line := line }
      simple fuel assignments words redirections
      checked tested
      traps fuel
    | .pipeline negated parts =>
      match parts with
      | [one] => run fuel (tested || negated) one
      | parts => setStatus (← pipe fuel none parts)
      if negated then modify fun shell => { shell with status := if shell.status = 0 then 1 else 0 }
      else checked tested
    | .both first second =>
      run fuel true first
      if (← get).status = 0 then run fuel tested second
    | .either first second =>
      run fuel true first
      if (← get).status ≠ 0 then run fuel tested second
    | .sequence first second =>
      run fuel tested first
      run fuel tested second
    | .background command =>
      let _ ← apart id do
        let _ ← connectNew (m := m) 0 .null
        run fuel false command
      setStatus 0
    | .subshell body =>
      setStatus (← apart (fun shell => { shell with loops := 0 }) (runBody fuel tested body))
      checked tested
    | .redirected body redirections =>
      restoring do
        if ← redirect fuel redirections then run fuel tested body else setStatus 2
      checked tested
    | .choose condition body otherwise =>
      runBody fuel true condition
      if (← get).status = 0 then runBody fuel tested body else runBody fuel tested otherwise
    | .loop untilTrue condition body =>
      setStatus (← loop fuel tested untilTrue condition body 0)
    | .each name words body =>
      let values ← match words with
        | some words => wordsOf fuel words
        | none => do pure (← get).parameters
      setStatus 0
      each fuel tested name body values
    | .select subject arms =>
      let text ← textOf fuel subject
      select fuel tested text arms
    | .define name body =>
      modify fun shell =>
        { shell with functions := (name, body) :: shell.functions.filter (·.1 ≠ name), status := 0 }

/-- Run a loop with a condition; the status of what ran last in it. -/
def loop : (fuel : Nat) → (tested untilTrue : Bool) → (condition body : Option Command) →
    (status : Nat) → Run m Nat
  | 0, _, _, _, _, _ => throw .tooLong
  | fuel + 1, tested, untilTrue, condition, body, status => do
    if !(← loopBody (runBody fuel true condition)) then return 0
    if decide ((← get).status = 0) = untilTrue then return status
    let goesOn ← loopBody (runBody fuel tested body)
    let status := (← get).status
    if goesOn then loop fuel tested untilTrue condition body status else return status

/-- Run a command for each of some values of a variable. -/
def each : (fuel : Nat) → (tested : Bool) → (name : String) → Option Command → List String →
    Run m Unit
  | 0, _, _, _, _ => throw .tooLong
  | _, _, _, _, [] => return
  | fuel + 1, tested, name, body, value :: rest => do
    assign name value
    if ← loopBody (runBody fuel tested body) then each fuel tested name body rest

/-- Run the first arm with a pattern that matches. -/
def select : (fuel : Nat) → (tested : Bool) → (text : String) →
    List (List Word × Option Command) → Run m Unit
  | 0, _, _, _ => throw .tooLong
  | _, _, _, [] => setStatus 0
  | fuel + 1, tested, text, (patterns, body) :: rest => do
    let found ← patterns.anyM fun word => do
      let pattern := Pattern.ofMarks (Atom.marksOf (← atomsOf fuel false word))
      return pattern.accepts text
    if found then runBody fuel tested body else select fuel tested text rest

/-- Run commands each of which reads what the one before has written. -/
def pipe : (fuel : Nat) → (input : Option (List UInt8)) → List Command → Run m Nat
  | 0, _, _ => throw .tooLong
  | _, _, [] => return 0
  | fuel + 1, input, command :: rest => do
    let part (out : Option Nat) : Run m Nat := do
      apart (fun shell => { shell with loops := 0 }) do
        if let some bytes := input then
          let _ ← connectNew (m := m) 0 (.source bytes none)
        if let some place := out then modify fun shell => shell.connect 1 (some place)
        run fuel false command
    if rest.isEmpty then part none
    else
      let (_, bytes) ← collecting fun place => part (some place)
      pipe fuel (some bytes) rest

/-- Run the traps whose signals have come. -/
def traps : (fuel : Nat) → Run m Unit
  | 0 => throw .tooLong
  | fuel + 1 => do
    let shell ← get
    match shell.pending with
    | [] => return
    | text :: rest =>
      set { shell with pending := rest }
      script fuel text
      setStatus shell.status
      traps fuel

/-- Run a command of words. Without words it only sets variables, and its status is that
    of the last substitution. -/
def simple : (fuel : Nat) → List (String × Word) → List Word → List Redirection → Run m Unit
  | 0, _, _, _ => throw .tooLong
  | fuel + 1, assignments, words, redirections => do
    let before := (← get).status
    match ← wordsOf fuel words with
    | [] =>
      if words.isEmpty then setStatus 0
      restoring do
        if ← redirect fuel redirections then
          for (name, text) in ← valuesOfAll fuel assignments do
            assign name text
        else setStatus 2
    | name :: arguments =>
      let act : Run m Unit := do
        if ← redirect fuel redirections then
          let values ← valuesOfAll fuel assignments
          trace values (name :: arguments)
          setStatus before
          setStatus (← withValues (isSpecial m name) values (execute fuel true (name :: arguments)))
        else
          setStatus 2
          if isSpecial m name then throw (.exit 2)
      if name = "exec" ∧ arguments.isEmpty then act else restoring act

/-- Run a command by its name; `functions` says whether it may be a function. -/
def execute : (fuel : Nat) → (functions : Bool) → List String → Run m Nat
  | 0, _, _ => throw .tooLong
  | _, _, [] => return 0
  | fuel + 1, functions, name :: arguments => do
    let shell ← get
    match if functions then shell.functions.find? (·.1 = name) else none with
    | some (_, body) => functionBody arguments (run fuel false body)
    | none =>
      match name, arguments with
      | "eval", words =>
        inNameOf "eval" do
          setStatus 0
          script fuel (" ".intercalate words)
        return (← get).status
      | ".", path :: _ =>
        let text ← sourceOf path
        match ← outcome (script fuel text) with
        | .ok () => return (← get).status
        | .error (.returned n) => return n
        | .error stop => throw stop
      | "exec", [] => return 0
      | "exec", program :: rest =>
        modify fun shell => { shell with traps := [] }
        let ending ← match ← launch fuel (program :: rest) with
          | .ok ending => pure ending
          | .error fault => inNameOf "exec" (notLaunched program fault)
        match ending with
        | .status n => throw (.exit n)
        | .signal n => throw (.killed n)
      | "command", "-v" :: words => describe false (words.take 1)
      | "command", "-V" :: words => describe true (words.take 1)
      | "command", "-p" :: words | "command", words => execute fuel false words
      | "type", words => describe true words
      | name, arguments =>
        match builtIn? (m := m) name with
        | some found => inNameOf name (found.run arguments)
        | none =>
          match if inner.contains name then Utility.installed? (m := m) name else none with
          | some act => utility shell.label (act arguments)
          | none =>
            match ← launch fuel (name :: arguments) with
            | .ok ending => statusOfEnding ending
            | .error fault => statusOfEnding (← notLaunched name fault)

/-- Run a program with its arguments, or tell why that cannot be done. -/
def launch : (fuel : Nat) → List String → Run m (Except FileFault Ending)
  | 0, _ => throw .tooLong
  | _, [] => return .ok (.status 0)
  | fuel + 1, word :: arguments => do
    match ← program word with
    | .error fault => return .error fault
    | .ok name =>
      match name, arguments with
      | "sh", words | "dash", words => return .ok (← shell fuel word words)
      | "env", words => return .ok (.status (← environment (launch fuel) words))
      | "xargs", words => return .ok (.status (← gather (launch fuel) words))
      | "find", words => return .ok (.status (← search (launch fuel) words))
      | "nice", "-n" :: _ :: words | "timeout", _ :: words | "nice", words | "nohup", words =>
        launch fuel words
      | name, words =>
        match Utility.installed? (m := m) name with
        | some act => return .ok (.status (← utility "" (act words)))
        | none => return .error .notFound

/-- Run another shell. -/
def shell : (fuel : Nat) → (name : String) → List String → Run m Ending
  | 0, _, _ => throw .tooLong
  | fuel + 1, name, words => do
    let outer ← get
    set (startedBy outer name)
    let result ← outcome do
      if let some text ← scriptOf words then script fuel text
    let result ← outcome (atExit fuel result)
    let inner ← get
    set { outer with streams := inner.streams }
    match result with
    | .ok () | .error (.left _) | .error (.next _) => return .status inner.status
    | .error (.exit n) | .error (.returned n) => return .status n
    | .error (.killed n) => return .signal n
    | .error .tooLong => throw .tooLong

/-- Run what is to run at the end of a shell. -/
def atExit : (fuel : Nat) → Except Stop Unit → Run m Unit
  | 0, _ => throw .tooLong
  | fuel + 1, result => do
    let shell ← get
    let status := match result with
      | .ok () => some shell.status
      | .error (.exit n) | .error (.returned n) => some n
      | .error _ => none
    match status, shell.traps.find? (·.1 = "EXIT") with
    | some status, some (_, text) =>
      set { shell with traps := [], status := status }
      script fuel text
      throw (.exit status)
    | _, _ => resume result

/-- Run a text line by line. -/
def script : (fuel : Nat) → (text : String) → Run m Unit
  | 0, _ => throw .tooLong
  | fuel + 1, text => lines fuel (.ofText text.toList 1)

/-- Run what is left of a text. -/
def lines : (fuel : Nat) → Source → Run m Unit
  | 0, _ => throw .tooLong
  | fuel + 1, source => do
    match Script.readLine.run source with
    | .error fault =>
      modify fun shell => { shell with line := fault.line }
      let text := fault.cause.message
      fatal s!"Syntax error: {text}"
    | .ok (none, _) => return
    | .ok (some command, rest) =>
      if let some command := command then run fuel false command
      lines fuel rest

end

end Run

end Bindery.Shell

namespace Bindery.Command

open Shell (State Run)

/-- The number of steps after which a command that has not ended counts as killed. -/
def stepLimit : Nat := 10000000

/-- The fault of a command with a null character, which ends a word for the system. -/
def nulFault : FileFault := .other "nul byte found in provided data"

/-- The surroundings of a command: nothing to read, and two outputs that are collected. -/
def surroundings (program here : String) : State :=
  { State.initial program [] "" here with
    streams := [.null, .collected [], .collected []]
    descriptors := [(0, 0), (1, 1), (2, 2)] }

/-- The text that has been collected at a place. -/
def collected (shell : State) (place : Nat) : String :=
  match shell.streams[place]? with
  | some (.collected bytes) => Text.decodeLossy bytes
  | _ => ""

variable {m : Type → Type} [Monad m] [FileSystem m]

/-- Run a program with its arguments. -/
def run (program : String) (arguments : List String) : ExceptT FileFault m Outcome := do
  if (program :: arguments).any fun word => word.toList.any (·.toNat = 0) then throw nulFault
  let start := surroundings program (← FileSystem.here (m := m))
  let (result, shell) ←
    (ExceptT.run (Run.launch (m := m) stepLimit (program :: arguments)) start : m _)
  let status ← match result with
    | .ok (.error fault) => throw fault
    | .ok (.ok (.status n)) => pure (some n)
    | .ok (.ok (.signal _)) | .error _ => pure none
  return ⟨status, collected shell 1, collected shell 2⟩

instance : Programs m where
  run := run

end Bindery.Command
