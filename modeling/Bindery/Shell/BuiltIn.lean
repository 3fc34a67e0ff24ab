import Bindery.Shell.Expansion

/-!
# Commands of the shell itself

The commands that change the state of a shell, or that it knows without a program: those
that go to another directory, set variables and parameters, read a line, end loops and the
shell, and send signals.

* **`BuiltIn`** — such a command. A fault in a special one ends the shell.
* **`builtIn?`** — the command of a name.
-/

namespace Bindery.Shell

variable {m : Type → Type} [Machine m]

/-- A command of the shell itself. -/
structure BuiltIn (m : Type → Type) where
  isSpecial : Bool
  run : List String → Run m Nat

namespace BuiltIn

/-- Print a text. -/
def print (text : String) : Run m Unit := Run.send 1 (Text.utf8Bytes text)

/-- Complain, with status 2. -/
def refuse (text : String) : Run m Nat := do
  Run.complain text
  return 2

/-- The number that a word is, or else end the shell. -/
def natural (word : String) : Run m Nat :=
  match word.toList.all Text.isAsciiDigit, word.toNat? with
  | true, some n => return n
  | _, _ => Run.fatal s!"Illegal number: {word}"

/-- A text in quotes. -/
def quotedValue (text : String) : String :=
  "'" ++ String.ofList (text.toList.flatMap fun c =>
    if c.toNat = 0x27 then ['\'', '\x22', '\'', '\x22', '\''] else [c]) ++ "'"

-- ── places ───────────────────────────────────────────────────────────────────────

/-- A path without pieces that mean nothing and without pairs of a name and two dots. -/
def straightened (path : String) : String :=
  let absolute := FilePath.isAbsolute path
  let kept := (Text.splitText '/' path).foldl (fun kept piece =>
    if piece = "" || piece = "." then kept
    else if piece = ".." then
      match kept with
      | last :: rest => if last = ".." then ".." :: kept else rest
      | [] => if absolute then [] else [".."]
    else piece :: kept) []
  let text := Text.joinText '/' kept.reverse
  if absolute then "/" ++ text else text

/-- `cd` goes to another directory. -/
def goTo (words : List String) : Run m Nat := do
  let shell ← get
  let target := match words.filter fun word => word ≠ "-L" && word ≠ "-P" && word ≠ "--" with
    | "-" :: _ => some ((shell.value? "OLDPWD").getD "")
    | word :: _ => some word
    | [] => shell.value? "HOME"
  match target with
  | none => return 0
  | some target =>
    let folder := straightened (FilePath.join shell.folder target)
    match ← Run.files (m := m) (FileSystem.kind (if target = "" then "." else target)) with
    | .ok .folder =>
      let before := (shell.value? "PWD").getD ""
      modify fun shell => { shell with folder := folder }
      let now := straightened (FilePath.join (← FileSystem.here (m := m)) folder)
      Run.assign "OLDPWD" before
      Run.assign "PWD" now
      if words = ["-"] then print (now ++ "\n")
      return 0
    | _ => refuse s!"can't cd to {target}"

/-- `pwd` prints the directory. -/
def place (_ : List String) : Run m Nat := do
  print (((← get).value? "PWD").getD "" ++ "\n")
  return 0

-- ── variables ────────────────────────────────────────────────────────────────────

/-- The name of a word, and its value behind an equals sign. -/
def settingOf (word : String) : String × Option String :=
  let name := word.toList.takeWhile (· ≠ '=')
  (String.ofList name, match word.toList.drop name.length with
    | _ :: value => some (String.ofList value)
    | [] => none)

/-- Mark variables, and set those that come with a value; without names, list those that
    are marked. -/
def mark (title : String) (isMarked : Variable → Bool) (mark : Variable → Variable)
    (words : List String) : Run m Nat := do
  match words.filter (· ≠ "-p") with
  | [] =>
    let found := ((← get).entries.filter isMarked).mergeSort fun a b => a.name ≤ b.name
    for entry in found do
      let value := match entry.value with
        | some value => "=" ++ quotedValue value
        | none => ""
      print s!"{title} {entry.name}{value}\n"
    return 0
  | names =>
    for word in names do
      let (name, value) := settingOf word
      if !isName name then Run.fatal s!"{name}: bad variable name"
      if let some value := value then Run.assign name value
      modify fun shell => shell.change name mark
    return 0

/-- `unset` takes variables and functions away. -/
def unset (words : List String) : Run m Nat := do
  let functions := words.contains "-f"
  for name in words.filter fun word => word ≠ "-f" && word ≠ "-v" do
    let shell ← get
    if functions then set { shell with functions := shell.functions.filter (·.1 ≠ name) }
    else
      if (shell.entry? name).any (·.isFixed) then Run.fatal s!"{name}: is read only"
      set { shell with entries := shell.entries.filter (·.name ≠ name) }
  return 0

/-- `local` keeps variables as they are for the time after the function. -/
def keep (words : List String) : Run m Nat := do
  for word in words do
    let shell ← get
    let (name, value) := settingOf word
    match shell.frames with
    | [] => Run.fatal "not in a function"
    | frame :: frames =>
      if frame.all (·.1 ≠ name) then
        set { shell with frames := ((name, shell.entry? name) :: frame) :: frames }
      if let some value := value then Run.assign name value
  return 0

/-- `shift` drops parameters. -/
def shift (words : List String) : Run m Nat := do
  let count ← match words with
    | [] => pure 1
    | word :: _ => natural word
  let shell ← get
  if shell.parameters.length < count then Run.fatal "can't shift that many"
  set { shell with parameters := shell.parameters.drop count }
  return 0

/-- The letters of the options that have names. -/
def optionNames : List (String × Char) :=
  [("errexit", 'e'), ("noglob", 'f'), ("ignoreeof", 'I'), ("interactive", 'i'), ("monitor", 'm'),
    ("noexec", 'n'), ("stdin", 's'), ("xtrace", 'x'), ("verbose", 'v'), ("vi", 'V'), ("emacs", 'E'),
    ("noclobber", 'C'), ("allexport", 'a'), ("notify", 'b'), ("nounset", 'u'),
    ("privileged", 'p'), ("nolog", 'l'), ("debug", 'd')]

/-- Turn an option on or off. -/
def turn (on : Bool) (letter : Char) : Run m Unit := do
  if optionNames.all (·.2 ≠ letter) then
    Run.fatal ("Illegal option " ++ String.ofList [if on then '-' else '+', letter])
  modify fun shell =>
    let others := shell.flags.filter (· ≠ letter)
    { shell with flags := if on then others ++ [letter] else others }

/-- The options, for a reader or as commands that set them. -/
def listOptions (asCommands : Bool) : Run m Unit := do
  let shell ← get
  if !asCommands then print "Current option settings\n"
  for (name, letter) in optionNames do
    let on := shell.has letter
    if asCommands then
      let sign := if on then "-" else "+"
      print s!"set {sign}o {name}\n"
    else print (String.ofList (name.toList.rightpad 16 ' ') ++ (if on then "on" else "off") ++ "\n")

/-- The variables that are set. -/
def listVariables : Run m Unit := do
  for entry in (← get).entries.mergeSort fun a b => a.name ≤ b.name do
    if let some value := entry.value then print s!"{entry.name}={quotedValue value}\n"

/-- Turn options on and off and set the parameters. -/
def setOptions : List String → Run m Nat
  | [] => return 0
  | word :: rest => do
    let parameters (words : List String) : Run m Nat := do
      modify fun shell => { shell with parameters := words }
      return 0
    match word.toList with
    | ['-', '-'] => parameters rest
    | ['-', 'o'] | ['+', 'o'] =>
      match rest with
      | name :: rest =>
        match optionNames.find? (·.1 = name) with
        | some (_, letter) =>
          turn (word = "-o") letter
          setOptions rest
        | none => Run.fatal s!"Illegal option {word} {name}"
      | [] =>
        listOptions (word = "+o")
        return 0
    | '-' :: c :: cs =>
      (c :: cs).forM fun letter => turn (m := m) true letter
      setOptions rest
    | '+' :: c :: cs =>
      (c :: cs).forM fun letter => turn (m := m) false letter
      setOptions rest
    | _ => parameters (word :: rest)

/-- `set` turns options on and off and sets the parameters; without words it lists the
    variables. -/
def setShell (words : List String) : Run m Nat := do
  if words.isEmpty then listVariables
  setOptions words

-- ── reading ──────────────────────────────────────────────────────────────────────

/-- A line of input: characters, and whether each was quoted. A backslash quotes the next
    character and joins lines unless the line is `raw`. The second value tells whether a
    line feed ended it, the third is what follows. -/
def takeLine (raw : Bool) : List UInt8 → List (UInt8 × Bool) × Bool × List UInt8
  | [] => ([], false, [])
  | 92 :: c :: rest =>
    if raw then
      let (line, ended, after) := takeLine raw (c :: rest)
      ((92, false) :: line, ended, after)
    else
      let (line, ended, after) := takeLine raw rest
      (if c = 10 then line else (c, true) :: line, ended, after)
  | c :: rest =>
    if c = 10 then ([], true, rest)
    else
      let (line, ended, after) := takeLine raw rest
      ((c, false) :: line, ended, after)

/-- The characters of a line, and whether each was quoted. -/
def lineMarks (line : List (UInt8 × Bool)) : List Text.Mark :=
  let plain := (Text.decodeLossy (line.map (·.1))).toList
  if plain.length = line.length then plain.zipWith (fun c (_, quoted) => ⟨c, quoted⟩) line
  else plain.map (⟨·, false⟩)

/-- The values of so many names: fields, the last of which is the rest of the line. -/
def valuesOf (separators : List Char) : (count : Nat) → List Text.Mark → List String
  | 0, _ => []
  | count + 1, marks =>
    let ends (mark : Text.Mark) : Bool := !mark.quoted && separators.contains mark.char
    let white (mark : Text.Mark) : Bool := ends mark && isWhite mark.char
    let marks := marks.dropWhile white
    if count = 0 then [Text.Mark.text (marks.reverse.dropWhile white).reverse]
    else
      let field := marks.takeWhile fun mark => !ends mark
      let rest := (marks.drop field.length).dropWhile white
      let rest := match rest with
        | mark :: after => if ends mark then after else rest
        | [] => []
      Text.Mark.text field :: valuesOf separators count rest

/-- `read` puts the fields of a line of input into variables. -/
def readLine (words : List String) : Run m Nat := do
  let raw := words.contains "-r"
  match words.filter (· ≠ "-r") with
  | [] => refuse "arg count"
  | names =>
    let shell ← get
    let (line, ended) ← match shell.stream? 0 with
      | some (place, .source rest size) =>
        let (line, ended, after) := takeLine raw rest
        set (shell.setStream place (.source after size))
        pure (line, ended)
      | _ => pure ([], false)
    let values := valuesOf shell.separators names.length (lineMarks line)
    (names.zip values).forM fun (name, value) => Run.assign (m := m) name value
    return if ended then 0 else 1

-- ── ends and signals ─────────────────────────────────────────────────────────────

/-- `exit` ends the shell. -/
def leave (words : List String) : Run m Nat := do
  match words with
  | [] => throw (.exit (← get).status)
  | word :: _ => throw (.exit ((← natural word) % 256))

/-- `return` ends a function. -/
def giveBack (words : List String) : Run m Nat := do
  match words with
  | [] => throw (.returned (← get).status)
  | word :: _ => throw (.returned ((← natural word) % 256))

/-- `break` and `continue` end loops, or only what is left of them. -/
def leaveLoops (stop : Nat → Stop) (words : List String) : Run m Nat := do
  let count ← match words with
    | [] => pure 1
    | word :: _ => natural word
  if count = 0 then Run.fatal s!"Illegal number: {count}"
  let loops := (← get).loops
  if loops = 0 then return 0 else throw (stop (min count loops))

/-- The signals by their names. -/
def signals : List (String × Nat) :=
  [("EXIT", 0), ("HUP", 1), ("INT", 2), ("QUIT", 3), ("ILL", 4), ("TRAP", 5), ("ABRT", 6), ("BUS", 7),
    ("FPE", 8), ("KILL", 9), ("USR1", 10), ("SEGV", 11), ("USR2", 12), ("PIPE", 13), ("ALRM", 14),
    ("TERM", 15), ("STKFLT", 16), ("CHLD", 17), ("CONT", 18), ("STOP", 19), ("TSTP", 20), ("TTIN", 21),
    ("TTOU", 22), ("URG", 23), ("XCPU", 24), ("XFSZ", 25), ("VTALRM", 26), ("PROF", 27),
    ("WINCH", 28), ("POLL", 29), ("PWR", 30), ("SYS", 31)]

/-- The signals that do nothing to a process. -/
def idleSignals : List Nat := [0, 17, 18, 23, 28]

/-- The signal that a text names, by its number or its name. -/
def signal? (text : String) : Option Nat :=
  match text.toNat? with
  | some n => if n ≤ 64 then some n else none
  | none =>
    let upper := String.ofList (text.toList.flatMap Text.toUpper)
    (signals.find? (·.1 = upper)).map (·.2)

/-- What a shell says of a program that a signal has ended. -/
def signalTitle (signal : Nat) : String :=
  match signal with
  | 1 => "Hangup"
  | 2 | 13 => ""
  | 3 => "Quit"
  | 4 => "Illegal instruction"
  | 5 => "Trace/breakpoint trap"
  | 6 => "Aborted"
  | 7 => "Bus error"
  | 8 => "Floating point exception"
  | 9 => "Killed"
  | 10 => "User defined signal 1"
  | 11 => "Segmentation fault"
  | 12 => "User defined signal 2"
  | 14 => "Alarm clock"
  | 15 => "Terminated"
  | n => s!"Signal {n}"

/-- The name under which a trap is kept. -/
def trapName? (word : String) : Option String := do
  let n ← signal? word
  return ((signals.find? (·.2 = n)).map (·.1)).getD word

/-- `trap` says what runs on a signal, or at the end, or lists what has been said. -/
def trap (words : List String) : Run m Nat := do
  if words.isEmpty then
    let traps := (← get).traps
    for (name, _) in signals do
      if let some (_, text) := traps.find? (·.1 = name) then
        print s!"trap -- {quotedValue text} {name}\n"
  let (action, names) := match words.filter (· ≠ "--") with
    | [] => (none, [])
    | [name] => (none, [name])
    | "-" :: names => (none, names)
    | action :: names => (some action, names)
  for word in names do
    match trapName? word with
    | none =>
      Run.send 2 (Text.utf8Bytes s!"trap: {word}: bad trap\n")
      return 1
    | some name =>
      modify fun shell =>
        let others := shell.traps.filter (·.1 ≠ name)
        { shell with traps := match action with
            | some text => (name, text) :: others
            | none => others }
  return 0

/-- The usage of `kill`. -/
def killUsage : String :=
  "Usage: kill [-s sigspec | -signum | -sigspec] [pid | job]... or\nkill -l [exitstatus]"

/-- Send a signal to a process. Only the shell itself is known; its trap for the
    signal is left to be run. -/
def sendSignal (signal : Nat) (target : String) : Run m Nat := do
  let unsigned := if target.toList.head? = some '-' then String.ofList (target.toList.drop 1) else target
  if unsigned.toNat?.isNone then refuse s!"Illegal number: {target}"
  else if target = ownNumber then
    let name := ((signals.find? (·.2 = signal)).map (·.1)).getD ""
    let traps := (← get).traps
    match if signal = 9 then none else traps.find? (·.1 = name) with
    | some (_, text) =>
      modify fun shell => { shell with pending := shell.pending ++ [text] }
      return 0
    | none => if idleSignals.contains signal then return 0 else throw (.killed signal)
  else
    Run.complain "No such process\n"
    return 1

/-- The names that `kill` lists: a number where a signal has no name. -/
def listedSignals : List String :=
  let named := (List.range 32).map fun n =>
    if n = 0 ∨ n = 16 then toString n
    else if n = 29 then "IO"
    else ((signals.find? (·.2 = n)).map (·.1)).getD (toString n)
  let above := (List.range 15).map fun i => s!"RTMIN+{i + 1}"
  let below := (List.range 14).map fun i => s!"RTMAX-{14 - i}"
  named ++ ["32", "33", "RTMIN"] ++ above ++ below ++ ["RTMAX"]

/-- `kill` sends a signal. -/
def kill (words : List String) : Run m Nat := do
  let (signal, targets) := match words with
    | "-s" :: name :: rest => (signal? name, rest)
    | "--" :: rest => (some 15, rest)
    | word :: rest =>
      match word.toList with
      | '-' :: c :: cs => (signal? (String.ofList (c :: cs)), rest)
      | _ => (some 15, word :: rest)
    | [] => (some 15, [])
  match words, signal, targets with
  | ["-l"], _, _ =>
    print (String.join (listedSignals.map (· ++ "\n")))
    return 0
  | ["-s"], _, _ => Run.fatal "No arg for -s option"
  | "-l" :: n :: _, _, _ =>
    if n.toNat?.isNone then Run.fatal s!"Illegal number: {n}"
    let wanted := (n.toNat?.getD 0) % 128
    match signals.find? (·.2 = wanted) with
    | some (name, _) =>
      print (name ++ "\n")
      return 0
    | none => refuse s!"invalid signal number or exit status: {n}"
  | "-s" :: name :: _, none, _ => Run.fatal s!"invalid signal number or name: {name}"
  | word :: _, none, _ =>
    let letter := String.ofList ((word.toList.drop 1).take 1)
    Run.fatal s!"Illegal option -{letter}"
  | [], none, _ => refuse killUsage
  | _, _, [] => refuse killUsage
  | _, some signal, targets =>
    let mut status := 0
    for target in targets do
      let one ← sendSignal signal target
      if one ≠ 0 then status := one
    return status

end BuiltIn

open BuiltIn in
/-- The command of the shell itself of a name. -/
def builtIn? (name : String) : Option (BuiltIn m) :=
  match name with
  | ":" => some ⟨true, fun _ => return 0⟩
  | "cd" | "chdir" => some ⟨false, goTo⟩
  | "pwd" => some ⟨false, place⟩
  | "export" => some ⟨true, mark "export" (·.isExported) fun found => { found with isExported := true }⟩
  | "readonly" => some ⟨true, mark "readonly" (·.isFixed) fun found => { found with isFixed := true }⟩
  | "unset" => some ⟨true, unset⟩
  | "local" => some ⟨true, keep⟩
  | "shift" => some ⟨true, shift⟩
  | "set" => some ⟨true, setShell⟩
  | "read" => some ⟨false, readLine⟩
  | "exit" => some ⟨true, leave⟩
  | "return" => some ⟨true, giveBack⟩
  | "break" => some ⟨true, leaveLoops .left⟩
  | "continue" => some ⟨true, leaveLoops .next⟩
  | "trap" => some ⟨true, trap⟩
  | "kill" => some ⟨false, kill⟩
  | "umask" => some ⟨false, fun words => do
      if words.isEmpty then print "0022\n"
      return 0⟩
  | "wait" | "jobs" | "hash" | "alias" | "unalias" | "ulimit" => some ⟨false, fun _ => return 0⟩
  | "times" => some ⟨true, fun _ => do
      print "0m0.000000s 0m0.000000s\n0m0.000000s 0m0.000000s\n"
      return 0⟩
  | _ => none

/-- The commands of the shell itself that run other commands. -/
def runners : List String := ["eval", "exec", ".", "command", "type"]

/-- The programs that the shell runs itself. -/
def inner : List String := ["echo", "printf", "test", "[", "true", "false"]

end Bindery.Shell
