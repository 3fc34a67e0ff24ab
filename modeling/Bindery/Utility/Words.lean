import Bindery.Utility.Condition

/-!
# Utilities that work on words

* **`echo`**, **`format`** — print words.
* **`test`** — asks whether a condition holds.
* **`lastName`**, **`folderName`** — parts of paths.
* **`numbers`** — numbers in a row.
-/

namespace Bindery.Utility

variable {m : Type → Type} [Machine m]

/-- Complain as a command of a shell. -/
def complainAs (name text : String) : Utility m Unit := do
  complain ((← get).label ++ name ++ ": " ++ text)

/-- `echo` prints its words with their escapes put in place. -/
def echo (words : List String) : Utility m Nat := do
  let (silent, words) := match words with
    | "-n" :: rest => (true, rest)
    | words => (false, words)
  let (chars, stops) := unescape (charsOf (Text.utf8Bytes (" ".intercalate words)))
  put .out (ofChars (if silent || stops then chars else chars ++ ['\n']))
  return 0

/-- `printf` prints its operands in the places of a format. -/
def format (words : List String) : Utility m Nat := do
  let option? : Option Char := match words.head?.map String.toList with
    | some ['-', '-'] => none
    | some ('-' :: c :: _) => some c
    | _ => none
  match option?, if words.head? = some "--" then words.drop 1 else words with
  | some c, _ =>
    complainAs "printf" s!"Illegal option -{c}"
    return 2
  | none, [] =>
    complainAs "printf" "usage: printf format [arg ...]"
    return 2
  | none, text :: operands =>
    let filled := Format.fill text operands
    put .out (ofChars filled.chars)
    for fault in filled.faults do
      complainAs "printf" fault.message
    return (filled.faults.map FormatFault.status).foldl max 0

/-- `test` asks whether a condition holds: the status is 0 if it does, and 1 if not. -/
def test (name : String) (words : List String) : Utility m Nat := do
  match ← (Condition.holds (m := m) words).run with
  | .ok true => return 0
  | .ok false => return 1
  | .error text =>
    complainAs name text
    return 2

/-- `[` is `test` with a closing bracket. -/
def bracket (words : List String) : Utility m Nat := do
  if words.getLast? = some "]" then test "[" words.dropLast
  else
    complainAs "[" "missing ]"
    return 2

/-- A text without an ending, unless it is nothing else. -/
def withoutEnding (ending text : String) : String :=
  if ending.toList.isSuffixOf text.toList ∧ ending ≠ text then
    String.ofList (text.toList.take (text.length - ending.length))
  else text

/-- `basename` prints the last names of paths. -/
def lastName (words : List String) : Utility m Nat :=
  withArguments "basename" 1 ⟨"az", "s", [("multiple", 'a'), ("suffix", 's')], true⟩ words
    fun arguments => do
  match arguments.value? 's', arguments.operands with
  | _, [] => misused "basename" "missing operand" 1
  | some ending, paths =>
    paths.forM fun path => print (m := m) (withoutEnding ending (baseName path) ++ "\n")
    return 0
  | none, paths =>
    if arguments.has 'a' then
      paths.forM fun path => print (m := m) (baseName path ++ "\n")
      return 0
    else match paths with
      | [path, ending] =>
        print (withoutEnding ending (baseName path) ++ "\n")
        return 0
      | _ :: _ :: extra :: _ => misused "basename" s!"extra operand {marked extra}" 1
      | _ =>
        print (baseName (paths.head?.getD "") ++ "\n")
        return 0

/-- The directory of a path; slashes at the end mean nothing. -/
def folderOf (path : String) : String :=
  let strip (cs : List Char) : List Char := (cs.reverse.dropWhile (· = '/')).reverse
  let cs := path.toList
  let above := (strip cs).reverse.dropWhile (· ≠ '/')
  if above.isEmpty then (if cs.head? = some '/' then "/" else ".")
  else
    let folder := strip above.reverse
    if folder.isEmpty then "/" else String.ofList folder

/-- `dirname` prints the directories of paths. -/
def folderName (words : List String) : Utility m Nat :=
  withArguments "dirname" 1 ⟨"z", "", [], false⟩ words fun arguments => do
  if arguments.operands.isEmpty then misused "dirname" "missing operand" 1
  else
    arguments.operands.forM fun path => print (m := m) (folderOf path ++ "\n")
    return 0

/-- The whole number that a text is. -/
def wholeNumber? (text : String) : Option Int :=
  match takeInteger text.toList with
  | some (n, []) => some n
  | _ => none

/-- `seq` prints numbers in a row. -/
def numbers (words : List String) : Utility m Nat := do
  let (separator, words) := match words with
    | "-s" :: text :: rest => (text, rest)
    | word :: rest =>
      match word.toList with
      | '-' :: 's' :: text => (String.ofList text, rest)
      | _ => ("\n", words)
    | [] => ("\n", [])
  let (wide, words) := match words with
    | "-w" :: rest => (true, rest)
    | words => (false, words)
  match words.mapM wholeNumber? with
  | none =>
    let wrong := (words.find? fun word => (wholeNumber? word).isNone).getD ""
    misused "seq" s!"invalid floating point argument: {marked wrong}" 1
  | some found =>
    let range : Option (Int × Int × Int) := match found with
      | [last] => some (1, 1, last)
      | [first, last] => some (first, 1, last)
      | [first, step, last] => some (first, step, last)
      | _ => none
    match range with
    | none =>
      match words with
      | [] => misused "seq" "missing operand" 1
      | words =>
        let extra := words.getLast?.getD ""
        misused "seq" s!"extra operand {marked extra}" 1
    | some (first, step, last) =>
      if step = 0 then misused "seq" ("invalid Zero increment value: " ++ marked "0") 1
      else
        let count := if (step > 0 ∧ last < first) ∨ (step < 0 ∧ first < last) then 0
          else ((last - first) / step).toNat + 1
        let shown := (List.range count).map fun (i : Nat) => toString (first + step * (i : Int))
        let width := (shown.map String.length).foldl max 0
        let shown := if wide then shown.map fun text =>
            String.ofList (List.replicate (width - text.length) '0') ++ text
          else shown
        if count > 0 then print (separator.intercalate shown ++ "\n")
        return 0

/-- Whether a text is a time: a number, and the letter of a unit behind it or not. -/
def isTime (text : String) : Bool :=
  match RealOperand.take? text.toList with
  | some (x, rest) => !x.negative && rest ∈ [[], ['s'], ['m'], ['h'], ['d']]
  | none => false

/-- `sleep` waits, which nothing can tell. -/
def sleep (words : List String) : Utility m Nat := do
  match words.filter (!isTime ·) with
  | [] => if words.isEmpty then misused "sleep" "missing operand" 1 else return 0
  | wrong =>
    for word in wrong do
      complain s!"sleep: invalid time interval {marked word}"
    complain "Try 'sleep --help' for more information."
    return 1

end Bindery.Utility
