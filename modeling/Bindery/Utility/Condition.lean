import Bindery.Utility.Format

/-!
# Conditions

What `test` asks about texts, numbers and files, with negation, conjunction and
disjunction.

* **`Condition.holds`** — whether a condition holds, or what is wrong with it.
-/

namespace Bindery.Utility.Condition

variable {m : Type → Type} [Machine m]

/-- Evaluates a condition from the front of its words; a failure is a complaint. -/
abbrev Tester (m : Type → Type) := StateT (List String) (ExceptT String (Utility m))

/-- The operators on one operand. -/
def unary : List String :=
  ["-n", "-z", "-e", "-f", "-d", "-s", "-r", "-w", "-x", "-h", "-L", "-p", "-S", "-b", "-c", "-t",
    "-u", "-g", "-k", "-O", "-G"]

/-- The operators between two operands. -/
def binary : List String :=
  ["=", "!=", "<", ">", "-eq", "-ne", "-gt", "-ge", "-lt", "-le", "-nt", "-ot", "-ef"]

/-- Whether words start with an operator on one operand, and not with an operand that is
    spelt like one. -/
def atUnary : List String → Bool
  | word :: _ :: third :: _ => unary.contains word && !(binary.contains third)
  | [word, _] => unary.contains word
  | [_] | [] => false

/-- What a file is asked. -/
def asks (operator path : String) : Utility m Bool := do
  match operator, (← (FileSystem.kind (m := Utility m) path).run).toOption with
  | _, none => return false
  | "-e", _ | "-r", _ | "-w", _ | "-O", _ | "-G", _ => return true
  | "-f", kind => return kind = some .file && path ≠ nullPath
  | "-c", _ => return path = nullPath
  | "-d", kind | "-x", kind => return kind = some .folder
  | "-s", some .file => do
    return !((← (FileSystem.readBytes (m := Utility m) path).run).toOption.getD []).isEmpty
  | "-s", kind => return kind = some .folder
  | _, _ => return false

/-- The number that an operand is. -/
def integer (operand : String) : Tester m Int := do
  match takeInteger operand.toList with
  | some (n, rest) => if rest.all (· = ' ') then return n
  | none => pure ()
  throw s!"Illegal number: {operand}"

/-- Compare two operands. -/
def compareOperands (left operator right : String) : Tester m Bool := do
  match operator with
  | "=" => return left = right
  | "!=" => return left ≠ right
  | "<" => return left < right
  | ">" => return right < left
  | "-ef" => return samePath left right && (← asks (m := m) "-e" left)
  | "-nt" | "-ot" => return false
  | _ =>
    let a ← integer left
    let b ← integer right
    match operator with
    | "-eq" => return a = b
    | "-ne" => return a ≠ b
    | "-gt" => return b < a
    | "-ge" => return b ≤ a
    | "-lt" => return a < b
    | _ => return a ≤ b

/-- Test an operation on one or two operands, or a text. -/
def operation (words : List String) : Tester m Bool := do
  match words with
  | left :: operator :: rest =>
    if atUnary words then
      set rest
      match left with
      | "-n" => return operator ≠ ""
      | "-z" => return operator = ""
      | "-t" => return false
      | _ => asks (m := m) left operator
    else if binary.contains operator then
      match rest with
      | right :: rest =>
        set rest
        compareOperands left operator right
      | [] => throw s!"{operator}: argument expected"
    else
      set (operator :: rest)
      return left ≠ ""
  | [text] =>
    set ([] : List String)
    return text ≠ ""
  | [] => return false

mutual

/-- Test conditions of which one has to hold. -/
def disjunction : (fuel : Nat) → Tester m Bool
  | 0 => throw "argument expected"
  | fuel + 1 => do
    let first ← conjunction fuel
    match ← get with
    | "-o" :: rest =>
      set rest
      let second ← disjunction fuel
      return first || second
    | _ => return first

/-- Test conditions all of which have to hold. -/
def conjunction : (fuel : Nat) → Tester m Bool
  | 0 => throw "argument expected"
  | fuel + 1 => do
    let first ← negation fuel
    match ← get with
    | "-a" :: rest =>
      set rest
      let second ← conjunction fuel
      return first && second
    | _ => return first

/-- Test a condition that may be negated. -/
def negation : (fuel : Nat) → Tester m Bool
  | 0 => throw "argument expected"
  | fuel + 1 => do
    match ← get with
    | "!" :: rest =>
      if rest.isEmpty then
        set rest
        return true
      else
        set rest
        return !(← negation fuel)
    | _ => primary fuel

/-- Test a single condition. -/
def primary : (fuel : Nat) → Tester m Bool
  | 0 => throw "argument expected"
  | fuel + 1 => do
    match ← get with
    | [] => return false
    | words =>
      match words with
      | "(" :: second :: rest =>
        if binary.contains second ∧ !rest.isEmpty then operation words
        else
          set (second :: rest)
          let inner ← disjunction fuel
          match ← get with
          | ")" :: rest =>
            set rest
            return inner
          | _ => throw "closing paren expected"
      | _ => operation words

end

/-- Whether a condition holds, or what is wrong with it. Three words with an operator
    between two operands are always taken as such. Where words are left over, the one before
    them is taken for an operator. -/
def holds (words : List String) : ExceptT String (Utility m) Bool := do
  match words with
  | [left, operator, right] =>
    if binary.contains operator then
      return (← (compareOperands left operator right).run []).1
  | _ => pure ()
  let (answer, rest) ← (disjunction (4 * words.length + 4)).run words
  if rest.isEmpty then return answer
  let last := words[words.length - rest.length - 1]?.getD ""
  throw (if last = "" then "unexpected operator" else s!"{last}: unexpected operator")

end Bindery.Utility.Condition
