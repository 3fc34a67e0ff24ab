import Bindery.Shell.Source

/-!
# Expressions of numbers

The expressions between double parentheses: whole numbers of 64 bits that wrap around,
variables, and the usual operators.

* **`Expression`**, **`Expression.ofText`** — expressions, and the one that a text is.
* **`Expression.value`** — the value of one, and the variables that it sets.
-/

namespace Bindery.Shell

/-- An operator on two numbers. -/
inductive Operator where
  | multiply | divide | remainder | add | subtract | shiftLeft | shiftRight
  | less | lessEqual | greater | greaterEqual | equal | notEqual
  | bitAnd | bitXor | bitOr | and | or
deriving DecidableEq

/-- An expression. -/
inductive Expression where
  | number (n : Int)
  | variable (name : String)
  | negative (e : Expression)
  | complement (e : Expression)
  | not (e : Expression)
  | apply (operator : Operator) (left right : Expression)
  | choose (condition first second : Expression)
  | assign (name : String) (operator : Option Operator) (e : Expression)

/-- Why an expression has no value. -/
inductive ExpressionFault where
  | noPrimary | noClosing | noColon | noEnd
  | divisionByZero
  | notANumber (text : String)
deriving DecidableEq

/-- The wording of a fault in an expression. -/
def ExpressionFault.message (expression : String) : ExpressionFault → String
  | .noPrimary => s!"arithmetic expression: expecting primary: \"{expression}\""
  | .noClosing => s!"arithmetic expression: expecting ')': \"{expression}\""
  | .noColon => s!"arithmetic expression: expecting ':': \"{expression}\""
  | .noEnd => s!"arithmetic expression: expecting EOF: \"{expression}\""
  | .divisionByZero => s!"arithmetic expression: division by zero: \"{expression}\""
  | .notANumber text => s!"Illegal number: {text}"

namespace Operator

/-- The operators with their signs, those with longer signs first, and how strongly they
    bind. -/
def signs : List (String × Operator × Nat) :=
  [("<<", .shiftLeft, 8), (">>", .shiftRight, 8), ("<=", .lessEqual, 7), (">=", .greaterEqual, 7),
    ("==", .equal, 6), ("!=", .notEqual, 6), ("&&", .and, 2), ("||", .or, 1), ("*", .multiply, 10),
    ("/", .divide, 10), ("%", .remainder, 10), ("+", .add, 9), ("-", .subtract, 9), ("<", .less, 7),
    (">", .greater, 7), ("&", .bitAnd, 5), ("^", .bitXor, 4), ("|", .bitOr, 3)]

/-- The operator at the front of a text, how strongly it binds, and the text behind it. A
    sign that sets a variable is none. -/
def atFront? (cs : List Char) : Option (Operator × Nat × List Char) :=
  match signs.find? fun (sign, _) => sign.toList.isPrefixOf cs with
  | some (sign, operator, binding) =>
    let rest := cs.drop sign.length
    if rest.head? = some '=' ∧ operator ∉ [.equal, .notEqual, .lessEqual, .greaterEqual, .and, .or]
    then none
    else some (operator, binding, rest)
  | none => none

/-- The operator that a sign which sets a variable applies first, and the text behind it. -/
def assignment? (cs : List Char) : Option (Option Operator × List Char) :=
  match cs with
  | '=' :: '=' :: _ => none
  | '=' :: rest => some (none, rest)
  | _ =>
    let setting := signs.filter fun (_, operator, _) =>
      operator ∈ [.multiply, .divide, .remainder, .add, .subtract, .shiftLeft, .shiftRight,
        .bitAnd, .bitXor, .bitOr]
    (setting.find? fun (sign, _) => (sign.toList ++ ['=']).isPrefixOf cs).map
      fun (sign, operator, _) => (some operator, cs.drop (sign.length + 1))

end Operator

-- ── reading ──────────────────────────────────────────────────────────────────────

/-- The digit that a character is. -/
def digitValue? (c : Char) : Option Nat :=
  if Text.isAsciiDigit c then some (c.toNat - 48)
  else if Text.isAsciiLower c then some (c.toNat - 87)
  else if Text.isAsciiUpper c then some (c.toNat - 55)
  else none

/-- The number that digits are in a base, and the text behind them. -/
def takeDigits (base : Nat) : (value : Nat) → List Char → Nat × List Char
  | value, [] => (value, [])
  | value, c :: rest =>
    match (digitValue? c).filter (· < base) with
    | some digit => takeDigits base (value * base + digit) rest
    | none => (value, c :: rest)

/-- The number at the front of a text that starts with a digit. -/
def takeNumber : List Char → Nat × List Char
  | '0' :: x :: d :: rest =>
    if (x = 'x' ∨ x = 'X') ∧ ((digitValue? d).filter (· < 16)).isSome then
      takeDigits 16 0 (d :: rest)
    else takeDigits 8 0 ('0' :: x :: d :: rest)
  | '0' :: rest => takeDigits 8 0 rest
  | cs => takeDigits 10 0 cs

/-- A number as it is kept in 64 bits. -/
def wrap (n : Int) : Int := Int.bmod n 18446744073709551616

/-- The number that a text is; an empty one is zero. -/
def numberOf? (text : String) : Option Int :=
  let cs := text.toList.dropWhile fun c => inBlanks c
  let (negative, cs) := match cs with
    | '-' :: rest => (true, rest)
    | '+' :: rest => (false, rest)
    | cs => (false, cs)
  if cs.isEmpty then if negative then none else some 0
  else
    let (value, rest) := takeNumber cs
    if cs.head?.all Text.isAsciiDigit ∧ rest.all inBlanks then
      some (wrap (if negative then -(value : Int) else value))
    else none
where
  inBlanks (c : Char) : Bool := c = ' ' || c = '\t' || c = '\n'

/-- Reads an expression from the front of a text. -/
abbrev ExpressionReader := StateT (List Char) (Except ExpressionFault)

namespace Expression

/-- The text that is left, from its first sign on. -/
def left : ExpressionReader (List Char) := do
  let cs := (← get).dropWhile fun c => c = ' ' || c = '\t' || c = '\n'
  set cs
  return cs

mutual

/-- Read an operand. -/
def operand : (fuel : Nat) → ExpressionReader Expression
  | 0 => throw .noPrimary
  | fuel + 1 => do
    match ← left with
    | '-' :: rest =>
      set rest
      return .negative (← operand fuel)
    | '+' :: rest =>
      set rest
      operand fuel
    | '~' :: rest =>
      set rest
      return .complement (← operand fuel)
    | '!' :: rest =>
      set rest
      return .not (← operand fuel)
    | '(' :: rest =>
      set rest
      let inner ← whole fuel
      match ← left with
      | ')' :: rest =>
        set rest
        return inner
      | _ => throw .noClosing
    | c :: rest =>
      if Text.isAsciiDigit c then
        let (value, rest) := takeNumber (c :: rest)
        set rest
        return .number (wrap value)
      else if isNameStart c then
        let name := (c :: rest).takeWhile isNamePart
        set ((c :: rest).drop name.length)
        return .variable (String.ofList name)
      else throw .noPrimary
    | [] => throw .noPrimary

/-- Read what follows an operand, as far as it binds strongly enough. -/
def operations : (fuel : Nat) → (binding : Nat) → Expression → ExpressionReader Expression
  | 0, _, first => return first
  | fuel + 1, binding, first => do
    match Operator.atFront? (← left) with
    | some (operator, strength, rest) =>
      if strength < binding then return first
      set rest
      let second ← operations fuel (strength + 1) (← operand fuel)
      operations fuel binding (.apply operator first second)
    | none => return first

/-- Read a whole expression. -/
def whole : (fuel : Nat) → ExpressionReader Expression
  | 0 => throw .noPrimary
  | fuel + 1 => do
    let first ← operand fuel
    let assigned := match first with
      | .variable name => some name
      | _ => none
    match assigned, Operator.assignment? (← left) with
    | some name, some (operator, rest) =>
      set rest
      return .assign name operator (← whole fuel)
    | _, _ =>
      let condition ← operations fuel 1 first
      match ← left with
      | '?' :: rest =>
        set rest
        let one ← whole fuel
        match ← left with
        | ':' :: rest =>
          set rest
          return .choose condition one (← whole fuel)
        | _ => throw .noColon
      | _ => return condition

end

/-- The expression that a text is. An empty one is zero. -/
def ofText (text : String) : Except ExpressionFault Expression := do
  let cs := text.toList
  if cs.all fun c => c = ' ' || c = '\t' || c = '\n' then return .number 0
  let (expression, rest) ← (whole (4 * cs.length + 4)).run cs
  if rest.all fun c => c = ' ' || c = '\t' || c = '\n' then return expression
  else throw .noEnd

-- ── values ───────────────────────────────────────────────────────────────────────

/-- The number of a truth value. -/
def truth (b : Bool) : Int := if b then 1 else 0

/-- The bits of a number. -/
def bits (n : Int) : Nat := (n % 18446744073709551616).toNat

/-- The value of an operator, whose operands both have one. -/
def applied (operator : Operator) (a b : Int) : Except ExpressionFault Int :=
  match operator with
  | .multiply => .ok (wrap (a * b))
  | .divide => if b = 0 then .error .divisionByZero else .ok (wrap (a.tdiv b))
  | .remainder => if b = 0 then .error .divisionByZero else .ok (a.tmod b)
  | .add => .ok (wrap (a + b))
  | .subtract => .ok (wrap (a - b))
  | .shiftLeft => .ok (wrap (a * (2 : Int).pow (bits b % 64)))
  | .shiftRight => .ok (a / (2 : Int).pow (bits b % 64))
  | .less => .ok (truth (a < b))
  | .lessEqual => .ok (truth (a ≤ b))
  | .greater => .ok (truth (b < a))
  | .greaterEqual => .ok (truth (b ≤ a))
  | .equal => .ok (truth (a = b))
  | .notEqual => .ok (truth (a ≠ b))
  | .bitAnd => .ok (wrap (Nat.land (bits a) (bits b)))
  | .bitXor => .ok (wrap (Nat.xor (bits a) (bits b)))
  | .bitOr => .ok (wrap (Nat.lor (bits a) (bits b)))
  | .and => .ok (truth (a ≠ 0 ∧ b ≠ 0))
  | .or => .ok (truth (a ≠ 0 ∨ b ≠ 0))

/-- The value of an expression. The state holds the variables that have been set, `known`
    those from before. -/
def value (known : String → Option String) :
    Expression → StateT (List (String × Int)) (Except ExpressionFault) Int
  | .number n => return n
  | .variable name => lookUp name
  | .negative e => return wrap (-(← value known e))
  | .complement e => return -(← value known e) - 1
  | .not e => return truth ((← value known e) = 0)
  | .apply .and a b => do
    if (← value known a) = 0 then return 0 else return truth ((← value known b) ≠ 0)
  | .apply .or a b => do
    if (← value known a) ≠ 0 then return 1 else return truth ((← value known b) ≠ 0)
  | .apply operator a b => do
    let left ← value known a
    applied operator left (← value known b)
  | .choose condition a b => do
    if (← value known condition) ≠ 0 then value known a else value known b
  | .assign name operator e => do
    let new ← value known e
    let new ← match operator with
      | some operator => do applied operator (← lookUp name) new
      | none => pure new
    modify fun set => (name, new) :: set.filter (·.1 ≠ name)
    return new
where
  lookUp (name : String) : StateT (List (String × Int)) (Except ExpressionFault) Int := do
    match (← get).find? (·.1 = name) with
    | some (_, n) => return n
    | none =>
      let text := (known name).getD ""
      match numberOf? text with
      | some n => return n
      | none => throw (.notANumber text)

end Expression

end Bindery.Shell
