import Bindery.Double
import Bindery.Text.Char
import Bindery.Utility.Lines

/-!
# Formatted output

A format is a text in which directives stand for operands. It is used again as long as
there are operands left; those that are missing are empty, or zero. A real number is shown
with a number of places behind the point, or with an exponent, or in the shorter of the two
ways. What is shown is the double that the text is read as, rounded to the places that are
wanted, a half to the even one.

* **`RealOperand`**, **`RealOperand.take?`** — the number at the front of a text.
* **`RealOperand.shown`** — its digits as a directive wants them.
* **`FormatPart`**, **`FormatPart.ofText`** — the parts of a format.
* **`Format.fill`** — a format with operands in its places.
* **`unescape`** — a text with its escapes put in place.
-/

namespace Bindery.Utility

/-- A real number: whether it is negative, and its magnitude unless that is beyond all
    doubles. -/
structure RealOperand where
  negative : Bool
  magnitude : Option Double
deriving DecidableEq

namespace RealOperand

/-- The digits at the front of a text, and the text behind them. -/
def takeDigits (cs : List Char) : List Char × List Char :=
  let digits := cs.takeWhile Text.isAsciiDigit
  (digits, cs.drop digits.length)

/-- The number that digits are. -/
def valueOf (digits : List Char) : Nat := digits.foldl (fun n c => n * 10 + (c.toNat - 48)) 0

/-- The exponent at the front of a text, and the text behind it; none is zero. -/
def takeExponent (cs : List Char) : Int × List Char :=
  match cs with
  | e :: rest =>
    let (negative, rest) := match rest with
      | '-' :: rest => (true, rest)
      | '+' :: rest => (false, rest)
      | rest => (false, rest)
    let (digits, after) := takeDigits rest
    if (e = 'e' ∨ e = 'E') ∧ digits ≠ [] then
      let n : Int := min (valueOf digits) 100000
      (if negative then -n else n, after)
    else (0, cs)
  | [] => (0, [])

/-- The number at the front of a text behind blanks, and the text behind it. -/
def take? (cs : List Char) : Option (RealOperand × List Char) :=
  let cs := cs.dropWhile fun c => c = ' ' || c = '\t' || c = '\n'
  let (negative, cs) := match cs with
    | '-' :: rest => (true, rest)
    | '+' :: rest => (false, rest)
    | cs => (false, cs)
  let (whole, rest) := takeDigits cs
  let (places, rest) := match rest with
    | '.' :: rest => takeDigits rest
    | rest => ([], rest)
  if whole = [] ∧ places = [] then none
  else
    let (exponent, rest) := takeExponent rest
    let decimal : Decimal := ⟨valueOf (whole ++ places), exponent - places.length⟩
    some (⟨negative, Double.ofRatio? decimal.ratio.1 decimal.ratio.2⟩, rest)

/-- A text with zeros in front. -/
def padded (width : Nat) (text : List Char) : List Char :=
  List.replicate (width - text.length) '0' ++ text

/-- A magnitude with a number of places. -/
def fixed (places : Nat) (x : Double) : List Char × List Char :=
  let (n, d) := x.ratio
  let digits := padded (places + 1) (toString (Double.nearest (n * Nat.pow 10 places) d)).toList
  (digits.take (digits.length - places), digits.drop (digits.length - places))

/-- A magnitude as a digit, a number of places, and the exponent of ten. -/
def scientific (places : Nat) (x : Double) : List Char × Int :=
  if x.significand = 0 then (List.replicate (places + 1) '0', 0)
  else
    let exponent := x.gridExponent (places + 1)
    let (lower, upper, upwards) := x.neighbours exponent
    let digits := (toString (if upwards then upper else lower)).toList
    (digits.take (places + 1), exponent + digits.length - 1)

/-- Digits with a point, which is left out if nothing follows it unless it is `kept`. -/
def withPoint (kept : Bool) (whole places : List Char) : List Char :=
  if places.isEmpty && !kept then whole else whole ++ '.' :: places

/-- An exponent behind its letter, with two digits at least. -/
def exponentText (letter : Char) (exponent : Int) : List Char :=
  letter :: (if exponent < 0 then '-' else '+') :: padded 2 (toString exponent.natAbs).toList

/-- A text without the zeros at its end. -/
def withoutZeros (places : List Char) : List Char := (places.reverse.dropWhile (· = '0')).reverse

/-- A magnitude as a conversion wants it: with places, with an exponent, or in the way that
    suits its size. -/
def shown (conversion : Char) (kept : Bool) (precision : Nat) (x : Double) : List Char :=
  let capital := conversion = 'E' || conversion = 'G'
  let letter := if capital then 'E' else 'e'
  if conversion = 'f' ∨ conversion = 'F' then
    let (whole, places) := fixed precision x
    withPoint kept whole places
  else if conversion = 'e' ∨ conversion = 'E' then
    let (digits, exponent) := scientific precision x
    withPoint kept (digits.take 1) (digits.drop 1) ++ exponentText letter exponent
  else
    let precision := max precision 1
    let (digits, exponent) := scientific (precision - 1) x
    let trim (places : List Char) : List Char := if kept then places else withoutZeros places
    if -4 ≤ exponent ∧ exponent < precision then
      let (whole, places) := fixed ((precision : Int) - 1 - exponent).toNat x
      withPoint kept whole (trim places)
    else withPoint kept (digits.take 1) (trim (digits.drop 1)) ++ exponentText letter exponent

end RealOperand

-- ── escapes ──────────────────────────────────────────────────────────────────────

/-- The character of an escape behind its backslash, the escape character itself among
    them, and the text behind it. -/
def formatEscape? : List Char → Option (Char × List Char)
  | 'e' :: rest => some (Char.ofNat 27, rest)
  | rest => escape? rest

/-- A text with its escapes put in place, and whether one of them ends all output. Behind
    `\0` there may be three more octal digits. Every step takes a character, so the length
    of the text is fuel enough. -/
def unescapeUpTo : (fuel : Nat) → List Char → List Char × Bool
  | 0, _ | _, [] => ([], false)
  | fuel + 1, c :: rest =>
    let put (c : Char) (rest : List Char) : List Char × Bool :=
      let (chars, stops) := unescapeUpTo fuel rest
      (c :: chars, stops)
    if c ≠ '\\' then put c rest
    else match rest with
      | 'c' :: _ => ([], true)
      | '0' :: digits =>
        let (value, after) := takeOctal 3 0 digits
        put (Char.ofNat (value % 256)) after
      | _ =>
        match formatEscape? rest with
        | some (found, after) => put found after
        | none => put '\\' rest

/-- A text with its escapes put in place, and whether one of them ends all output. -/
def unescape (chars : List Char) : List Char × Bool := unescapeUpTo chars.length chars

-- ── formats ──────────────────────────────────────────────────────────────────────

/-- A size in a directive: a number, or the next operand. -/
inductive FormatSize where
  | fixed (n : Nat)
  | operand
deriving DecidableEq

/-- How an operand is shown: signs for its flags, the least width, and the precision. -/
structure Directive where
  flags : List Char
  width : FormatSize
  precision : Option FormatSize
  conversion : Char
deriving DecidableEq

/-- A part of a format. -/
inductive FormatPart where
  | char (c : Char)
  | directive (directive : Directive)
  | invalid (text : String)
  | unfinished
deriving DecidableEq

/-- The size at the front of a text. -/
def takeSize (cs : List Char) : FormatSize × List Char :=
  match cs with
  | '*' :: rest => (.operand, rest)
  | cs =>
    let digits := cs.takeWhile Text.isAsciiDigit
    (.fixed ((String.ofList digits).toNat?.getD 0), cs.drop digits.length)

/-- The conversions that are known. -/
def conversions : List Char := ['d', 'i', 'o', 'u', 'x', 'X', 'c', 's', 'b', 'e', 'E', 'f', 'F',
  'g', 'G']

/-- The directive behind a per cent sign, and the text behind it. -/
def takeDirective (cs : List Char) : FormatPart × List Char :=
  let flags := cs.takeWhile fun c => c ∈ ['#', '-', '+', ' ', '0']
  let (width, rest) := takeSize (cs.drop flags.length)
  let (precision, rest) := match rest with
    | '.' :: rest =>
      let (size, rest) := takeSize rest
      (some size, rest)
    | rest => (none, rest)
  match rest with
  | conversion :: after =>
    if conversion ∈ conversions then (.directive ⟨flags, width, precision, conversion⟩, after)
    else (.invalid ("%" ++ String.ofList (cs.take (cs.length - after.length))), after)
  | [] => (.unfinished, [])

namespace FormatPart

/-- The parts of a format, and whether an escape ends all output. Every step takes a
    character, so the length of the text is fuel enough. -/
def ofChars : (fuel : Nat) → List Char → List FormatPart
  | 0, _ | _, [] => []
  | fuel + 1, '%' :: '%' :: rest => .char '%' :: ofChars fuel rest
  | fuel + 1, '%' :: rest =>
    let (part, after) := takeDirective rest
    part :: ofChars fuel after
  | fuel + 1, '\\' :: rest =>
    match formatEscape? rest with
    | some (c, after) => .char c :: ofChars fuel after
    | none => .char '\\' :: ofChars fuel rest
  | fuel + 1, c :: rest => .char c :: ofChars fuel rest

/-- The parts of a format. -/
def ofText (text : String) : List FormatPart :=
  let chars := charsOf (Text.utf8Bytes text)
  ofChars chars.length chars

end FormatPart

-- ── operands ─────────────────────────────────────────────────────────────────────

/-- The number at the front of a text, and the text behind it. -/
def takeInteger (cs : List Char) : Option (Int × List Char) :=
  let cs := cs.dropWhile fun c => c = ' ' || c = '\t' || c = '\n'
  let (negative, cs) := match cs with
    | '-' :: rest => (true, rest)
    | '+' :: rest => (false, rest)
    | cs => (false, cs)
  let digits (base : Nat) (cs : List Char) : Option (Int × List Char) :=
    let value? (c : Char) : Option Nat := (if Text.isAsciiDigit c then some (c.toNat - 48)
      else if Text.isAsciiLower c then some (c.toNat - 87)
      else if Text.isAsciiUpper c then some (c.toNat - 55) else none).filter (· < base)
    let taken := cs.takeWhile fun c => (value? c).isSome
    if taken.isEmpty then none
    else
      let n : Nat := taken.foldl (fun n c => n * base + (value? c).getD 0) 0
      some (if negative then -(n : Int) else n, cs.drop taken.length)
  match cs with
  | '0' :: x :: rest =>
    if x = 'x' ∨ x = 'X' then (digits 16 rest).orElse fun _ => some (0, x :: rest)
    else digits 8 cs
  | cs => digits 10 cs

/-- Why a format or an operand is not as it should be. -/
inductive FormatFault where
  | notNumeric (operand : String)
  | trailing (operand : String)
  | outOfRange (operand : String)
  | invalid (directive : String)
  | unfinished
deriving DecidableEq

/-- The wording of a fault. -/
def FormatFault.message : FormatFault → String
  | .notNumeric operand => s!"{operand}: expected numeric value"
  | .trailing operand => s!"{operand}: not completely converted"
  | .outOfRange operand => s!"{operand}: Numerical result out of range"
  | .invalid directive => s!"{directive}: invalid directive"
  | .unfinished => "missing format character"

/-- The status that a fault leads to. -/
def FormatFault.status : FormatFault → Nat
  | .invalid _ | .unfinished => 2
  | _ => 1

/-- What an operand is as a number: the character behind a quotation mark, or what `take?`
    finds at its front; `zero` stands for a number that is missing. -/
def numberOf {α : Type} (zero : α) (ofCode : Nat → α) (take? : List Char → Option (α × List Char))
    (operand : String) : α × Option FormatFault :=
  match operand.toList with
  | [] => (zero, none)
  | c :: rest =>
    if c.toNat = 0x22 ∨ c.toNat = 0x27 then (ofCode ((rest.head?.map Char.toNat).getD 0), none)
    else match take? (c :: rest) with
      | some (n, []) => (n, none)
      | some (n, _ :: _) => (n, some (.trailing operand))
      | none => (zero, some (.notNumeric operand))

/-- The number that an operand is among those of 64 bits, and what is wrong with it. A
    number without a sign may be written as the negative one of the same bits. -/
def integerOf (signed : Bool) (operand : String) : Int × Option FormatFault :=
  let (n, fault) := numberOf (0 : Int) (fun n => (n : Int)) takeInteger operand
  let (least, greatest) : Int × Int :=
    if signed then (-9223372036854775808, 9223372036854775807)
    else (-18446744073709551615, 18446744073709551615)
  if n < least ∨ greatest < n then
    let bound := if signed ∧ n < 0 then least else greatest
    (bound, some (fault.getD (.outOfRange operand)))
  else (n, fault)

/-- The real number that an operand is, and what is wrong with it. -/
def realOf (operand : String) : RealOperand × Option FormatFault :=
  let whole (n : Nat) : RealOperand := ⟨false, Double.ofRatio? n 1⟩
  let (x, fault) := numberOf (whole 0) whole RealOperand.take? operand
  (x, if x.magnitude.isNone then some (fault.getD (.outOfRange operand)) else fault)

/-- What has been made of a format so far. -/
structure Filled where
  chars : List Char
  operands : List String
  faults : List FormatFault
  stops : Bool

namespace Format

/-- Text that is at least so wide. -/
def justify (flags : List Char) (width : Nat) (text : List Char) : List Char :=
  let gap := List.replicate (width - text.length) ' '
  if flags.contains '-' then text ++ gap else gap ++ text

/-- The digits of a number in a base. -/
def digitsOf (base : Nat) (capital : Bool) (n : Nat) : List Char :=
  let digits := Nat.toDigits base n
  if capital then digits.flatMap Text.toUpper else digits

/-- A number with its sign that is at least so wide. Zeros fill the gap if they are asked
    for and `mayFill`. -/
def signed (flags : List Char) (width : Nat) (mayFill : Bool) (sign digits : List Char) : List Char :=
  if flags.contains '0' && !flags.contains '-' && mayFill then
    sign ++ List.replicate (width - sign.length - digits.length) '0' ++ digits
  else justify flags width (sign ++ digits)

/-- The sign of a number. -/
def signOf (flags : List Char) (isNegative : Bool) : List Char :=
  if isNegative then ['-']
  else if flags.contains '+' then ['+']
  else if flags.contains ' ' then [' ']
  else []

/-- Whether a conversion shows whole numbers with their signs. -/
def isSigned (conversion : Char) : Bool := conversion = 'd' || conversion = 'i'

/-- A whole number as a directive shows it. -/
def number (directive : Directive) (width : Nat) (precision : Option Nat) (n : Int) : List Char :=
  let hasSign := isSigned directive.conversion
  let size : Nat := if hasSign then n.natAbs else (n % 18446744073709551616).toNat
  let base := match directive.conversion with
    | 'o' => 8
    | 'x' | 'X' => 16
    | _ => 10
  let digits := digitsOf base (directive.conversion = 'X') size
  let digits := if precision = some 0 ∧ size = 0 then [] else digits
  let digits := List.replicate (precision.getD 0 - digits.length) '0' ++ digits
  let sign := if hasSign then signOf directive.flags (n < 0)
    else if directive.flags.contains '#' && size ≠ 0 then match directive.conversion with
      | 'o' => if digits.head? = some '0' then [] else ['0']
      | 'x' => ['0', 'x']
      | 'X' => ['0', 'X']
      | _ => []
    else []
  signed directive.flags width precision.isNone sign digits

/-- A real number as a directive shows it. -/
def real (directive : Directive) (width : Nat) (precision : Option Nat) (x : RealOperand) :
    List Char :=
  let sign := signOf directive.flags x.negative
  match x.magnitude with
  | some magnitude => signed directive.flags width true sign
      (RealOperand.shown directive.conversion (directive.flags.contains '#') (precision.getD 6) magnitude)
  | none => signed directive.flags width false sign ['i', 'n', 'f']

/-- Take an operand. -/
def next (filled : Filled) : String × Filled :=
  (filled.operands.head?.getD "", { filled with operands := filled.operands.drop 1 })

/-- The value of a size; a negative one says that the text goes to the left. -/
def sizeOf (filled : Filled) : FormatSize → Int × Filled
  | .fixed n => (n, filled)
  | .operand =>
    let (operand, filled) := next filled
    ((integerOf true operand).1, filled)

/-- Put an operand into the place of a directive. -/
def put (directive : Directive) (filled : Filled) : Filled :=
  let (width, filled) := sizeOf filled directive.width
  let directive := if width < 0 then { directive with flags := '-' :: directive.flags } else directive
  let (precision, filled) := match directive.precision with
    | none => (none, filled)
    | some size =>
      let (n, filled) := sizeOf filled size
      (if n < 0 then none else some n.toNat, filled)
  let (operand, filled) := next filled
  let chars := charsOf (Text.utf8Bytes operand)
  let add (text : List Char) : Filled := { filled with chars := filled.chars ++ text }
  let shown (text : List Char) : List Char :=
    justify directive.flags width.natAbs (match precision with
      | some n => text.take n
      | none => text)
  match directive.conversion with
  | 's' => add (shown chars)
  | 'c' => add (justify directive.flags width.natAbs [chars.head?.getD (Char.ofNat 0)])
  | 'b' =>
    let (text, stops) := unescape chars
    { add (shown text) with stops := stops }
  | c =>
    let (text, fault) := if ['e', 'E', 'f', 'F', 'g', 'G'].contains c then
        let (x, fault) := realOf operand
        (real directive width.natAbs precision x, fault)
      else
        let (n, fault) := integerOf (isSigned c) operand
        (number directive width.natAbs precision n, fault)
    { add text with faults := filled.faults ++ fault.toList }

/-- Fill the parts of a format, as far as no escape ends all output. -/
def fillOnce (filled : Filled) : List FormatPart → Filled
  | [] => filled
  | part :: rest =>
    if filled.stops then filled
    else match part with
      | .char c => fillOnce { filled with chars := filled.chars ++ [c] } rest
      | .directive directive => fillOnce (put directive filled) rest
      | .invalid text => { filled with faults := filled.faults ++ [.invalid text], stops := true }
      | .unfinished => { filled with faults := filled.faults ++ [.unfinished], stops := true }

/-- Fill a format again and again; the number of operands is fuel enough, because each
    time takes one. -/
def fillUpTo (parts : List FormatPart) : (fuel : Nat) → Filled → Filled
  | 0, filled => filled
  | fuel + 1, filled =>
    let after := fillOnce filled parts
    if after.stops || after.operands.isEmpty || after.operands.length = filled.operands.length then
      after
    else fillUpTo parts fuel after

/-- A format with operands in its places, and what is wrong with them. -/
def fill (format : String) (operands : List String) : Filled :=
  fillUpTo (FormatPart.ofText format) (operands.length + 1) ⟨[], operands, [], false⟩

end Format

end Bindery.Utility
