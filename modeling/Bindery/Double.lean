import Bindery.Word

/-!
# Doubles

    Finite numbers of the binary64 format, kept as what they are: a significand of 53 bits
    times a power of two.  Every operation is exact arithmetic on fractions of natural
    numbers with one rounding at its end, to the nearest double and to the even one of two.

    A double is written with the fewest digits that are read back as the same double.  The
    numbers that round to it fill an interval; for each count of digits the two neighbours
    of the double on the decimal grid of that many digits are tried, and the first grid with
    a hit wins.

* **`Double`** — a finite double.
* **`Double.ofRatio?`** — the double nearest to a fraction.
* **`Double.scaled?`** — a whole number times a power of ten.
* **`Decimal`** — digits times a power of ten.
* **`Double.shortest`** — the shortest decimal of a double.
-/

namespace Bindery

/-- A finite double `± significand · 2 ^ (power - 1074)`. The significand has 53 bits unless
    the power is zero, so that every double has one form, except that zero has a sign. -/
structure Double where
  negative : Bool
  significand : Nat
  power : Nat
deriving DecidableEq

namespace Double

/-- Zero. -/
def zero : Double := ⟨false, 0, 0⟩

/-- The double of the opposite sign. -/
def neg (x : Double) : Double := { x with negative := !x.negative }

/-- The greatest power of a finite double. -/
def greatestPower : Nat := 2045

/-- The magnitude of a double as a numerator and a denominator. -/
def ratio (x : Double) : Nat × Nat :=
  if 1074 ≤ x.power then (x.significand * wordCount (x.power - 1074), 1)
  else (x.significand, wordCount (1074 - x.power))

/-- The whole number nearest to a fraction; of two the even one. -/
def nearest (numerator denominator : Nat) : Nat :=
  let whole := numerator / denominator
  let rest := numerator % denominator
  if denominator < 2 * rest ∨ (denominator = 2 * rest ∧ whole % 2 = 1) then whole + 1 else whole

/-- The power at which a positive fraction has a whole part of 53 bits, or zero if it would
    be less. -/
def powerFor (numerator denominator : Nat) : Nat :=
  let guess := (numerator.log2 + 1074) - (denominator.log2 + 52)
  if guess = 0 then 0
  else
    let (n, d) := if 1074 ≤ guess then (numerator, denominator * wordCount (guess - 1074))
      else (numerator * wordCount (1074 - guess), denominator)
    if n / d < wordCount 52 then guess - 1 else guess

/-- The double nearest to a fraction, unless that is beyond the finite ones. -/
def ofRatio? (numerator denominator : Nat) : Option Double :=
  if numerator = 0 then some zero
  else
    let power := powerFor numerator denominator
    let significand :=
      if 1074 ≤ power then nearest numerator (denominator * wordCount (power - 1074))
      else nearest (numerator * wordCount (1074 - power)) denominator
    let (significand, power) :=
      if significand = wordCount 53 then (wordCount 52, power + 1) else (significand, power)
    if greatestPower < power then none else some ⟨false, significand, power⟩

/-- The double nearest to a power of ten up to the 308th. -/
def powerOfTen (exponent : Nat) : Double := (ofRatio? (Nat.pow 10 exponent) 1).getD zero

/-- The product of two magnitudes. -/
def mul? (x y : Double) : Option Double :=
  ofRatio? (x.ratio.1 * y.ratio.1) (x.ratio.2 * y.ratio.2)

/-- The quotient of two magnitudes, the second of which is not zero. -/
def div? (x y : Double) : Option Double :=
  ofRatio? (x.ratio.1 * y.ratio.2) (x.ratio.2 * y.ratio.1)

/-- A whole number of 64 bits times a power of ten, unless that is beyond the finite
    doubles. The number, the power and their product or quotient are each rounded; a power
    below the 308th is divided by in two steps, after which nothing is left of a power below
    the 616th. -/
def scaled? (significand : Nat) (exponent : Int) : Option Double := do
  let whole ← ofRatio? significand 1
  if significand = 0 then some zero
  else if 308 < exponent then none
  else if 0 ≤ exponent then whole.mul? (powerOfTen exponent.toNat)
  else if -308 ≤ exponent then whole.div? (powerOfTen (-exponent).toNat)
  else if -616 ≤ exponent then
    (← whole.div? (powerOfTen 308)).div? (powerOfTen (-exponent - 308).toNat)
  else some zero

end Double

/-- The number `digits · 10 ^ exponent`. -/
structure Decimal where
  digits : Nat
  exponent : Int
deriving DecidableEq

namespace Decimal

/-- A decimal as a numerator and a denominator. -/
def ratio (x : Decimal) : Nat × Nat :=
  if 0 ≤ x.exponent then (x.digits * Nat.pow 10 x.exponent.toNat, 1)
  else (x.digits, Nat.pow 10 (-x.exponent).toNat)

/-- The same number without zeros at its end. -/
def trimmed : (fuel : Nat) → Decimal → Decimal
  | 0, x => x
  | fuel + 1, x =>
    if x.digits ≠ 0 ∧ x.digits % 10 = 0 then trimmed fuel ⟨x.digits / 10, x.exponent + 1⟩ else x

end Decimal

namespace Double

/-- The distance of a magnitude to the next one, over the denominator of the magnitude. -/
def step (x : Double) : Nat := if 1074 ≤ x.power then wordCount (x.power - 1074) else 1

/-- Whether a positive decimal rounds to a positive double: whether it is within half a
    step. The ends belong to the interval if the significand is even; below the least
    significand of a power the doubles lie twice as close. All is compared in quarters of a
    step. -/
def isReadFrom (x : Double) (decimal : Decimal) : Bool :=
  let (n, d) := decimal.ratio
  let (m, e) := x.ratio
  let under := if x.significand = wordCount 52 ∧ 0 < x.power then x.step else 2 * x.step
  let value := 4 * n * e
  let least := (4 * m - under) * d
  let greatest := (4 * m + 2 * x.step) * d
  if x.significand % 2 = 0 then least ≤ value && value ≤ greatest
  else least < value && value < greatest

/-- The exponent of the grid on which a positive double has a number of digits. -/
def gridExponent (x : Double) (count : Nat) : Int :=
  let (m, e) := x.ratio
  if 0 < m / e then ((toString (m / e)).length : Int) - count
  else
    let places := (toString (e / m)).length
    let leading := if e = Nat.pow 10 (places - 1) * m then places - 1 else places
    1 - (leading : Int) - count

/-- The double's neighbours on a grid, the lower one first, and whether the upper one is
    nearer. -/
def neighbours (x : Double) (exponent : Int) : Nat × Nat × Bool :=
  let (m, e) := x.ratio
  let (n, d) : Nat × Nat := if 0 ≤ exponent then (m, e * Nat.pow 10 exponent.toNat)
    else (m * Nat.pow 10 (-exponent).toNat, e)
  let lower := n / d
  let rest := n % d
  (lower, lower + 1, d < 2 * rest || (d = 2 * rest && lower % 2 = 1))

/-- The decimal of a count of digits that a positive double is read from. -/
def onGrid? (x : Double) (count : Nat) : Option Decimal :=
  let exponent := x.gridExponent count
  let (lower, upper, upwards) := x.neighbours exponent
  let (first, second) := if upwards then (upper, lower) else (lower, upper)
  [first, second].findSome? fun digits =>
    if x.isReadFrom ⟨digits, exponent⟩ then some ⟨digits, exponent⟩ else none

/-- The decimal with the fewest digits that a double is read from, the sign left aside.
    Seventeen digits are always enough. -/
def shortest (x : Double) : Decimal :=
  if x.significand = 0 then ⟨0, 0⟩
  else
    match (List.range 17).findSome? fun n => x.onGrid? (n + 1) with
    | some decimal => decimal.trimmed 20
    | none => ⟨x.ratio.1 / x.ratio.2, 0⟩

end Double

end Bindery
