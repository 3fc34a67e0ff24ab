/-!
# Runs of code points

Tables of characters are lists of runs in ascending order.

* **`Run`** — the code points from `first` to `last` in steps of `step`.
* **`Shift`** — such a run together with the distance to the code point that each of its
  members maps to.
-/

namespace Bindery.Text

/-- The code points `first`, `first + step`, … up to `last`. -/
structure Run where
  first : Nat
  last : Nat
  step : Nat

/-- Whether a run holds a code point. -/
def Run.holds (run : Run) (code : Nat) : Bool :=
  run.first ≤ code && code ≤ run.last && (code - run.first) % run.step = 0

/-- Whether one of several runs holds a code point. -/
def inRuns (runs : List Run) (code : Nat) : Bool := runs.any (·.holds code)

/-- A run whose members map to the code points at a fixed distance. -/
structure Shift where
  first : Nat
  last : Nat
  step : Nat
  distance : Int

/-- Where the first of several shifts takes a code point. -/
def shifted? (shifts : List Shift) (code : Nat) : Option Nat :=
  (shifts.find? fun s => Run.holds ⟨s.first, s.last, s.step⟩ code).map fun s =>
    ((code : Int) + s.distance).toNat

end Bindery.Text
