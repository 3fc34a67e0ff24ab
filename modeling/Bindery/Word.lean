/-!
# Words and bytes

Numbers as fixed-width words and as rows of bytes.

* **`wordCount`** — how many values a word has.
* **`littleEndian`**, **`ofLittleEndian`** — the bytes of a number, the lowest first, and
  the number of some bytes; a number is read back from bytes that have room for it.
-/

namespace Bindery

/-- How many values a word of some bits has. -/
def wordCount (bits : Nat) : Nat := Nat.pow 2 bits

/-- The lowest `length` bytes of a number, the lowest first. -/
def littleEndian : (length value : Nat) → List UInt8
  | 0, _ => []
  | length + 1, value => UInt8.ofNat (value % 256) :: littleEndian length (value / 256)

/-- The number of bytes is as asked for. -/
@[simp]
theorem length_littleEndian (length value : Nat) :
    (littleEndian length value).length = length := by
  induction length generalizing value with
  | zero => rfl
  | succ n ih => simp [littleEndian, ih]

/-- The number that bytes stand for, the lowest byte first. -/
def ofLittleEndian : List UInt8 → Nat
  | [] => 0
  | byte :: bytes => byte.toNat + 256 * ofLittleEndian bytes

/-- Another byte makes room for 256 times as many values. -/
theorem wordCount_byte (length : Nat) :
    wordCount (8 * (length + 1)) = wordCount (8 * length) * 256 :=
  Nat.pow_add 2 (8 * length) 8

/-- A number that fits its bytes is read back from them. -/
theorem ofLittleEndian_littleEndian {length value : Nat} (h : value < wordCount (8 * length)) :
    ofLittleEndian (littleEndian length value) = value := by
  induction length generalizing value with
  | zero =>
    have zero : value = 0 := Nat.lt_one_iff.1 h
    simp [littleEndian, ofLittleEndian, zero]
  | succ n ih =>
    have room : value / 256 < wordCount (8 * n) := by
      rw [wordCount_byte] at h
      exact (Nat.div_lt_iff_lt_mul (by decide)).2 h
    have low : (UInt8.ofNat (value % 256)).toNat = value % 256 :=
      UInt8.toNat_ofNat_of_lt' (Nat.mod_lt value (by decide))
    rw [littleEndian, ofLittleEndian, low, ih room]
    exact Nat.mod_add_div value 256

end Bindery
