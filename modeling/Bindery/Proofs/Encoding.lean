import Bindery.Proofs.Loading
import Mathlib.Data.Nat.Digits.Defs

/-! # Encoding — which numbers have bytes, and which bytes they have

    A row of bytes and the number that it stands for determine each other once
    the length of the row is known: bytes are those of the number they stand for
    (`littleEndian_ofLittleEndian`), and that number has room in them
    (`ofLittleEndian_lt`).  So the encoding of a number is the one row of the
    width of its format that is read back as the number
    (`encodeUnsigned_eq_some_iff`), and two numbers of one format that fit it
    are told apart by their bytes, also as the values of tags
    (`Discriminator.encoded_inj`). -/

namespace Bindery

/-! ## Rows of bytes -/

/-- Bytes are read as digits to the base 256, the lowest first. -/
theorem ofLittleEndian_eq_ofDigits (bytes : List UInt8) :
    ofLittleEndian bytes = Nat.ofDigits 256 (bytes.map UInt8.toNat) := by
  induction bytes with
  | nil => rfl
  | cons byte bytes ih =>
      rw [List.map_cons, Nat.ofDigits_cons, ← ih]
      rfl

/-- A number has room in the bytes that stand for it. -/
theorem ofLittleEndian_lt (bytes : List UInt8) :
    ofLittleEndian bytes < wordCount (8 * bytes.length) := by
  induction bytes with
  | nil => exact Nat.one_pos
  | cons byte bytes ih =>
      have hbyte : byte.toNat < 256 := byte.toNat_lt
      rw [ofLittleEndian, List.length_cons, wordCount_byte]
      omega

/-- Bytes are those of the number that they stand for. -/
theorem littleEndian_ofLittleEndian (bytes : List UInt8) :
    littleEndian bytes.length (ofLittleEndian bytes) = bytes := by
  induction bytes with
  | nil => rfl
  | cons byte bytes ih =>
      have hbyte : byte.toNat < 256 := byte.toNat_lt
      have hlow : (byte.toNat + 256 * ofLittleEndian bytes) % 256 = byte.toNat := by omega
      have hrest : (byte.toNat + 256 * ofLittleEndian bytes) / 256 = ofLittleEndian bytes := by
        omega
      rw [List.length_cons, ofLittleEndian, littleEndian, hlow, hrest, ih, UInt8.ofNat_toNat]

/-- Of the rows of a length that a number has room in, its bytes are the one that stands for it. -/
theorem littleEndian_eq_iff {length value : Nat} {bytes : List UInt8}
    (h : value < wordCount (8 * length)) :
    littleEndian length value = bytes ↔ bytes.length = length ∧ ofLittleEndian bytes = value := by
  constructor
  · rintro rfl
    exact ⟨length_littleEndian length value, ofLittleEndian_littleEndian h⟩
  · rintro ⟨rfl, rfl⟩
    exact littleEndian_ofLittleEndian bytes

/-! ## Formats -/

/-- The formats of unsigned integers, each with the number of its bits. -/
inductive NumberFormat.Unsigned : NumberFormat → Nat → Prop
  | u8 : Unsigned .u8 8
  | u16 : Unsigned .u16 16
  | u32 : Unsigned .u32 32
  | u64 : Unsigned .u64 64
  | u128 : Unsigned .u128 128

namespace NumberFormat

variable {format : NumberFormat} {bits : Nat} {value : UInt64} {bytes : List UInt8}

/-- The bits of an unsigned format are those of its bytes. -/
theorem unsigned_iff :
    format.Unsigned bits ↔ format.isUnsigned = true ∧ bits = 8 * format.size := by
  constructor
  · intro h
    cases h <;> exact ⟨rfl, rfl⟩
  · rintro ⟨hunsigned, rfl⟩
    cases format with
    | u8 => exact .u8
    | u16 => exact .u16
    | u32 => exact .u32
    | u64 => exact .u64
    | u128 => exact .u128
    | _ => exact nomatch hunsigned

/-- A number fits a format exactly when that is unsigned and has bits enough for it. -/
theorem fits_iff : (DiscriminatorValue.number format value).Fits ↔
    ∃ bits, format.Unsigned bits ∧ value.toNat < 2 ^ bits := by
  simp only [unsigned_iff, and_assoc, exists_and_left, exists_eq_left]
  exact Iff.rfl

/-- The encoding of a number is the row as wide as its format that is read back as the number. -/
theorem encodeUnsigned_eq_some_iff : format.encodeUnsigned value = some bytes ↔
    format.isUnsigned = true ∧ bytes.length = format.size
      ∧ ofLittleEndian bytes = value.toNat := by
  rw [encodeUnsigned, Option.ite_none_right_eq_some, Option.some.injEq]
  constructor
  · rintro ⟨⟨hunsigned, hroom⟩, hbytes⟩
    exact ⟨hunsigned, (littleEndian_eq_iff hroom).mp hbytes⟩
  · rintro ⟨hunsigned, hlength, hvalue⟩
    -- the number has room because there are bytes that stand for it
    have hroom : value.toNat < wordCount (8 * format.size) := by
      rw [← hvalue, ← hlength]
      exact ofLittleEndian_lt bytes
    exact ⟨⟨hunsigned, hroom⟩, (littleEndian_eq_iff hroom).mpr ⟨hlength, hvalue⟩⟩

/-- Two numbers with the same bytes in a format are the same. -/
theorem encodeUnsigned_inj {a b : UInt64} (ha : format.encodeUnsigned a = some bytes)
    (hb : format.encodeUnsigned b = some bytes) : a = b := by
  obtain ⟨-, -, ha⟩ := encodeUnsigned_eq_some_iff.mp ha
  obtain ⟨-, -, hb⟩ := encodeUnsigned_eq_some_iff.mp hb
  exact UInt64.toNat_inj.mp (ha.symm.trans hb)

end NumberFormat

/-! ## Tags -/

/-- A tag has the encoding of a number that fits. -/
theorem Discriminator.encodeUnsigned_eq_encoded {format : NumberFormat} {value : UInt64}
    (h : (DiscriminatorValue.number format value).Fits) (offset : UInt64) :
    format.encodeUnsigned value = some (encoded ⟨.number format value, offset⟩) := by
  obtain ⟨bytes, hbytes⟩ := Option.isSome_iff_exists.mp (encodeUnsigned_isSome_iff.mpr h)
  show _ = some ((format.encodeUnsigned value).getD _)
  rw [hbytes, Option.getD_some]

/-- So numbers of one format that fit it are told apart by the bytes of their tags. -/
theorem Discriminator.encoded_inj {format : NumberFormat} {a b offset offset' : UInt64}
    (ha : (DiscriminatorValue.number format a).Fits)
    (hb : (DiscriminatorValue.number format b).Fits)
    (h : Discriminator.encoded ⟨.number format a, offset⟩
      = Discriminator.encoded ⟨.number format b, offset'⟩) : a = b := by
  refine NumberFormat.encodeUnsigned_inj (encodeUnsigned_eq_encoded ha offset) ?_
  rw [h]
  exact encodeUnsigned_eq_encoded hb offset'

/-- A value that does not fit its format can share the bytes of its tag with one that does. -/
example : Discriminator.encoded ⟨.number .u8 257, 0⟩
    = Discriminator.encoded ⟨.number .u8 1, 0⟩ := by decide

namespace NumberFormat

/-- **ENCODING**: a value has bytes in a format exactly when the format is that of the unsigned
    integers of some bits and the value is below two to the number of these.  The bytes are then
    the one row of an eighth of that length that is read back, the lowest byte first, as the
    value.  Hence different values that fit a format have different bytes, on their own and in
    tags, wherever these stand. -/
theorem encodeUnsigned_exact (format : NumberFormat) :
    (∀ value : UInt64, (∃ bytes, format.encodeUnsigned value = some bytes) ↔
        ∃ bits, format.Unsigned bits ∧ value.toNat < 2 ^ bits)
      ∧ (∀ (value : UInt64) (bytes : List UInt8), format.encodeUnsigned value = some bytes ↔
          ∃ bits, format.Unsigned bits ∧ bytes.length = bits / 8
            ∧ Nat.ofDigits 256 (bytes.map UInt8.toNat) = value.toNat)
      ∧ ∀ (bits : Nat) (a b : UInt64), format.Unsigned bits →
          a.toNat < 2 ^ bits → b.toNat < 2 ^ bits →
            (format.encodeUnsigned a = format.encodeUnsigned b → a = b)
              ∧ ∀ offset offset', Discriminator.encoded ⟨.number format a, offset⟩
                  = Discriminator.encoded ⟨.number format b, offset'⟩ → a = b := by
  refine ⟨fun value => ?_, fun value bytes => ?_, fun bits a b hbits ha hb => ⟨?_, ?_⟩⟩
  · rw [← Option.isSome_iff_exists, encodeUnsigned_isSome_iff, fits_iff]
  · rw [encodeUnsigned_eq_some_iff, ofLittleEndian_eq_ofDigits]
    simp only [unsigned_iff, and_assoc, exists_and_left, exists_eq_left,
      Nat.mul_div_cancel_left format.size (show 0 < 8 by decide)]
  · intro h
    have hencoded := Discriminator.encodeUnsigned_eq_encoded (fits_iff.mpr ⟨bits, hbits, ha⟩) 0
    exact encodeUnsigned_inj hencoded (h.symm.trans hencoded)
  · intro offset offset' h
    exact Discriminator.encoded_inj (fits_iff.mpr ⟨bits, hbits, ha⟩)
      (fits_iff.mpr ⟨bits, hbits, hb⟩) h

/-- The largest values of two formats, the value behind one of them, and a value with its two
    bytes exchanged. -/
theorem encodeUnsigned_exact_bounds :
    (∃ bytes, u128.encodeUnsigned 18446744073709551615 = some bytes ∧ bytes.length = 16
        ∧ Nat.ofDigits 256 (bytes.map UInt8.toNat) = 18446744073709551615)
      ∧ (∃ bytes, u16.encodeUnsigned 65535 = some bytes)
      ∧ (¬ ∃ bytes, u16.encodeUnsigned 65536 = some bytes)
      ∧ u16.Unsigned 16 ∧ (255 : UInt64).toNat < 2 ^ 16 ∧ (65280 : UInt64).toNat < 2 ^ 16
      ∧ u16.encodeUnsigned 255 ≠ u16.encodeUnsigned 65280 := by
  obtain ⟨hwide, hbytes, -⟩ := encodeUnsigned_exact .u128
  obtain ⟨hnarrow, -, hinj⟩ := encodeUnsigned_exact .u16
  have hlow : (255 : UInt64).toNat < 2 ^ 16 := by decide
  have hhigh : (65280 : UInt64).toNat < 2 ^ 16 := by decide
  obtain ⟨bytes, h⟩ := (hwide 18446744073709551615).mpr ⟨128, .u128, by decide⟩
  obtain ⟨_, hbits, hlength, hvalue⟩ := (hbytes _ _).mp h
  obtain rfl := (unsigned_iff.mp hbits).2
  refine ⟨⟨bytes, h, hlength, hvalue⟩, (hnarrow _).mpr ⟨16, .u16, by decide⟩, fun hbehind => ?_,
    .u16, hlow, hhigh, fun h => ?_⟩
  · obtain ⟨_, hbits, hroom⟩ := (hnarrow _).mp hbehind
    obtain rfl := (unsigned_iff.mp hbits).2
    exact absurd hroom (by decide)
  · exact absurd ((hinj 16 255 65280 .u16 hlow hhigh).1 h) (by decide)

end NumberFormat

end Bindery
