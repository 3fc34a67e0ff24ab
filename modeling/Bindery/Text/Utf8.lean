/-!
# Bytes of a text

* **`utf8Bytes`** — the bytes of a text.
* **`decodeLossy`** — the text of any bytes. Whatever cannot begin or continue a character
  becomes a replacement character, one for every stretch that could still have become one.
-/

namespace Bindery.Text

/-- The bytes of a text. -/
def utf8Bytes (text : String) : List UInt8 := text.toUTF8.toList

/-- The character that stands for bytes that are no text. -/
def replacement : Char := Char.ofNat 0xFFFD

/-- A character that has been begun: its bits so far, how many bytes are to come, and the
    range of the next one. -/
structure Begun where
  bits : Nat
  missing : Nat
  low : Nat
  high : Nat

/-- The character that a byte begins if it takes more bytes. The range of the second byte
    leaves out what has a shorter form, halves of pairs, and what is beyond the last
    character. -/
def Begun.of? (byte : Nat) : Option Begun :=
  if byte < 0xC2 then none
  else if byte < 0xE0 then some ⟨byte - 0xC0, 1, 0x80, 0xBF⟩
  else if byte < 0xF0 then
    some ⟨byte - 0xE0, 2, if byte = 0xE0 then 0xA0 else 0x80, if byte = 0xED then 0x9F else 0xBF⟩
  else if byte < 0xF5 then
    some ⟨byte - 0xF0, 3, if byte = 0xF0 then 0x90 else 0x80, if byte = 0xF4 then 0x8F else 0xBF⟩
  else none

/-- What a byte gives where a character may begin: a character, or a beginning. -/
def leading (byte : Nat) : List Char × Option Begun :=
  if byte < 0x80 then ([Char.ofNat byte], none)
  else match Begun.of? byte with
    | some begun => ([], some begun)
    | none => ([replacement], none)

/-- The characters of bytes, the first of which go on with a character that was begun. -/
def decodeFrom : Option Begun → List UInt8 → List Char
  | none, [] => []
  | some _, [] => [replacement]
  | none, byte :: rest =>
    let (chars, begun) := leading byte.toNat
    chars ++ decodeFrom begun rest
  | some begun, byte :: rest =>
    let b := byte.toNat
    if begun.low ≤ b ∧ b ≤ begun.high then
      let bits := begun.bits * 64 + (b - 0x80)
      if begun.missing ≤ 1 then Char.ofNat bits :: decodeFrom none rest
      else decodeFrom (some ⟨bits, begun.missing - 1, 0x80, 0xBF⟩) rest
    else
      let (chars, next) := leading b
      replacement :: chars ++ decodeFrom next rest

/-- The text of some bytes. -/
def decodeLossy (bytes : List UInt8) : String := String.ofList (decodeFrom none bytes)

end Bindery.Text
