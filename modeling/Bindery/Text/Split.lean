/-!
# Cutting text at a character

* **`splitAt`** — the pieces between the occurrences of a separator; there is always at
  least one piece, and joining the pieces with the separator gives the text back.
* **`splitText`**, **`joinText`** — the same on strings.
* **`lines`** — the lines of a text: each ends at a line feed, a carriage return in
  front of it belongs to the line break, and a last line needs no break.
-/

namespace Bindery.Text

/-- The pieces of a text between the occurrences of a separator. -/
def splitAt (separator : Char) : List Char → List (List Char)
  | [] => [[]]
  | c :: cs =>
    if c = separator then [] :: splitAt separator cs
    else
      match splitAt separator cs with
      | [] => [[c]]
      | piece :: pieces => (c :: piece) :: pieces

/-- The pieces with a separator between each two of them. -/
def joinAt (separator : Char) : List (List Char) → List Char
  | [] => []
  | [piece] => piece
  | piece :: pieces => piece ++ separator :: joinAt separator pieces

/-- A text always has a first piece. -/
theorem splitAt_ne_nil (separator : Char) (cs : List Char) : splitAt separator cs ≠ [] := by
  cases cs with
  | nil => simp [splitAt]
  | cons c cs =>
    unfold splitAt
    split
    · simp
    · split <;> simp

/-- Joining the pieces of a text restores it. -/
theorem joinAt_splitAt (separator : Char) (cs : List Char) :
    joinAt separator (splitAt separator cs) = cs := by
  induction cs with
  | nil => rfl
  | cons c cs ih =>
    unfold splitAt
    split
    · rename_i same
      have := splitAt_ne_nil separator cs
      cases h : splitAt separator cs with
      | nil => exact absurd h this
      | cons piece pieces => rw [h] at ih; simp [joinAt, ih, same]
    · cases h : splitAt separator cs with
      | nil => exact absurd h (splitAt_ne_nil separator cs)
      | cons piece pieces =>
        rw [h] at ih
        cases pieces with
        | nil => simpa [joinAt] using ih
        | cons next rest => simpa [joinAt] using ih

/-- The pieces of a string between the occurrences of a separator. -/
def splitText (separator : Char) (text : String) : List String :=
  (splitAt separator text.toList).map String.ofList

/-- The strings with a separator between each two of them. -/
def joinText (separator : Char) (pieces : List String) : String :=
  String.ofList (joinAt separator (pieces.map String.toList))

/-- A line without the carriage return that belongs to its line break. -/
def dropReturn (line : List Char) : List Char :=
  if line.getLast? = some '\r' then line.dropLast else line

/-- The lines of a text. What follows the last line feed is a line unless it is empty,
    and keeps its carriage return. -/
def lines (text : String) : List String :=
  let pieces := splitAt '\n' text.toList
  let ended := pieces.dropLast.map dropReturn
  let last := (pieces.getLast?.getD [])
  (if last.isEmpty then ended else ended ++ [last]).map String.ofList

end Bindery.Text
