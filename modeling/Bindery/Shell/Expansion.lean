import Bindery.Shell.State

/-!
# From pieces to words

The value of a word is a row of atoms, which is cut into fields where the value of a
parameter has separators; a field that is a pattern stands for the paths that match it.

* **`Atom`** — a character with what matters for cutting, or a sign.
* **`fields`** — the fields of a row of atoms.
* **`Run.paths`** — the paths that a field stands for.
-/

namespace Bindery.Shell

open Text (Mark Pattern)

/-- A part of the value of a word: a character, which may be quoted and may be a separator;
    the boundary between two parameters; or a sign that there is a field, even an empty
    one. -/
inductive Atom where
  | char (c : Char) (quoted splits : Bool)
  | boundary
  | present
deriving DecidableEq

namespace Atom

/-- The atoms of the value of a parameter or the output of a command. -/
def ofValue (quoted : Bool) (text : String) : List Atom :=
  (if quoted then [.present] else []) ++ text.toList.map (.char · quoted (!quoted))

/-- The atoms of a text in a script. -/
def ofText (quoted splits : Bool) (text : String) : List Atom :=
  (if quoted then [.present] else []) ++ text.toList.map (.char · quoted (splits && !quoted))

/-- The atoms of several values with boundaries between them. -/
def ofValues (quoted : Bool) : List String → List Atom
  | [] => []
  | [text] => ofValue quoted text
  | text :: rest => ofValue quoted text ++ .boundary :: ofValues quoted rest

/-- The text of a row of atoms that is not cut. -/
def textOf (atoms : List Atom) : String :=
  String.ofList (atoms.filterMap fun
    | .char c _ _ => some c
    | .boundary => some ' '
    | .present => none)

/-- The marks of a row of atoms that is not cut. -/
def marksOf (atoms : List Atom) : List Mark :=
  atoms.filterMap fun
    | .char c quoted _ => some ⟨c, quoted⟩
    | .boundary => some ⟨' ', true⟩
    | .present => none

end Atom

/-- Whether a separator is white space, several of which count as one. -/
def isWhite (c : Char) : Bool := c = ' ' || c = '\t' || c = '\n'

/-- The fields of a row of atoms. `field` is the one that has been begun, last first;
    `afterWhite` says that white space has ended the one before, so that a separator of
    another kind belongs to it. -/
def fieldsFrom (separators : List Char) :
    (field : Option (List Mark)) → (afterWhite : Bool) → List Atom → List (List Mark)
  | none, _, [] => []
  | some marks, _, [] => [marks.reverse]
  | field, _, .present :: rest => fieldsFrom separators (some (field.getD [])) false rest
  | none, _, .boundary :: rest => fieldsFrom separators none false rest
  | some marks, _, .boundary :: rest => marks.reverse :: fieldsFrom separators none false rest
  | field, afterWhite, .char c quoted splits :: rest =>
    if splits ∧ separators.contains c then
      if isWhite c then
        match field with
        | some marks => marks.reverse :: fieldsFrom separators none true rest
        | none => fieldsFrom separators none afterWhite rest
      else
        match field with
        | some marks => marks.reverse :: fieldsFrom separators none false rest
        | none =>
          if afterWhite then fieldsFrom separators none false rest
          else [] :: fieldsFrom separators none false rest
    else fieldsFrom separators (some (⟨c, quoted⟩ :: field.getD [])) false rest

/-- The fields of a row of atoms. -/
def fields (separators : List Char) (atoms : List Atom) : List (List Mark) :=
  fieldsFrom separators none false atoms

/-- The parts of a path between slashes. -/
def pathParts : List Mark → List (List Mark)
  | [] => [[]]
  | mark :: rest =>
    if mark.char = '/' then [] :: pathParts rest
    else match pathParts rest with
      | part :: parts => (mark :: part) :: parts
      | [] => [[mark]]

namespace Run

variable {m : Type → Type} [Machine m]

/-- The paths that parts of a pattern stand for, below a path that has been found. `found`
    says that a part before had something to match. -/
def matchParts (above : String) (found : Bool) : List (List Mark) → Run m (List String)
  | [] => return []
  | [last] => do
    let pattern := Pattern.ofMarks last
    if pattern.isPlain then
      let path := above ++ Mark.text last
      if !found then return [path]
      let exists_ ← files (m := m) (FileSystem.kind (if path = "" then "." else path))
      return if exists_ matches .ok _ then [path] else []
    else
      return (← matching above last pattern).map (above ++ ·)
  | part :: rest => do
    let pattern := Pattern.ofMarks part
    if pattern.isPlain then matchParts (above ++ Mark.text part ++ "/") found rest
    else
      let names ← matching above part pattern
      let paths ← names.mapM fun name => do
        let kind ← files (m := m) (FileSystem.kind (above ++ name))
        if kind matches .ok .folder then matchParts (above ++ name ++ "/") true rest else pure []
      return paths.flatten
where
  matching (above : String) (part : List Mark) (pattern : Pattern) : Run m (List String) := do
    let shown := part.head?.any (·.char = '.')
    let names ← files (m := m) (FileSystem.names (if above = "" then "." else above))
    let all := (if shown then [".", ".."] else []) ++ names.toOption.getD []
    return all.filter fun name =>
      pattern.accepts name && (shown || name.toList.head? ≠ some '.')

/-- The words that a field stands for: the paths that it matches, or else itself. -/
def paths (field : List Mark) : Run m (List String) := do
  let special := field.any fun mark => !mark.quoted && (mark.char = '*' || mark.char = '?' || mark.char = '[')
  if !special || (← get).has 'f' then return [Mark.text field]
  else
    let found ← matchParts "" false (pathParts field)
    if found.isEmpty || Pattern.isPlain (Pattern.ofMarks field) then return [Mark.text field]
    else return found.mergeSort fun a b => a ≤ b

end Run

end Bindery.Shell
