import Bindery.SortedMap
import Bindery.Text.Split

/-!
# Node paths

A node of a tree is selected by its path, a text of segments between slashes:

    programs/<p>
    programs/<p>/accounts/<a>
    programs/<p>/instructions/<i>
    programs/<p>/instructions/<i>/accounts/<a>
    programs/<p>/instructions/<i>/arguments/<a>
    programs/<p>/types/<t>
    types/<t>

* **`NodePath`** — the seven forms; **`NodePath.text`** prints one, **`NodePath.parse`**
  reads one.
* **`NodePath.kind`** — what a form selects; shared and program types are one kind.
* **`NodePath.withName`**, **`NodePath.parent?`** — the same path under another last
  segment, and the path of the node that owns this one.
-/

namespace Bindery

/-- The kinds of nodes that a path can select. -/
inductive NodeKind where
  | program | account | instruction | instructionAccount | instructionArgument | definedType
deriving DecidableEq

/-- The kind as it is named in messages. -/
def NodeKind.describe : NodeKind → String
  | .program => "a program"
  | .account => "an account"
  | .instruction => "an instruction"
  | .instructionAccount => "an instruction account"
  | .instructionArgument => "an instruction argument"
  | .definedType => "a defined type"

/-- The path of a node. -/
inductive NodePath where
  | program (program : String)
  | account (program account : String)
  | instruction (program instruction : String)
  | instructionAccount (program instruction account : String)
  | instructionArgument (program instruction argument : String)
  | definedType (program name : String)
  | sharedType (name : String)
deriving DecidableEq

namespace NodePath

/-- Why a text is no path. -/
inductive Reason where
  | emptySegment | unknownCollection | unknownRoot
deriving DecidableEq

/-- The wording of a reason. -/
def Reason.message : Reason → String
  | .emptySegment => "empty path segment"
  | .unknownCollection => "unknown node collection"
  | .unknownRoot => "paths start with `programs/` or `types/`"

/-- A text that is no path. -/
structure Malformed where
  path : String
  reason : Reason
deriving DecidableEq

/-- The wording of a malformed path. -/
def Malformed.message (fault : Malformed) : String :=
  s!"invalid node path `{fault.path}`: {fault.reason.message}"

/-- The segments of a path. -/
def segments : NodePath → List String
  | .program p => ["programs", p]
  | .account p a => ["programs", p, "accounts", a]
  | .instruction p i => ["programs", p, "instructions", i]
  | .instructionAccount p i a => ["programs", p, "instructions", i, "accounts", a]
  | .instructionArgument p i a => ["programs", p, "instructions", i, "arguments", a]
  | .definedType p t => ["programs", p, "types", t]
  | .sharedType t => ["types", t]

/-- The text of a path. -/
def text (path : NodePath) : String := Text.joinText '/' path.segments

instance : ToString NodePath := ⟨text⟩

/-- The path of a list of segments. -/
def ofSegments : List String → Except Reason NodePath
  | ["programs", p] => .ok (.program p)
  | ["programs", p, "accounts", a] => .ok (.account p a)
  | ["programs", p, "instructions", i] => .ok (.instruction p i)
  | ["programs", p, "instructions", i, "accounts", a] => .ok (.instructionAccount p i a)
  | ["programs", p, "instructions", i, "arguments", a] => .ok (.instructionArgument p i a)
  | ["programs", p, "types", t] => .ok (.definedType p t)
  | ["types", t] => .ok (.sharedType t)
  | "programs" :: _ => .error .unknownCollection
  | _ => .error .unknownRoot

/-- Read a path. An empty segment is reported before an unknown form. -/
def parse (text : String) : Except Malformed NodePath :=
  let segments := Text.splitText '/' text
  if segments.any (· = "") then .error ⟨text, .emptySegment⟩
  else (ofSegments segments).mapError (⟨text, ·⟩)

/-- The last segment: the name of the selected node. -/
def name : NodePath → String
  | .program p => p
  | .account _ a => a
  | .instruction _ i => i
  | .instructionAccount _ _ a => a
  | .instructionArgument _ _ a => a
  | .definedType _ t => t
  | .sharedType t => t

/-- The program a path lives in. Shared types live in no program. -/
def programName? : NodePath → Option String
  | .program p | .account p _ | .instruction p _ | .instructionAccount p _ _
  | .instructionArgument p _ _ | .definedType p _ => some p
  | .sharedType _ => none

/-- The same path with another last segment. -/
def withName (path : NodePath) (newName : String) : NodePath :=
  match path with
  | .program _ => .program newName
  | .account p _ => .account p newName
  | .instruction p _ => .instruction p newName
  | .instructionAccount p i _ => .instructionAccount p i newName
  | .instructionArgument p i _ => .instructionArgument p i newName
  | .definedType p _ => .definedType p newName
  | .sharedType _ => .sharedType newName

/-- The path of the node that owns this one. Programs and shared types have no owner. -/
def parent? : NodePath → Option NodePath
  | .program _ | .sharedType _ => none
  | .account p _ | .instruction p _ | .definedType p _ => some (.program p)
  | .instructionAccount p i _ | .instructionArgument p i _ => some (.instruction p i)

/-- The kind of node a path selects. -/
def kind : NodePath → NodeKind
  | .program _ => .program
  | .account _ _ => .account
  | .instruction _ _ => .instruction
  | .instructionAccount _ _ _ => .instructionAccount
  | .instructionArgument _ _ _ => .instructionArgument
  | .definedType _ _ => .definedType
  | .sharedType _ => .definedType

/-- A name that fits in one segment. -/
def ValidName (name : String) : Prop := name ≠ "" ∧ '/' ∉ name.toList

instance (name : String) : Decidable (ValidName name) :=
  inferInstanceAs (Decidable (_ ∧ _))

/-- Paths are ordered by form, paths of one form by their names from left to right. -/
def rank : NodePath → List String
  | .program p => ["0", p]
  | .account p a => ["1", p, a]
  | .instruction p i => ["2", p, i]
  | .instructionAccount p i a => ["3", p, i, a]
  | .instructionArgument p i a => ["4", p, i, a]
  | .definedType p t => ["5", p, t]
  | .sharedType t => ["6", t]

instance : SortKey NodePath where
  rank := rank
  rank_injective {a b} h := by cases a <;> cases b <;> simp_all [rank]

end NodePath

end Bindery
