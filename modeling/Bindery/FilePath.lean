import Bindery.SortedMap
import Bindery.Text.Split

/-!
# Paths of files

A path is a text. What it means is the list of its steps: the root, the directory it
starts from, the directory above, or a name. Repeated slashes and inner dots mean nothing,
so that `a/./b` and `a/b` are one file; a leading dot is kept.

* **`FilePath.Step`**, **`FilePath.steps`** — the steps of a text.
* **`FilePath.isInner`** — whether a path cannot leave the directory it starts from.
* **`FilePath.join`** — a path under a directory; **`FilePath.parent?`** — the directory
  of a path. Both keep the text as it was written.
-/

namespace Bindery.FilePath

/-- A step of a path. -/
inductive Step where
  | root | here | above
  | name (name : String)
deriving DecidableEq

/-- Steps are ordered as listed, names by their texts. -/
def Step.rank : Step → String
  | .root => "0"
  | .here => "1"
  | .above => "2"
  | .name text => "3" ++ text

/-- Distinct steps have distinct ranks. -/
theorem Step.rank_injective {a b : Step} (h : a.rank = b.rank) : a = b := by
  have h := congrArg String.toList h
  cases a <;> cases b <;> simp [Step.rank, String.toList_append, String.toList_inj] at h ⊢
  exact h

/-- Distinct lists of steps have distinct lists of ranks. -/
theorem ranks_injective : {a b : List Step} → a.map Step.rank = b.map Step.rank → a = b
  | [], [], _ => rfl
  | [], _ :: _, h | _ :: _, [], h => by simp at h
  | _ :: _, _ :: _, h => by
    obtain ⟨first, rest⟩ := List.cons.inj h
    rw [Step.rank_injective first, ranks_injective rest]

instance : SortKey (List Step) where
  rank steps := steps.map Step.rank
  rank_injective := ranks_injective

/-- Whether a path starts at the root. -/
def isAbsolute (path : String) : Bool :=
  match path.toList with
  | c :: _ => c = '/'
  | [] => false

/-- The step of a piece of a path between slashes. -/
def stepOf? (piece : String) : Option Step :=
  if piece = "" ∨ piece = "." then none
  else if piece = ".." then some .above
  else some (.name piece)

/-- The steps of a path. -/
def steps (path : String) : List Step :=
  let pieces := Text.splitText '/' path
  let first := match pieces with
    | "" :: _ :: _ => [Step.root]
    | "." :: _ => [Step.here]
    | _ => []
  first ++ pieces.filterMap stepOf?

/-- Whether a path leads to something inside the directory it is relative to. -/
def isInner (path : String) : Bool :=
  path ≠ "" && (steps path).all fun
    | .here | .name _ => true
    | .root | .above => false

/-- A path under a directory, which an absolute path does not need. -/
def join (directory path : String) : String :=
  if isAbsolute path ∨ directory = "" then path
  else if directory.toList.getLast? = some '/' then directory ++ path
  else directory ++ "/" ++ path

/-- A path as it is seen from the directory of the file that mentions it. -/
def resolve (base path : String) : String := if isAbsolute path then path else join base path

/-- Drop the pieces that mean nothing at the end of a path whose pieces are listed from
    the end. The first piece of a path is kept if it says where the path starts. -/
def dropIdle : List String → List String
  | [] => []
  | [first] => [first]
  | piece :: rest => if stepOf? piece = none then dropIdle rest else piece :: rest

/-- The directory of a path, unless the path ends in the root or is empty. -/
def parent? (path : String) : Option String :=
  match dropIdle (Text.splitText '/' path).reverse with
  | [] => none
  | [first] => if first = "" then none else some ""
  | _ :: rest =>
    match dropIdle rest with
    | [""] => some "/"
    | kept => some (Text.joinText '/' kept.reverse)

end Bindery.FilePath
