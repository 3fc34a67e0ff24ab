import Bindery.Utility.Edit
import Bindery.Utility.Files
import Bindery.Utility.Find
import Bindery.Utility.Search

/-!
# The programs that are installed

* **`Utility.installed?`** — the utility of a name.
* **`Utility.launchers`** — the programs that run other commands, which a shell has to do
  for them.
-/

namespace Bindery.Utility

variable {m : Type → Type} [Machine m]

/-- The utilities by their names. -/
def installed? (name : String) : Option (List String → Utility m Nat) :=
  match name with
  | "true" => some fun _ => return 0
  | "false" => some fun _ => return 1
  | "echo" => some echo
  | "printf" => some format
  | "test" => some (test "test")
  | "[" => some bracket
  | "basename" => some lastName
  | "dirname" => some folderName
  | "seq" => some numbers
  | "sleep" | "sync" => some sleep
  | "cat" => some concatenate
  | "tee" => some duplicate
  | "head" => some firstPart
  | "tail" => some lastPart
  | "wc" => some count
  | "tac" => some reverseLines
  | "rev" => some reverseChars
  | "tr" => some exchange
  | "cut" => some cut
  | "sort" => some sort
  | "uniq" => some unique
  | "grep" => some search
  | "egrep" => some fun words => search ("-E" :: words)
  | "fgrep" => some fun words => search ("-F" :: words)
  | "sed" => some edit
  | "mkdir" => some makeFolders
  | "rmdir" => some removeFolders
  | "touch" => some touch
  | "truncate" => some truncate
  | "chmod" => some changeMode
  | "rm" => some remove
  | "cp" => some copy
  | "mv" => some move
  | "ln" => some link
  | "ls" => some list
  | _ => none

/-- The programs that run other commands. -/
def launchers : List String := ["sh", "dash", "env", "xargs", "find", "nohup", "timeout", "nice"]

/-- Whether a program of a name is installed. -/
def isInstalled (m : Type → Type) [Machine m] (name : String) : Bool :=
  launchers.contains name || (installed? (m := m) name).isSome

end Bindery.Utility
