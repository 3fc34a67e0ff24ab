import Bindery.Text.Regex
import Bindery.Utility.Words

/-!
# Finding files

Goes through directories and asks an expression about every entry. What the expression
wants done with an entry is told as a list of deeds.

* **`Quest`** — the expressions; **`Quest.ofWords`** reads one.
* **`Deed`** — what is to be done with an entry.
* **`find`** — all deeds below some paths.
-/

namespace Bindery.Utility

open Text (Pattern)

/-- What an expression asks about an entry, and what it wants done with it. -/
inductive Quest where
  | always
  | never
  | name (pattern : Pattern)
  | path (pattern : Pattern)
  | ofKind (kind : EntryKind)
  | empty
  | least (depth : Nat)
  | print (ending : Char)
  | delete
  | run (words : List String) (together : Bool)
  | prune
  | not (inner : Quest)
  | both (first second : Quest)
  | either (first second : Quest)

/-- What is to be done with an entry. -/
inductive Deed where
  | print (path : String) (ending : Char)
  | delete (path : String)
  | run (words : List String)
  | gather (words : List String) (path : String)
  | complain (line : String)
deriving DecidableEq

namespace Quest

/-- A text as a pattern. -/
def patternOf (text : String) : Pattern := Pattern.ofMarks (text.toList.map (⟨·, false⟩))

/-- The words of a program up to its end, whether all entries go to one run of it, and what
    follows. -/
def program? : List String → Option (List String × Bool × List String)
  | [] => none
  | ";" :: rest => some ([], false, rest)
  | "\x7b\x7d" :: "+" :: rest => some ([], true, rest)
  | word :: rest => (program? rest).map fun (words, together, rest) => (word :: words, together, rest)

mutual

/-- Read questions one of which has to be answered with yes. -/
def alternatives? : (fuel : Nat) → List String → Except String (Quest × List String)
  | 0, _ => .error "expression is too long"
  | fuel + 1, words => do
    let (first, rest) ← conjunction? fuel words
    match rest with
    | "-o" :: rest | "-or" :: rest =>
      let (second, rest) ← alternatives? fuel rest
      return (.either first second, rest)
    | rest => return (first, rest)

/-- Read questions all of which have to be answered with yes. -/
def conjunction? : (fuel : Nat) → List String → Except String (Quest × List String)
  | 0, _ => .error "expression is too long"
  | fuel + 1, words => do
    let (first, rest) ← single? fuel words
    match rest with
    | [] | ")" :: _ | "-o" :: _ | "-or" :: _ => return (first, rest)
    | "-a" :: rest | "-and" :: rest | rest =>
      let (second, rest) ← conjunction? fuel rest
      return (.both first second, rest)

/-- Read one question. -/
def single? : (fuel : Nat) → List String → Except String (Quest × List String)
  | 0, _ => .error "expression is too long"
  | fuel + 1, words =>
    match words with
    | "!" :: rest | "-not" :: rest => do
      let (inner, rest) ← single? fuel rest
      return (.not inner, rest)
    | "(" :: rest => do
      let (inner, rest) ← alternatives? fuel rest
      match rest with
      | ")" :: rest => return (inner, rest)
      | _ => throw "invalid expression; I was expecting to find a ')' somewhere but did not see one."
    | "-name" :: text :: rest => .ok (.name (patternOf text), rest)
    | "-path" :: text :: rest => .ok (.path (patternOf text), rest)
    | "-type" :: "f" :: rest => .ok (.ofKind .file, rest)
    | "-type" :: "d" :: rest => .ok (.ofKind .folder, rest)
    | "-type" :: _ :: rest => .ok (.never, rest)
    | "-empty" :: rest => .ok (.empty, rest)
    | "-mindepth" :: n :: rest => .ok (.least (n.toNat?.getD 0), rest)
    | "-maxdepth" :: _ :: rest => .ok (.always, rest)
    | "-depth" :: rest => .ok (.always, rest)
    | "-print" :: rest => .ok (.print '\n', rest)
    | "-print0" :: rest => .ok (.print (Char.ofNat 0), rest)
    | "-delete" :: rest => .ok (.delete, rest)
    | "-prune" :: rest => .ok (.prune, rest)
    | "-true" :: rest => .ok (.always, rest)
    | "-false" :: rest => .ok (.never, rest)
    | "-exec" :: rest =>
      match program? rest with
      | some (words, together, rest) => .ok (.run words together, rest)
      | none => .error "missing argument to \x60-exec'"
    | [word] =>
      if ["-name", "-path", "-type", "-mindepth"].contains word then
        .error s!"missing argument to \x60{word}'"
      else .error s!"unknown predicate \x60{word}'"
    | word :: _ => .error s!"unknown predicate \x60{word}'"
    | [] => .error "invalid expression"

end

/-- Whether an expression does something with entries. -/
def acts : Quest → Bool
  | .print _ | .delete | .run _ _ => true
  | .not inner => inner.acts
  | .both a b | .either a b => a.acts || b.acts
  | _ => false

/-- The expression of words; one that does nothing prints. -/
def ofWords (words : List String) : Except String Quest := do
  if words.isEmpty then return .print '\n'
  let (quest, rest) ← alternatives? (4 * words.length + 4) words
  match rest with
  | [] => return if quest.acts then quest else .both quest (.print '\n')
  | _ => throw "invalid expression; you have too many ')'"

end Quest

variable {m : Type → Type} [Machine m]

/-- An entry that is asked about: its path, how deep it is, and what it is. -/
structure FoundEntry where
  path : String
  depth : Nat
  kind : EntryKind

/-- A word with a path in the place of a pair of braces. -/
def inPlace (path word : String) : String := String.ofList (go word.toList)
where
  go : List Char → List Char
    | '\x7b' :: '\x7d' :: rest => path.toList ++ go rest
    | c :: rest => c :: go rest
    | [] => []

/-- Ask about an entry: the answer, what is to be done, and whether its contents are to be
    left out. -/
def Quest.ask (entry : FoundEntry) : Quest → Utility m (Bool × List Deed × Bool)
  | .always => return (true, [], false)
  | .never => return (false, [], false)
  | .name pattern => return (pattern.accepts (baseName entry.path), [], false)
  | .path pattern => return (pattern.accepts entry.path, [], false)
  | .ofKind kind => return (entry.kind = kind, [], false)
  | .least depth => return (depth ≤ entry.depth, [], false)
  | .empty => do
    let isEmpty ← match entry.kind with
      | .folder =>
        pure ((← (FileSystem.names (m := Utility m) entry.path).run).toOption.getD []).isEmpty
      | .file =>
        pure ((← (FileSystem.readBytes (m := Utility m) entry.path).run).toOption.getD []).isEmpty
    return (isEmpty, [], false)
  | .print ending => return (true, [.print entry.path ending], false)
  | .delete => return (true, [.delete entry.path], false)
  | .run words true => return (true, [.gather words entry.path], false)
  | .run words false =>
    return (true, [.run (words.map (inPlace entry.path))], false)
  | .prune => return (true, [], true)
  | .not inner => do
    let (answer, deeds, prunes) ← inner.ask entry
    return (!answer, deeds, prunes)
  | .both a b => do
    let (answer, deeds, prunes) ← a.ask entry
    if answer then
      let (second, more, also) ← b.ask entry
      return (second, deeds ++ more, prunes || also)
    else return (false, deeds, prunes)
  | .either a b => do
    let (answer, deeds, prunes) ← a.ask entry
    if answer then return (true, deeds, prunes)
    else
      let (second, more, also) ← b.ask entry
      return (second, deeds ++ more, prunes || also)

/-- What is to be done with an entry and with all that is in it. `innerFirst` puts what is
    in a directory in front of it. -/
def walk (quest : Quest) (limit : Option Nat) (innerFirst : Bool) :
    (fuel : Nat) → (depth : Nat) → (path : String) → Utility m (List Deed)
  | 0, _, _ => return []
  | fuel + 1, depth, path => do
    match ← (FileSystem.kind (m := Utility m) path).run with
    | .error fault => return [.complain s!"find: {marked path}: {fault.reason}"]
    | .ok kind =>
      let (_, deeds, prunes) ← quest.ask ⟨path, depth, kind⟩
      let inner ← if kind = .folder && !prunes && limit.all (depth < ·) then do
          let names := (← (FileSystem.names (m := Utility m) path).run).toOption.getD []
          let below (name : String) : String :=
            if path.toList.getLast? = some '/' then path ++ name else path ++ "/" ++ name
          pure (List.flatten (← names.mapM fun name =>
            walk quest limit innerFirst fuel (depth + 1) (below name)))
        else pure []
      return if innerFirst then inner ++ deeds else deeds ++ inner

/-- The deeds of `find`: what is to be done with the entries below some paths. -/
def find (words : List String) : Utility m (List Deed) := do
  let isExpression (word : String) : Bool :=
    word.toList.head? = some '-' && word ≠ "-" || word = "(" || word = "!"
  let paths := words.takeWhile fun word => !isExpression word
  let expression := words.drop paths.length
  match Quest.ofWords expression with
  | .error text => return [.complain s!"find: {text}"]
  | .ok quest =>
    let limit := (expression.zip (expression.drop 1)).findSome? fun (word, n) =>
      if word = "-maxdepth" then n.toNat? else none
    let innerFirst := expression.contains "-delete" || expression.contains "-depth"
    let found ← (if paths.isEmpty then ["."] else paths).mapM fun path =>
      walk quest limit innerFirst depthLimit 0 path
    return found.flatten

end Bindery.Utility
