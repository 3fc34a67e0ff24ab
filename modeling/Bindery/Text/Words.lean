import Bindery.Text.Char
import Bindery.Text.Split

/-!
# Words of a name

A name is cut into words, and the words are joined again in the style of the place where
the name is used. Characters that are neither letters nor numbers only separate words.

* **`Words.ofName`** — the words of a name. A word ends between a lower-case and an
  upper-case letter, and before the last capital of a run that a lower-case letter
  follows; numbers and letters without case go with what is before them.
* **`snakeCase`**, **`shoutyCase`**, **`camelCase`**, **`upperCamelCase`** — the styles.
* **`compactCamelCase`** — a camel case that also ends words behind numbers.
-/

namespace Bindery.Text

namespace Words

/-- The case of the last letter with case in the current word. -/
inductive Mode where
  | boundary | lower | upper
deriving DecidableEq

/-- The mode after a character that ends no word. -/
def Mode.after (mode : Mode) (c : Char) : Mode :=
  if isLower c then .lower else if isUpper c then .upper else mode

/-- Cut letters and numbers into words. `word` holds the characters of the current word,
    the last one first. -/
def cut (mode : Mode) (word : List Char) : List Char → List (List Char)
  | [] => []
  | [c] => [(c :: word).reverse]
  | c :: next :: rest =>
    if mode.after c = .lower ∧ isUpper next then
      (c :: word).reverse :: cut .boundary [] (next :: rest)
    else if mode = .upper ∧ isUpper c ∧ isLower next then
      word.reverse :: cut .boundary [c] (next :: rest)
    else cut (mode.after c) (c :: word) (next :: rest)

/-- The runs of letters and numbers of a name. -/
def pieces : List Char → List (List Char)
  | [] => [[]]
  | c :: cs =>
    if isAlphanumeric c then
      match pieces cs with
      | [] => [[c]]
      | piece :: rest => (c :: piece) :: rest
    else [] :: pieces cs

/-- The words of a name. -/
def ofName (name : String) : List (List Char) :=
  (pieces name.toList).flatMap (cut .boundary [])

/-- A word in lower case; a capital sigma at its end becomes a final sigma. -/
def lower : List Char → List Char
  | [] => []
  | [c] => if c = 'Σ' then ['ς'] else toLower c
  | c :: cs => toLower c ++ lower cs

/-- A word in upper case. -/
def upper (word : List Char) : List Char := word.flatMap toUpper

/-- A word with its first character in upper case and the others in lower case. -/
def capitalized : List Char → List Char
  | [] => []
  | c :: cs => toUpper c ++ lower cs

end Words

/-- The words in lower case, joined by underscores. -/
def snakeCase (name : String) : String :=
  String.ofList (joinAt '_' ((Words.ofName name).map Words.lower))

/-- The words in upper case, joined by underscores. -/
def shoutyCase (name : String) : String :=
  String.ofList (joinAt '_' ((Words.ofName name).map Words.upper))

/-- The words capitalized and joined. -/
def upperCamelCase (name : String) : String :=
  String.ofList ((Words.ofName name).flatMap Words.capitalized)

/-- The words capitalized, the first one in lower case, and joined. -/
def camelCase (name : String) : String :=
  String.ofList
    (match Words.ofName name with
      | [] => []
      | first :: rest => Words.lower first ++ rest.flatMap Words.capitalized)

/-- Camel case in one pass: a word starts behind anything that is no letter or number,
    behind a number, and between a lower-case and an upper-case letter. `last` is the
    letter or number before, if nothing separates it. -/
def compactCamel (started : Bool) (last : Option Char) : List Char → List Char
  | [] => []
  | c :: cs =>
    if !isAlphanumeric c then compactCamel started none cs
    else
      let starts := match last with
        | none => true
        | some before => isNumeric before || (isLower before && isUpper c)
      (if starts && started then toUpper c else toLower c)
        ++ compactCamel true (some c) cs

/-- The camel case that starts a word behind every number. -/
def compactCamelCase (name : String) : String :=
  String.ofList (compactCamel false none name.toList)

end Bindery.Text
