import Bindery.Double

/-!
# JSON values

A JSON value as this library reads and writes it. Objects keep their members in the
order they were given, so that a printed document shows the order its writer chose;
`Json.canonical` is the form with sorted, distinct keys that order-free readers see.

* **`Json.Number`** — an integer; anything written with a point, with an exponent, or
  outside the 64-bit ranges is a double.
* **`Json`** — the value itself.
* **`Json.canonical`** — members sorted by key, the last of several equal keys kept.
-/

namespace Bindery

/-- A number of a document. -/
inductive Json.Number where
  | int (value : Int)
  | double (value : Double)
deriving DecidableEq

/-- A JSON value whose objects keep the order of their members. -/
inductive Json where
  | null
  | bool (value : Bool)
  | number (value : Json.Number)
  | string (value : String)
  | array (items : List Json)
  | object (members : List (String × Json))

namespace Json

/-- A natural number as JSON. -/
def nat (n : Nat) : Json := .number (.int n)

/-- A word of 64 bits as JSON. -/
def word (w : UInt64) : Json := nat w.toNat

/-- A list of texts as JSON. -/
def strings (texts : List String) : Json := .array (texts.map .string)

/-- The value of a member, if the value is an object that has it. Later members of the
    same key win. -/
def member? (key : String) : Json → Option Json
  | .object members => (members.reverse.find? (·.1 == key)).map (·.2)
  | _ => none

/-- Put a member into a list sorted by key, replacing the member of that key. -/
def insertMember (key : String) (value : Json) :
    List (String × Json) → List (String × Json)
  | [] => [(key, value)]
  | (k, v) :: rest =>
    if key < k then (key, value) :: (k, v) :: rest
    else if key = k then (key, value) :: rest
    else (k, v) :: insertMember key value rest

mutual

/-- The same value with the members of every object sorted by key, each key once. -/
def canonical : Json → Json
  | .array items => .array (canonicalItems items)
  | .object members => .object (canonicalMembers members [])
  | other => other

/-- The same items, each in canonical form. -/
def canonicalItems : List Json → List Json
  | [] => []
  | item :: items => item.canonical :: canonicalItems items

/-- Insert the members one after another into the sorted list `done`. -/
def canonicalMembers : List (String × Json) → List (String × Json) → List (String × Json)
  | [], done => done
  | (key, value) :: members, done =>
    canonicalMembers members (insertMember key value.canonical done)

end

end Json

end Bindery
