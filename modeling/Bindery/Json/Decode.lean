import Bindery.Json.Basic
import Bindery.NodePath
import Bindery.Word

/-!
# Decoding JSON

A decoder looks at one layer of a document at a time and reports the first problem in
reading order. It works on any document type with a `Readable` instance, so that one
decoder serves a complete value as well as a text that may stop being JSON half way.

* **`Fault`** — why a document does not decode.
* **`Readable`** — documents that show one layer at a time.
* **`Fields`** — the fields of a record, decoded from the members of an object (by key,
  in reading order) or from the items of an array (in declaration order).
* **`record`**, **`Tagged`**, **`choice`** — the three ways in which a value tells what
  it is: not at all, by a member that names its kind, by its only key.
-/

namespace Bindery

/-- Why a document does not decode. -/
inductive Fault where
  | malformed
  | missingField (name : String)
  | duplicateField (name : String)
  | unknownVariant (found : String) (expected : List String)
  | malformedPath (fault : NodePath.Malformed)
  | noAlternative (union : String)
  | invalidType
  | invalidValue
  | invalidLength
deriving DecidableEq

namespace Fault

/-- The names that were expected, each in backticks. -/
def alternatives (names : List String) : String :=
  match names.map (fun name => s!"`{name}`") with
  | [] => "nothing"
  | [one] => one
  | [one, two] => s!"{one} or {two}"
  | many => "one of " ++ ", ".intercalate many

/-- The wording of a fault. -/
def message : Fault → String
  | .malformed => "syntax"
  | .missingField name => s!"missing field `{name}`"
  | .duplicateField name => s!"duplicate field `{name}`"
  | .unknownVariant found expected =>
    s!"unknown variant `{found}`, expected {alternatives expected}"
  | .malformedPath fault => fault.message
  | .noAlternative union => s!"data did not match any variant of untagged enum {union}"
  | .invalidType => "invalid type"
  | .invalidValue => "invalid value"
  | .invalidLength => "invalid length"

end Fault

namespace Json

/-- One layer of a document whose parts are of type `τ`. -/
inductive Layer (τ : Type) where
  | null
  | bool (value : Bool)
  | number (value : Number)
  | string (value : String)
  | array (items : List τ)
  | object (members : List (String × τ))

/-- Documents that can be read layer by layer. `layer` is what a reader that wants the
    value sees, `skip` what one sees that passes over it, `whole` the complete value.
    `surplus` is the fault of an array with more items than its record has fields. -/
class Readable (τ : Type) where
  layer : τ → Except Fault (Layer τ)
  skip : τ → Except Fault Unit
  whole : τ → Except Fault Json
  surplus : Fault

instance : Readable Json where
  layer
    | .null => .ok .null
    | .bool value => .ok (.bool value)
    | .number value => .ok (.number value)
    | .string value => .ok (.string value)
    | .array items => .ok (.array items)
    | .object members => .ok (.object members)
  skip _ := .ok ()
  whole value := .ok value
  surplus := .invalidLength

end Json

namespace Decode

open Json (Layer Readable)

variable {τ : Type} [Readable τ] {α β : Type}

-- ── scalars and lists ────────────────────────────────────────────────────────────

/-- A string. -/
def str (t : τ) : Except Fault String := do
  match ← Readable.layer t with
  | .string value => .ok value
  | _ => .error .invalidType

/-- A truth value. -/
def bool (t : τ) : Except Fault Bool := do
  match ← Readable.layer t with
  | .bool value => .ok value
  | _ => .error .invalidType

/-- An unsigned integer of a number of bits. -/
def unsigned (bits : Nat) (t : τ) : Except Fault Nat := do
  match ← Readable.layer t with
  | .number (.int value) =>
    if 0 ≤ value ∧ value.toNat < wordCount bits then .ok value.toNat else .error .invalidValue
  | _ => .error .invalidType

/-- A signed integer of a number of bits. -/
def signed (bits : Nat) (t : τ) : Except Fault Int := do
  match ← Readable.layer t with
  | .number (.int value) =>
    if -(wordCount (bits - 1) : Int) ≤ value ∧ value < (wordCount (bits - 1) : Int) then .ok value
    else .error .invalidValue
  | _ => .error .invalidType

/-- A byte. -/
def byte (t : τ) : Except Fault UInt8 := (unsigned 8 t).map UInt8.ofNat

/-- An unsigned word of 32 bits. -/
def word32 (t : τ) : Except Fault UInt32 := (unsigned 32 t).map UInt32.ofNat

/-- An unsigned word of 64 bits. -/
def word64 (t : τ) : Except Fault UInt64 := (unsigned 64 t).map UInt64.ofNat

/-- A signed word of 64 bits. -/
def int64 (t : τ) : Except Fault Int64 := (signed 64 t).map Int64.ofInt

/-- A list. -/
def listOf (item : τ → Except Fault α) (t : τ) : Except Fault (List α) := do
  match ← Readable.layer t with
  | .array items => items.mapM item
  | _ => .error .invalidType

/-- A value or null. -/
def nullable (item : τ → Except Fault α) (t : τ) : Except Fault (Option α) := do
  match ← Readable.layer t with
  | .null => .ok none
  | _ => (item t).map some

/-- A map. The key of a member is decoded before its value. -/
def mapOf {K V : Type} [SortKey K] (key : String → Except Fault K) (value : τ → Except Fault V)
    (t : τ) : Except Fault (SortedMap K V) := do
  match ← Readable.layer t with
  | .object members =>
    List.foldlM (fun done (k, v) => do return SortedMap.insert done (← key k) (← value v))
      SortedMap.empty members
  | _ => .error .invalidType

/-- The path that a text stands for. -/
def pathOfText (text : String) : Except Fault NodePath :=
  (NodePath.parse text).mapError .malformedPath

/-- A node path. -/
def nodePath (t : τ) : Except Fault NodePath := do pathOfText (← str t)

-- ── records ──────────────────────────────────────────────────────────────────────

/-- A fault and the number of members in front of it. -/
structure Placed where
  position : Nat
  fault : Fault

/-- Both results, or the fault that comes first; of two at one place the left one. -/
def both (first : Except Placed α) (second : Except Placed β) : Except Placed (α × β) :=
  match first, second with
  | .ok a, .ok b => .ok (a, b)
  | .error e, .ok _ => .error e
  | .ok _, .error f => .error f
  | .error e, .error f => .error (if f.position < e.position then f else e)

/-- The first member, from a position on, whose key is one of `names`: its position, its
    value and the members after it. -/
def locate (names : List String) :
    (position : Nat) → List (String × τ) → Option (Nat × τ × List (String × τ))
  | _, [] => none
  | position, (key, value) :: rest =>
    if key ∈ names then some (position, value, rest) else locate names (position + 1) rest

/-- The fields of a record with values in `τ`: the keys they own, how they are read from
    the members of an object, and how they are read from the items of an array. -/
structure Fields (τ α : Type) where
  keys : List String
  fromMembers : List (String × τ) → Except Placed α
  fromItems : List τ → Except Fault (α × List τ)

namespace Fields

/-- No field at all. -/
def pure (a : α) : Fields τ α where
  keys := []
  fromMembers _ := .ok a
  fromItems items := .ok (a, items)

/-- The fields of two records, the left ones declared first. -/
def seq (first : Fields τ (α → β)) (second : Unit → Fields τ α) : Fields τ β where
  keys := first.keys ++ (second ()).keys
  fromMembers members :=
    (both (first.fromMembers members) ((second ()).fromMembers members)).map
      fun (f, a) => f a
  fromItems items := do
    let (f, items) ← first.fromItems items
    let (a, items) ← (second ()).fromItems items
    return (f a, items)

instance : Applicative (Fields τ) where
  pure := Fields.pure
  seq := Fields.seq

/-- A field under a name or one of its aliases. A second member of the same field is a
    fault. Without any member `absent` decides: a value, or that the field is missing. -/
def ofKeys (name : String) (aliases : List String) (value : τ → Except Fault α)
    (absent : Option α) : Fields τ α where
  keys := name :: aliases
  fromMembers members :=
    match locate (name :: aliases) 0 members with
    | none =>
      match absent with
      | some a => .ok a
      | none => .error ⟨members.length, .missingField name⟩
    | some (position, found, rest) =>
      match value found with
      | .error fault => .error ⟨position, fault⟩
      | .ok a =>
        match locate (name :: aliases) (position + 1) rest with
        | some (again, _, _) => .error ⟨again, .duplicateField name⟩
        | none => .ok a
  fromItems
    | item :: items => do return (← value item, items)
    | [] =>
      match absent with
      | some a => .ok (a, [])
      | none => .error .invalidLength

/-- A field that has to be there. -/
def required (name : String) (value : τ → Except Fault α) : Fields τ α :=
  ofKeys name [] value none

/-- A field with a value for its absence. -/
def optional (name : String) (value : τ → Except Fault α) (absent : α) : Fields τ α :=
  ofKeys name [] value (some absent)

end Fields

/-- The first member of an object that belongs to no field and cannot be passed over. -/
def skipOthers (keys : List String) : (position : Nat) → List (String × τ) → Except Placed Unit
  | _, [] => .ok ()
  | position, (key, value) :: rest =>
    if key ∈ keys then skipOthers keys (position + 1) rest
    else
      match Readable.skip value with
      | .error fault => .error ⟨position, fault⟩
      | .ok _ => skipOthers keys (position + 1) rest

/-- A record: an object with its fields by key, or an array with its fields in order. -/
def record (fields : Fields τ α) (t : τ) : Except Fault α := do
  match ← Readable.layer t with
  | .object members =>
    match both (skipOthers fields.keys 0 members) (fields.fromMembers members) with
    | .ok (_, a) => .ok a
    | .error e => .error e.fault
  | .array items =>
    match ← fields.fromItems items with
    | (a, []) => .ok a
    | (_, _ :: _) => .error (Readable.surplus τ)
  | _ => .error .invalidType

/-- A record that is never written as an array. -/
def objectOnly (fields : Fields τ α) (t : τ) : Except Fault α := do
  match ← Readable.layer t with
  | .object _ => record fields t
  | _ => .error .invalidType

-- ── kinds ────────────────────────────────────────────────────────────────────────

/-- How far a value had been read when its kind was looked for. A `fresh` value names its
    kind by text; a value `setAside` while the kind of its owner was being looked for may
    also give the number of its kind, and an empty object for no payload. -/
inductive Stage where
  | fresh | setAside
deriving DecidableEq

/-- The name of a kind among those that exist. -/
def variantName (variants : List String) (name : String) : Except Fault String :=
  if name ∈ variants then .ok name else .error (.unknownVariant name variants)

/-- The kind that a value names. -/
def variant (stage : Stage) (variants : List String) (t : τ) : Except Fault String := do
  match stage, ← Readable.layer t with
  | _, .string name => variantName variants name
  | .setAside, .number (.int n) =>
    if n < 0 then .error .invalidType
    else
      match variants[n.toNat]? with
      | some name => .ok name
      | none => .error .invalidValue
  | _, _ => .error .invalidType

/-- What is left of a value once its kind is known. -/
inductive Body where
  | members (members : List (String × Json))
  | items (items : List Json)

/-- Find the member that names the kind and set the others aside. -/
def splitKind (stage : Stage) (key : String) (variants : List String) :
    (kind : Option String) → List (String × τ) → Except Fault (String × List (String × Json))
  | none, [] => .error (.missingField key)
  | some kind, [] => .ok (kind, [])
  | kind, (k, v) :: rest =>
    if k = key then
      if kind.isSome then .error (.duplicateField key)
      else do splitKind stage key variants (some (← variant stage variants v)) rest
    else do
      let value ← Readable.whole v
      let (kind, others) ← splitKind stage key variants kind rest
      return (kind, (k, value) :: others)

/-- A value whose kind is named by a member, or by its first item. -/
def tagged (stage : Stage) (key : String) (variants : List String) (t : τ) :
    Except Fault (String × Body) := do
  match ← Readable.layer t with
  | .object members =>
    let (kind, others) ← splitKind stage key variants none members
    return (kind, .members others)
  | .array [] => .error (.missingField key)
  | .array (first :: rest) =>
    let kind ← variant stage variants first
    return (kind, .items (← rest.mapM Readable.whole))
  | _ => .error .invalidType

/-- The fields of the kind of a tagged value. -/
def Body.decode (body : Body) (fields : Fields Json α) : Except Fault α :=
  match body with
  | .members ms => record fields (Json.object ms)
  | .items is => record fields (Json.array is)

/-- A kind without fields: other members are ignored, further items are not. -/
def Body.unit (body : Body) (a : α) : Except Fault α :=
  match body with
  | .members _ => .ok a
  | .items [] => .ok a
  | .items (_ :: _) => .error .invalidLength

/-- A value that is named by its only key, or by a text if it carries nothing. -/
def choice (variants : List String) (j : Json) : Except Fault (String × Option Json) :=
  match j with
  | .string name => do return (← variantName variants name, none)
  | .object [(name, payload)] => do return (← variantName variants name, some payload)
  | .object _ => .error .invalidValue
  | _ => .error .invalidType

/-- The payload of a choice that carries nothing. -/
def noPayload (stage : Stage) (a : α) : Option Json → Except Fault α
  | none => .ok a
  | some .null => .ok a
  | some (.object []) => if stage = .setAside then .ok a else .error .invalidType
  | some _ => .error .invalidType

/-- The payload of a choice that carries a value. -/
def payload (value : Json → Except Fault α) : Option Json → Except Fault α
  | none => .error .invalidType
  | some j => value j

end Decode

end Bindery
