import Bindery.Json.Decode
import Bindery.Json.Text
import Bindery.Tree.Decode

/-!
# Interface descriptions

An interface description as its document states it, before any name is resolved. Older
documents put the layout of an account beside its name, newer ones put it under `types`;
a tag is either a number of a named type or a list of raw bytes.

* **`TypeExpr`** — a type expression.
* **`Layout`** — the fields of a struct or the variants of an enum.
* **`Description`** — one document.
* **`TypeExpr.decode`** — a type expression is a text or an object with one telling key;
  the forms are tried in a fixed order, and a value that fits none has one fault.
* **`Description.decode`** — a whole document, from a draft of its text.
-/

namespace Bindery

/-- A type expression of a document. -/
inductive TypeExpr where
  | primitive (name : String)
  | defined (name : String)
  | option (item : TypeExpr)
  | vec (item : TypeExpr)
  | array (item : TypeExpr) (size : UInt64)
deriving DecidableEq

namespace Description

/-- A named field. -/
structure Field where
  name : String
  type : TypeExpr
  docs : List String
deriving DecidableEq

/-- The data of an enum variant: named fields, or types by position. -/
inductive Payload where
  | named (fields : List Field)
  | tuple (types : List TypeExpr)
deriving DecidableEq

/-- A variant of an enum. -/
structure Variant where
  name : String
  payload : Option Payload
  discriminant : Option UInt64
deriving DecidableEq

/-- The layout of a definition. -/
inductive Layout where
  | struct (fields : List Field)
  | enum (variants : List Variant)
deriving DecidableEq

/-- A definition under `types`. -/
structure TypeDef where
  name : String
  docs : List String
  layout : Layout
deriving DecidableEq

/-- An account; without a layout of its own it has that of the definition of its name. -/
structure AccountDef where
  name : String
  docs : List String
  layout : Option Layout
  discriminator : Option (List UInt8)
deriving DecidableEq

/-- A tag as a number of a named type. -/
structure Discriminant where
  type : String
  value : UInt64
deriving DecidableEq

/-- An account of an instruction. A group has accounts of its own; groups are known so
    that they can be refused. -/
structure AccountItem where
  name : String
  isWritable : Bool
  isSigner : Bool
  isOptional : Bool
  docs : List String
  remark : Option String
  isGroup : Bool
deriving DecidableEq

/-- An instruction. -/
structure InstructionDef where
  name : String
  docs : List String
  accounts : List AccountItem
  arguments : List Field
  discriminant : Option Discriminant
  discriminator : Option (List UInt8)
deriving DecidableEq

/-- An error code. -/
structure ErrorDef where
  code : UInt32
  name : String
  message : Option String
deriving DecidableEq

/-- What a document may state at its top or under `metadata`. -/
structure Metadata where
  name : Option String
  version : Option String
  address : Option String
deriving DecidableEq

end Description

/-- One interface description. -/
structure Description where
  name : Option String
  version : Option String
  address : Option String
  metadata : Description.Metadata
  docs : List String
  instructions : List Description.InstructionDef
  accounts : List Description.AccountDef
  types : List Description.TypeDef
  errors : List Description.ErrorDef
deriving DecidableEq

open Json (Readable)
open Decode

variable {τ : Type} [Readable τ]

namespace TypeExpr

/-- The name of a definition: a text, or an object that holds it. -/
def definedName (j : Json) : Except Fault String :=
  match j with
  | .string name => .ok name
  | _ => objectOnly (.required "name" str) j

/-- The first result of several attempts. -/
def firstOf {α : Type} (union : String) : List (Except Fault α) → Except Fault α
  | [] => .error (.noAlternative union)
  | .ok a :: _ => .ok a
  | .error _ :: rest => firstOf union rest

/-- Decode a type expression that is nested at most `fuel` deep. -/
def decodeWithin : (fuel : Nat) → Json → Except Fault TypeExpr
  | 0, _ => .error .malformed
  | fuel + 1, j =>
    let inner := decodeWithin fuel
    let sized : Json → Except Fault TypeExpr
      | .array [item, size] => do return .array (← inner item) (← word64 size)
      | _ => .error .invalidType
    match j with
    | .string name => .ok (.primitive name)
    | .object _ =>
      firstOf "IdlType" [
        objectOnly (.defined <$> .required "defined" definedName) j,
        objectOnly (.option <$> .required "option" inner) j,
        objectOnly (.vec <$> .required "vec" inner) j,
        objectOnly (.required "array" sized) j]
    | _ => .error (.noAlternative "IdlType")

/-- Decode a type expression. -/
def decode (j : Json) : Except Fault TypeExpr := decodeWithin (j.depth + 1) j

end TypeExpr

namespace Description

/-- Decode a field. Its type is read to the end before its form is looked for. -/
def Field.decode (t : τ) : Except Fault Field :=
  record (Field.mk <$> .required "name" str
    <*> .required "type" (fun t => do TypeExpr.decode (← Readable.whole t))
    <*> docsField) t

/-- Decode the data of a variant. -/
def Payload.decode (j : Json) : Except Fault Payload :=
  TypeExpr.firstOf "IdlEnumFields" [
    (listOf Field.decode j).map .named,
    (listOf TypeExpr.decode j).map .tuple]

/-- Decode a variant. -/
def Variant.decode : Json → Except Fault Variant :=
  record (Variant.mk <$> .required "name" str
    <*> .optional "fields" (nullable Payload.decode) none
    <*> .optional "discriminant" (nullable (word64)) none)

/-- Decode a layout. -/
def Layout.decode (t : τ) : Except Fault Layout := do
  let (kind, body) ← tagged .fresh "kind" ["struct", "enum"] t
  match kind with
  | "struct" => body.decode (.struct <$> .optional "fields" (listOf Field.decode) [])
  | _ => body.decode (.enum <$> .required "variants" (listOf Variant.decode))

/-- Decode a definition. -/
def TypeDef.decode : τ → Except Fault TypeDef :=
  record (TypeDef.mk <$> .required "name" str <*> docsField <*> .required "type" Layout.decode)

/-- Decode an account. -/
def AccountDef.decode : τ → Except Fault AccountDef :=
  record (AccountDef.mk <$> .required "name" str <*> docsField
    <*> .optional "type" (nullable Layout.decode) none
    <*> .optional "discriminator" (nullable (listOf byte)) none)

/-- Decode a numeric tag. -/
def Discriminant.decode : τ → Except Fault Discriminant :=
  record (Discriminant.mk <$> .required "type" str <*> .required "value" (word64))

/-- Decode an account of an instruction. Each flag has a long and a short name. -/
def AccountItem.decode : τ → Except Fault AccountItem :=
  record (AccountItem.mk <$> .required "name" str
    <*> .ofKeys "isMut" ["writable"] bool (some false)
    <*> .ofKeys "isSigner" ["signer"] bool (some false)
    <*> .ofKeys "isOptional" ["optional"] bool (some false)
    <*> docsField
    <*> .optional "desc" (nullable str) none
    <*> .optional "accounts"
      (fun t => (nullable (listOf Readable.whole) t).map Option.isSome) false)

/-- Decode an instruction. -/
def InstructionDef.decode : τ → Except Fault InstructionDef :=
  record (InstructionDef.mk <$> .required "name" str <*> docsField
    <*> .optional "accounts" (listOf AccountItem.decode) []
    <*> .optional "args" (listOf Field.decode) []
    <*> .optional "discriminant" (nullable Discriminant.decode) none
    <*> .optional "discriminator" (nullable (listOf byte)) none)

/-- Decode an error code. -/
def ErrorDef.decode : τ → Except Fault ErrorDef :=
  record (ErrorDef.mk <$> .required "code" (word32) <*> .required "name" str
    <*> .optional "msg" (nullable str) none)

/-- Decode the metadata. The origin of a document is read and not kept. -/
def Metadata.decode : τ → Except Fault Metadata :=
  record ((fun name version address (_ : Option String) => Metadata.mk name version address)
    <$> .optional "name" (nullable str) none
    <*> .optional "version" (nullable str) none
    <*> .optional "address" (nullable str) none
    <*> .optional "origin" (nullable str) none)

/-- Decode a document. -/
def decode : τ → Except Fault Description :=
  record (Description.mk <$> .optional "name" (nullable str) none
    <*> .optional "version" (nullable str) none
    <*> .optional "address" (nullable str) none
    <*> .optional "metadata" Metadata.decode ⟨none, none, none⟩
    <*> docsField
    <*> .optional "instructions" (listOf InstructionDef.decode) []
    <*> .optional "accounts" (listOf AccountDef.decode) []
    <*> .optional "types" (listOf TypeDef.decode) []
    <*> .optional "errors" (listOf ErrorDef.decode) [])

end Description

end Bindery
