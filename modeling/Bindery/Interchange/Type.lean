import Bindery.Json.Basic
import Bindery.Render.Error
import Bindery.Text.Words
import Bindery.Tree.Encode

/-!
# Types of the interchange document

* **`NodeType`** — the types of a document. A text or bytes without a fixed size have
  their length in front; links name a type of the same program.
* **`NodeType.of`** — the type for a structural type. Only bytes and texts have a fixed
  size.
* **`NodeType.encode`** — the JSON form of a type.
-/

namespace Bindery.Interchange

mutual

/-- A type of a document. -/
inductive NodeType where
  | number (format : NumberFormat)
  | boolean
  | publicKey
  | string
  | bytes
  | fixedString (size : UInt64)
  | fixedBytes (size : UInt64)
  | option (item : NodeType)
  | array (item : NodeType) (count : Option UInt64)
  | struct (fields : List NodeField)
  | enum (variants : List NodeVariant)
  | link (name : String)

/-- A field of a document. -/
structure NodeField where
  name : String
  docs : List String
  type : NodeType

/-- A variant of a document; `fields` is absent for a variant without data. -/
structure NodeVariant where
  name : String
  discriminator : Option UInt64
  fields : Option (List NodeField)

end

namespace NodeType

mutual

/-- The type for a structural type. -/
def of (context : String) : TypeNode → Except RenderError NodeType
  | .number format => .ok (.number format)
  | .boolean => .ok .boolean
  | .publicKey => .ok .publicKey
  | .string => .ok .string
  | .bytes => .ok .bytes
  | .fixedSize .string size => .ok (.fixedString size)
  | .fixedSize .bytes size => .ok (.fixedBytes size)
  | .fixedSize inner _ => .error (.unsupported context (.fixedSize inner.kind))
  | .option item => do return .option (← of context item)
  | .array item count => do return .array (← of context item) count
  | .struct fields => do return .struct (← ofFields context fields)
  | .enum variants => do return .enum (← ofVariants context variants)
  | .link name => .ok (.link (Text.camelCase name))

/-- The fields for the fields of a struct. -/
def ofFields (context : String) : List StructField → Except RenderError (List NodeField)
  | [] => .ok []
  | ⟨name, type, docs⟩ :: fields => do
    let found ← of context type
    return ⟨Text.camelCase name, docs, found⟩ :: (← ofFields context fields)

/-- The variants for the variants of an enum. -/
def ofVariants (context : String) : List EnumVariant → Except RenderError (List NodeVariant)
  | [] => .ok []
  | ⟨name, discriminant, none⟩ :: variants => do
    return ⟨Text.camelCase name, discriminant, none⟩ :: (← ofVariants context variants)
  | ⟨name, discriminant, some fields⟩ :: variants => do
    let found ← ofFields context fields
    return ⟨Text.camelCase name, discriminant, some found⟩ :: (← ofVariants context variants)

end

end NodeType

-- ── JSON ─────────────────────────────────────────────────────────────────────────

open Json (word optionalMember docsMember)

/-- A node: its kind, and its members behind it. -/
def node (kind : String) (members : List (String × Json)) : Json :=
  .object (("kind", .string kind) :: members)

/-- A number type. Numbers are little-endian. -/
def numberNode (format : NumberFormat) : Json :=
  node "numberTypeNode" [("format", .string format.name), ("endian", .string "le")]

/-- A text type. -/
def textNode : Json := node "stringTypeNode" [("encoding", .string "utf8")]

/-- A type of bytes. -/
def bytesNode : Json := node "bytesTypeNode" []

/-- A type with its length in front, as four bytes. -/
def prefixedNode (inner : Json) : Json :=
  node "sizePrefixTypeNode" [("type", inner), ("prefix", numberNode .u32)]

/-- A type of a fixed size. -/
def fixedNode (inner : Json) (size : UInt64) : Json :=
  node "fixedSizeTypeNode" [("size", word size), ("type", inner)]

/-- The length of an array: fixed, or in front of it as four bytes. -/
def countNode : Option UInt64 → Json
  | some count => node "fixedCountNode" [("value", word count)]
  | none => node "prefixedCountNode" [("prefix", numberNode .u32)]

/-- A struct type of encoded fields. -/
def structNode (fields : List Json) : Json := node "structTypeNode" [("fields", .array fields)]

namespace NodeType

mutual

/-- The JSON form of a type. -/
def encode : NodeType → Json
  | .number format => numberNode format
  | .boolean => node "booleanTypeNode" [("size", numberNode .u8)]
  | .publicKey => node "publicKeyTypeNode" []
  | .string => prefixedNode textNode
  | .bytes => prefixedNode bytesNode
  | .fixedString size => fixedNode textNode size
  | .fixedBytes size => fixedNode bytesNode size
  | .option item => node "optionTypeNode" [("item", item.encode), ("prefix", numberNode .u8)]
  | .array item count => node "arrayTypeNode" [("item", item.encode), ("count", countNode count)]
  | .struct fields => structNode (encodeFields fields)
  | .enum variants =>
    node "enumTypeNode" [("variants", .array (encodeVariants variants)), ("size", numberNode .u8)]
  | .link name => node "definedTypeLinkNode" [("name", .string name)]

/-- The JSON forms of fields. -/
def encodeFields : List NodeField → List Json
  | [] => []
  | ⟨name, docs, type⟩ :: fields =>
    node "structFieldTypeNode" ([("name", .string name)] ++ docsMember docs
      ++ [("type", type.encode)]) :: encodeFields fields

/-- The JSON forms of variants. -/
def encodeVariants : List NodeVariant → List Json
  | [] => []
  | ⟨name, discriminator, none⟩ :: variants =>
    node "enumEmptyVariantTypeNode" ([("name", .string name)]
      ++ optionalMember "discriminator" word discriminator) :: encodeVariants variants
  | ⟨name, discriminator, some fields⟩ :: variants =>
    node "enumStructVariantTypeNode" ([("name", .string name)]
      ++ optionalMember "discriminator" word discriminator
      ++ [("struct", structNode (encodeFields fields))]) :: encodeVariants variants

end

end NodeType

end Bindery.Interchange
