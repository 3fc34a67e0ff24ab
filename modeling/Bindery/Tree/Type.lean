import Bindery.Word

/-!
# Structural types

The types of fields, arguments and definitions. The set of shapes is closed. Numbers are
little-endian on the wire.

* **`NumberFormat`** — the width and signedness of a number.
* **`NumberFormat.encodeUnsigned`** — the bytes of a value, if the format is an unsigned
  integer format that the value fits.
* **`TypeNode`** — a type; a `link` refers to a definition by name.
* **`TypeNode.links`** — the names of all links, in reading order.
* **`TypeNode.mapLinks`** — the same type with every link name looked up once.
* **`TypeNode.hasLink`** — whether some link satisfies a test.
-/

namespace Bindery

/-- The twelve number formats. -/
inductive NumberFormat where
  | u8 | u16 | u32 | u64 | u128 | i8 | i16 | i32 | i64 | i128 | f32 | f64
deriving DecidableEq

namespace NumberFormat

/-- Every format, in declaration order. -/
def all : List NumberFormat :=
  [.u8, .u16, .u32, .u64, .u128, .i8, .i16, .i32, .i64, .i128, .f32, .f64]

/-- The width in bytes. -/
def size : NumberFormat → Nat
  | .u8 | .i8 => 1
  | .u16 | .i16 => 2
  | .u32 | .i32 | .f32 => 4
  | .u64 | .i64 | .f64 => 8
  | .u128 | .i128 => 16

/-- The name of a format. -/
def name : NumberFormat → String
  | .u8 => "u8"
  | .u16 => "u16"
  | .u32 => "u32"
  | .u64 => "u64"
  | .u128 => "u128"
  | .i8 => "i8"
  | .i16 => "i16"
  | .i32 => "i32"
  | .i64 => "i64"
  | .i128 => "i128"
  | .f32 => "f32"
  | .f64 => "f64"

/-- The format of a name. -/
def ofName? (name : String) : Option NumberFormat :=
  all.find? (·.name = name)

/-- Whether a format is an unsigned integer format. -/
def isUnsigned : NumberFormat → Bool
  | .u8 | .u16 | .u32 | .u64 | .u128 => true
  | _ => false

/-- Whether values of a format need more than the 53 bits of a double. -/
def isWide : NumberFormat → Bool
  | .u64 | .u128 | .i64 | .i128 => true
  | _ => false

end NumberFormat

/-- The bytes of an unsigned value, or nothing when it does not fit. Only the unsigned
    integer formats can tag a discriminator. -/
def NumberFormat.encodeUnsigned (format : NumberFormat) (value : UInt64) :
    Option (List UInt8) :=
  if format.isUnsigned ∧ value.toNat < wordCount (8 * format.size) then
    some (littleEndian format.size value.toNat)
  else none

mutual

/-- A structural type. -/
inductive TypeNode where
  | number (format : NumberFormat)
  | boolean
  | publicKey
  | string
  | bytes
  | fixedSize (inner : TypeNode) (size : UInt64)
  | option (item : TypeNode)
  | array (item : TypeNode) (count : Option UInt64)
  | struct (fields : List StructField)
  | enum (variants : List EnumVariant)
  | link (name : String)

/-- A named field of a struct, of an account or of an enum variant. -/
structure StructField where
  name : String
  type : TypeNode
  docs : List String

/-- A variant of an enum; `fields` is absent for a variant without data. -/
structure EnumVariant where
  name : String
  discriminant : Option UInt64
  fields : Option (List StructField)

end

instance : Inhabited TypeNode := ⟨.boolean⟩

namespace TypeNode

/-- The name of a shape. -/
def kind : TypeNode → String
  | .number _ => "number"
  | .boolean => "boolean"
  | .publicKey => "publicKey"
  | .string => "string"
  | .bytes => "bytes"
  | .fixedSize _ _ => "fixedSize"
  | .option _ => "option"
  | .array _ _ => "array"
  | .struct _ => "struct"
  | .enum _ => "enum"
  | .link _ => "link"

/-- Whether a type is an option. -/
def isOption : TypeNode → Bool
  | .option _ => true
  | _ => false

/-- The type under an option, or the type itself. -/
def unwrapOption : TypeNode → TypeNode
  | .option item => item
  | other => other

mutual

/-- The names of all links of a type, in reading order. -/
def links : TypeNode → List String
  | .link name => [name]
  | .fixedSize inner _ => inner.links
  | .option item => item.links
  | .array item _ => item.links
  | .struct fields => fieldLinks fields
  | .enum variants => variantLinks variants
  | .number _ | .boolean | .publicKey | .string | .bytes => []

/-- The names of all links of some fields. -/
def fieldLinks : List StructField → List String
  | [] => []
  | ⟨_, type, _⟩ :: fields => type.links ++ fieldLinks fields

/-- The names of all links of some variants. -/
def variantLinks : List EnumVariant → List String
  | [] => []
  | ⟨_, _, none⟩ :: variants => variantLinks variants
  | ⟨_, _, some fields⟩ :: variants => fieldLinks fields ++ variantLinks variants

end

mutual

/-- Whether a link at any depth satisfies a test. -/
def hasLink (test : String → Bool) : TypeNode → Bool
  | .link name => test name
  | .fixedSize inner _ => inner.hasLink test
  | .option item => item.hasLink test
  | .array item _ => item.hasLink test
  | .struct fields => anyFieldLink test fields
  | .enum variants => anyVariantLink test variants
  | .number _ | .boolean | .publicKey | .string | .bytes => false

/-- Whether a link of some fields satisfies a test. -/
def anyFieldLink (test : String → Bool) : List StructField → Bool
  | [] => false
  | ⟨_, type, _⟩ :: fields => type.hasLink test || anyFieldLink test fields

/-- Whether a link of some variants satisfies a test. -/
def anyVariantLink (test : String → Bool) : List EnumVariant → Bool
  | [] => false
  | ⟨_, _, none⟩ :: variants => anyVariantLink test variants
  | ⟨_, _, some fields⟩ :: variants => anyFieldLink test fields || anyVariantLink test variants

end

/-- Whether a link of this name appears at any depth. -/
def linksTo (type : TypeNode) (name : String) : Bool := type.hasLink (· = name)

mutual

/-- The same type with every link name replaced by its image. Each link is looked up
    once, so that the function may exchange names. -/
def mapLinks (rename : String → String) : TypeNode → TypeNode
  | .link name => .link (rename name)
  | .fixedSize inner size => .fixedSize (inner.mapLinks rename) size
  | .option item => .option (item.mapLinks rename)
  | .array item count => .array (item.mapLinks rename) count
  | .struct fields => .struct (mapFieldLinks rename fields)
  | .enum variants => .enum (mapVariantLinks rename variants)
  | .number format => .number format
  | .boolean => .boolean
  | .publicKey => .publicKey
  | .string => .string
  | .bytes => .bytes

/-- The same fields with every link name replaced. -/
def mapFieldLinks (rename : String → String) : List StructField → List StructField
  | [] => []
  | ⟨name, type, docs⟩ :: fields =>
    ⟨name, type.mapLinks rename, docs⟩ :: mapFieldLinks rename fields

/-- The same variants with every link name replaced. -/
def mapVariantLinks (rename : String → String) : List EnumVariant → List EnumVariant
  | [] => []
  | ⟨name, discriminant, none⟩ :: variants =>
    ⟨name, discriminant, none⟩ :: mapVariantLinks rename variants
  | ⟨name, discriminant, some fields⟩ :: variants =>
    ⟨name, discriminant, some (mapFieldLinks rename fields)⟩ :: mapVariantLinks rename variants

end

-- ── equality ─────────────────────────────────────────────────────────────────────

mutual

/-- Whether two types are the same. -/
def same : TypeNode → TypeNode → Bool
  | .number f, .number g => f = g
  | .boolean, .boolean => true
  | .publicKey, .publicKey => true
  | .string, .string => true
  | .bytes, .bytes => true
  | .fixedSize a m, .fixedSize b n => a.same b && m = n
  | .option a, .option b => a.same b
  | .array a m, .array b n => a.same b && m = n
  | .struct fs, .struct gs => sameFields fs gs
  | .enum vs, .enum ws => sameVariants vs ws
  | .link m, .link n => m = n
  | _, _ => false

/-- Whether two lists of fields are the same. -/
def sameFields : List StructField → List StructField → Bool
  | [], [] => true
  | ⟨m, a, ds⟩ :: fs, ⟨n, b, es⟩ :: gs => m = n && a.same b && ds = es && sameFields fs gs
  | _, _ => false

/-- Whether two lists of variants are the same. -/
def sameVariants : List EnumVariant → List EnumVariant → Bool
  | [], [] => true
  | ⟨m, d, none⟩ :: vs, ⟨n, e, none⟩ :: ws => m = n && d = e && sameVariants vs ws
  | ⟨m, d, some fs⟩ :: vs, ⟨n, e, some gs⟩ :: ws =>
    m = n && d = e && sameFields fs gs && sameVariants vs ws
  | _, _ => false

end

mutual

/-- A type is the same as itself. -/
theorem same_self : (a : TypeNode) → a.same a = true
  | .number _ => by simp [same]
  | .boolean | .publicKey | .string | .bytes => rfl
  | .fixedSize a _ => by simp [same, same_self a]
  | .option a => by simp [same, same_self a]
  | .array a _ => by simp [same, same_self a]
  | .struct fs => by simp [same, sameFields_self fs]
  | .enum vs => by simp [same, sameVariants_self vs]
  | .link _ => by simp [same]

/-- A list of fields is the same as itself. -/
theorem sameFields_self : (fs : List StructField) → sameFields fs fs = true
  | [] => rfl
  | ⟨_, a, _⟩ :: fs => by simp [sameFields, same_self a, sameFields_self fs]

/-- A list of variants is the same as itself. -/
theorem sameVariants_self : (vs : List EnumVariant) → sameVariants vs vs = true
  | [] => rfl
  | ⟨_, _, none⟩ :: vs => by simp [sameVariants, sameVariants_self vs]
  | ⟨_, _, some fs⟩ :: vs => by simp [sameVariants, sameFields_self fs, sameVariants_self vs]

end

mutual

/-- Types that the test calls the same are equal. -/
theorem eq_of_same : (a b : TypeNode) → a.same b = true → a = b
  | .number _, b => by cases b <;> simp [same]
  | .boolean, b => by cases b <;> simp [same]
  | .publicKey, b => by cases b <;> simp [same]
  | .string, b => by cases b <;> simp [same]
  | .bytes, b => by cases b <;> simp [same]
  | .fixedSize a _, .fixedSize b _ => by
    simp only [same, Bool.and_eq_true, decide_eq_true_eq]
    rintro ⟨h, rfl⟩; rw [eq_of_same a b h]
  | .option a, .option b => by
    simp only [same]; intro h; rw [eq_of_same a b h]
  | .array a _, .array b _ => by
    simp only [same, Bool.and_eq_true, decide_eq_true_eq]
    rintro ⟨h, rfl⟩; rw [eq_of_same a b h]
  | .struct fs, .struct gs => by
    simp only [same]; intro h; rw [eq_of_sameFields fs gs h]
  | .enum vs, .enum ws => by
    simp only [same]; intro h; rw [eq_of_sameVariants vs ws h]
  | .link _, b => by cases b <;> simp [same]
  | .fixedSize _ _, .number _ | .fixedSize _ _, .boolean | .fixedSize _ _, .publicKey
  | .fixedSize _ _, .string | .fixedSize _ _, .bytes | .fixedSize _ _, .option _
  | .fixedSize _ _, .array _ _ | .fixedSize _ _, .struct _ | .fixedSize _ _, .enum _
  | .fixedSize _ _, .link _ => by simp [same]
  | .option _, .number _ | .option _, .boolean | .option _, .publicKey
  | .option _, .string | .option _, .bytes | .option _, .fixedSize _ _
  | .option _, .array _ _ | .option _, .struct _ | .option _, .enum _
  | .option _, .link _ => by simp [same]
  | .array _ _, .number _ | .array _ _, .boolean | .array _ _, .publicKey
  | .array _ _, .string | .array _ _, .bytes | .array _ _, .fixedSize _ _
  | .array _ _, .option _ | .array _ _, .struct _ | .array _ _, .enum _
  | .array _ _, .link _ => by simp [same]
  | .struct _, .number _ | .struct _, .boolean | .struct _, .publicKey
  | .struct _, .string | .struct _, .bytes | .struct _, .fixedSize _ _
  | .struct _, .option _ | .struct _, .array _ _ | .struct _, .enum _
  | .struct _, .link _ => by simp [same]
  | .enum _, .number _ | .enum _, .boolean | .enum _, .publicKey
  | .enum _, .string | .enum _, .bytes | .enum _, .fixedSize _ _
  | .enum _, .option _ | .enum _, .array _ _ | .enum _, .struct _
  | .enum _, .link _ => by simp [same]

/-- Fields that the test calls the same are equal. -/
theorem eq_of_sameFields : (fs gs : List StructField) → sameFields fs gs = true → fs = gs
  | [], [] => fun _ => rfl
  | [], _ :: _ | _ :: _, [] => by simp [sameFields]
  | ⟨_, a, _⟩ :: fs, ⟨_, b, _⟩ :: gs => by
    simp only [sameFields, Bool.and_eq_true, decide_eq_true_eq]
    rintro ⟨⟨⟨rfl, h⟩, rfl⟩, t⟩; rw [eq_of_same a b h, eq_of_sameFields fs gs t]

/-- Variants that the test calls the same are equal. -/
theorem eq_of_sameVariants :
    (vs ws : List EnumVariant) → sameVariants vs ws = true → vs = ws
  | [], [] => fun _ => rfl
  | [], _ :: _ | _ :: _, [] => by simp [sameVariants]
  | ⟨_, _, none⟩ :: vs, ⟨_, _, none⟩ :: ws => by
    simp only [sameVariants, Bool.and_eq_true, decide_eq_true_eq]
    rintro ⟨⟨rfl, rfl⟩, t⟩; rw [eq_of_sameVariants vs ws t]
  | ⟨_, _, some fs⟩ :: vs, ⟨_, _, some gs⟩ :: ws => by
    simp only [sameVariants, Bool.and_eq_true, decide_eq_true_eq]
    rintro ⟨⟨⟨rfl, rfl⟩, h⟩, t⟩; rw [eq_of_sameFields fs gs h, eq_of_sameVariants vs ws t]
  | ⟨_, _, none⟩ :: _, ⟨_, _, some _⟩ :: _ | ⟨_, _, some _⟩ :: _, ⟨_, _, none⟩ :: _ => by
    simp [sameVariants]

end

/-- The test decides equality. -/
theorem same_iff (a b : TypeNode) : a.same b = true ↔ a = b :=
  ⟨eq_of_same a b, fun h => h ▸ same_self a⟩

instance : DecidableEq TypeNode := fun a b => decidable_of_iff _ (same_iff a b)

end TypeNode

instance : DecidableEq StructField
  | ⟨m, a, ds⟩, ⟨n, b, es⟩ => decidable_of_iff (m = n ∧ a = b ∧ ds = es) (by simp)

instance : DecidableEq EnumVariant
  | ⟨m, d, fs⟩, ⟨n, e, gs⟩ => decidable_of_iff (m = n ∧ d = e ∧ fs = gs) (by simp)

/-- The tag a variant carries on the wire: its discriminant, otherwise its position. -/
def EnumVariant.tag (variant : EnumVariant) (position : Nat) : UInt64 :=
  variant.discriminant.getD (UInt64.ofNat position)

end Bindery
