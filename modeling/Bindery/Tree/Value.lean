import Bindery.Tree.Type

/-!
# Values attached to a tree

* **`Discriminator`** — a tag in wire or storage data that tells which variant a blob
  is; `Discriminator.encoded` is what it occupies there.
* **`DefaultValue`** — an expression for an instruction input. It narrows what a
  generated call builder requires and never changes the wire encoding.
* **`Seed`** — one part of an address recipe.
-/

namespace Bindery

/-- The value of a tag: a number of a format, or raw bytes. -/
inductive DiscriminatorValue where
  | number (format : NumberFormat) (value : UInt64)
  | bytes (bytes : List UInt8)
deriving DecidableEq

/-- A tag and the position of its first byte. -/
structure Discriminator where
  value : DiscriminatorValue
  offset : UInt64
deriving DecidableEq

namespace Discriminator

/-- The bytes of a tag on the wire. A number that its format cannot hold unsigned falls
    back to its lowest bytes, eight at most. Two tags collide when their offsets and
    these bytes are equal. -/
def encoded (d : Discriminator) : List UInt8 :=
  match d.value with
  | .number format value =>
    (format.encodeUnsigned value).getD (littleEndian (min format.size 8) value.toNat)
  | .bytes bytes => bytes

/-- The width of a tag, by its format or its bytes. -/
def size (d : Discriminator) : Nat :=
  match d.value with
  | .number format _ => format.size
  | .bytes bytes => bytes.length

/-- What two siblings must not share. -/
def key (d : Discriminator) : UInt64 × List UInt8 := (d.offset, d.encoded)

end Discriminator

/-- The two lower-case hexadecimal digits of a byte. -/
def hexByte (byte : UInt8) : List Char :=
  [Nat.digitChar (byte.toNat / 16), Nat.digitChar (byte.toNat % 16)]

/-- Bytes as lower-case hexadecimal digits. -/
def hexText (bytes : List UInt8) : String := String.ofList (bytes.flatMap hexByte)

/-- The text of a tag: its value and format or its bytes, and its offset if not zero. -/
def Discriminator.text (d : Discriminator) : String :=
  let shown := match d.value with
    | .number format value => toString value ++ format.name
    | .bytes bytes => "0x" ++ hexText bytes
  if d.offset > 0 then s!"{shown}@{d.offset}" else shown

/-- An account or argument of the enclosing instruction. -/
inductive Input where
  | account (name : String)
  | argument (name : String)
deriving DecidableEq

namespace Input

/-- The name of an input. -/
def name : Input → String
  | .account name => name
  | .argument name => name

/-- The text of an input in messages. -/
def text : Input → String
  | .account name => s!"account `{name}`"
  | .argument name => s!"argument `{name}`"

end Input

/-- A constant that can stand for an input. -/
inductive Literal where
  | number (value : Int64)
  | boolean (value : Bool)
  | string (value : String)
  | publicKey (address : String)
  | bytes (value : List UInt8)
deriving DecidableEq

/-- The input that a variable seed of a recipe is taken from. -/
structure SeedBinding where
  seed : String
  value : Input
deriving DecidableEq

/-- An expression for an instruction input that the caller leaves out. -/
inductive DefaultValue where
  | pda (account : String) (seeds : List SeedBinding)
  | account (name : String)
  | argument (name : String)
  | absent
  | programId
  | literal (value : Literal)
deriving DecidableEq

/-- The inputs that the seeds of a derived address are taken from. -/
def DefaultValue.seedInputs : DefaultValue → List Input
  | .pda _ seeds => seeds.map (·.value)
  | _ => []

/-- Every input that an expression reads. -/
def DefaultValue.reads : DefaultValue → List Input
  | .account name => [.account name]
  | .argument name => [.argument name]
  | other => other.seedInputs

/-- A seed that is known when the recipe is written; the program id is known only to
    the generated client. -/
inductive ConstantSeed where
  | utf8 (text : String)
  | bytes (bytes : List UInt8)
  | programId
deriving DecidableEq

/-- The raw bytes of a constant seed, unless it is the program id. -/
def ConstantSeed.bytes? : ConstantSeed → Option (List UInt8)
  | .utf8 text => some text.toUTF8.toList
  | .bytes raw => some raw
  | .programId => none

/-- A seed that an instruction input of this name supplies. -/
structure VariableSeed where
  name : String
  type : TypeNode
  docs : List String
deriving DecidableEq

/-- One seed of an address recipe. -/
inductive Seed where
  | constant (value : ConstantSeed)
  | variable (seed : VariableSeed)
deriving DecidableEq

/-- The variable seed, if a seed is one. -/
def Seed.variable? : Seed → Option VariableSeed
  | .constant _ => none
  | .variable seed => some seed

end Bindery
