import Bindery.Package.Source
import Bindery.Render.Error
import Bindery.Text.Words
import Bindery.Tree.Basic

/-!
# Types and codecs of TypeScript source

* **`PackageType`** — the types that generated source uses; **`Codec`** — how their values
  are read and written. A link imports both from a `types` directory.
* **`PackageType.of`**, **`Codec.of`** — the type and the codec for a structural type.
  Structs and enums have to be declared, and only bytes and texts have a fixed size.
* **`PackageType.source`**, **`Codec.source`** — the source of each.
-/

namespace Bindery

namespace Package

/-- Where the modules of a program are found, and how many directories a module is below
    the output directory. -/
structure Scope where
  nested : Bool
  program : Option Program

/-- The number of directories from a module up to the output directory. -/
def Scope.depth (scope : Scope) : Nat :=
  if scope.nested && scope.program.isSome then 2 else 1

/-- A declared type as it is seen from a module: how many directories up the `types`
    directory is, and the name of the type. -/
structure TypeLink where
  up : Nat
  name : String
deriving DecidableEq

/-- The type that a link leads to. In a tree of several programs only the types that a
    program defines are found in its own directory. -/
def Scope.link (scope : Scope) (name : String) : TypeLink :=
  let isLocal := match scope.program with
    | some program => !scope.nested || program.defines name
    | none => false
  ⟨if isLocal then 1 else scope.depth, Text.upperCamelCase name⟩

/-- The module that a link is imported from. -/
def TypeLink.module (link : TypeLink) : String :=
  String.join (List.replicate link.up "../") ++ "types"

end Package

open Package (Scope TypeLink Source kit)

/-- A type of generated source. -/
inductive PackageType where
  | bigint
  | number
  | boolean
  | address
  | string
  | bytes
  | option (item : PackageType)
  | array (item : PackageType)
  | link (target : TypeLink)
deriving DecidableEq

namespace PackageType

/-- The type for a structural type of a node. -/
def of (scope : Scope) (context : String) : TypeNode → Except RenderError PackageType
  | .number format => .ok (if format.isWide then .bigint else .number)
  | .boolean => .ok .boolean
  | .publicKey => .ok .address
  | .string => .ok .string
  | .bytes => .ok .bytes
  | .fixedSize .string _ => .ok .string
  | .fixedSize .bytes _ => .ok .bytes
  | .fixedSize inner _ => .error (.unsupported context (.fixedSize inner.kind))
  | .option item => do return .option (← of scope context item)
  | .array item _ => do return .array (← of scope context item)
  | .struct fields => .error (.unsupported context (.nested (TypeNode.struct fields).kind))
  | .enum variants => .error (.unsupported context (.nested (TypeNode.enum variants).kind))
  | .link name => .ok (.link (scope.link name))

/-- The source of a type. -/
def source : PackageType → Source
  | .bigint => "bigint"
  | .number => "number"
  | .boolean => "boolean"
  | .address => kit "Address"
  | .string => "string"
  | .bytes => kit "ReadonlyUint8Array"
  | .option item => kit "Option" ++ "<" ++ item.source ++ ">"
  | .array item => "Array<" ++ item.source ++ ">"
  | .link target => Source.needing target.module ("type " ++ target.name) target.name

end PackageType

/-- How values of a type are read and written. -/
inductive Codec where
  | number (format : NumberFormat)
  | boolean
  | address
  | string
  | bytes
  | fixedString (size : UInt64)
  | fixedBytes (size : UInt64)
  | option (item : Codec)
  | array (item : Codec) (count : Option UInt64)
  | link (target : TypeLink)
deriving DecidableEq

namespace Codec

/-- The codec for a structural type of a node. -/
def of (scope : Scope) (context : String) : TypeNode → Except RenderError Codec
  | .number format => .ok (.number format)
  | .boolean => .ok .boolean
  | .publicKey => .ok .address
  | .string => .ok .string
  | .bytes => .ok .bytes
  | .fixedSize .string size => .ok (.fixedString size)
  | .fixedSize .bytes size => .ok (.fixedBytes size)
  | .fixedSize inner _ => .error (.unsupported context (.fixedSize inner.kind))
  | .option item => do return .option (← of scope context item)
  | .array item count => do return .array (← of scope context item) count
  | .struct fields => .error (.unsupported context (.nested (TypeNode.struct fields).kind))
  | .enum variants => .error (.unsupported context (.nested (TypeNode.enum variants).kind))
  | .link name => .ok (.link (scope.link name))

/-- A codec with its length in front, as four bytes. -/
def prefixed (name : String) : Source :=
  kit "addCodecSizePrefix" ++ "(" ++ kit name ++ "(), " ++ kit "getU32Codec" ++ "())"

/-- A codec of a fixed length. -/
def fixed (name : String) (size : UInt64) : Source :=
  kit "fixCodecSize" ++ "(" ++ kit name ++ "(), " ++ toString size ++ ")"

/-- The name of the function that makes the codec of a declared type. -/
def functionName (type : String) : String := "get" ++ type ++ "Codec"

/-- The source of a codec. -/
def source : Codec → Source
  | .number format => kit (functionName (Text.upperCamelCase format.name)) ++ "()"
  | .boolean => kit "getBooleanCodec" ++ "()"
  | .address => kit "getAddressCodec" ++ "()"
  | .string => prefixed "getUtf8Codec"
  | .bytes => prefixed "getBytesCodec"
  | .fixedString size => fixed "getUtf8Codec" size
  | .fixedBytes size => fixed "getBytesCodec" size
  | .option item => kit "getOptionCodec" ++ "(" ++ item.source ++ ")"
  | .array item none => kit "getArrayCodec" ++ "(" ++ item.source ++ ")"
  | .array item (some count) =>
    kit "getArrayCodec" ++ "(" ++ item.source ++ ", \x7b size: " ++ toString count ++ " \x7d)"
  | .link target => Source.imported target.module (functionName target.name) ++ "()"

end Codec

end Bindery
