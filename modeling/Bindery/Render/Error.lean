import Bindery.FileSystem

/-!
# Why a target cannot be rendered

* **`Unsupported`** — what a target has no form for; **`Unsupported.kind`** names the kind
  of thing it is.
* **`RenderError`** — the causes; **`RenderError.message`** words them.
-/

namespace Bindery

/-- What a target has no form for. -/
inductive Unsupported where
  | noPrograms
  | fixedSize (inner : String)
  | nested (kind : String)
  | discriminantBesideData
  | wideDiscriminant (variant : String)
  | seedType (kind : String)
  | missingAccount (account : String)
  | unboundSeed (seed : String)
  | circularDefaults (inputs : List String)
deriving DecidableEq

namespace Unsupported

/-- The kind of thing that has no form. -/
def kind : Unsupported → String
  | .noPrograms => "root"
  | .fixedSize _ => "fixedSize"
  | .nested kind => kind
  | .discriminantBesideData => "enum"
  | .wideDiscriminant _ => "enum"
  | .seedType kind => kind
  | .missingAccount _ => "pda"
  | .unboundSeed _ => "pda"
  | .circularDefaults _ => "defaultValue"

/-- Why it has none. -/
def reason : Unsupported → String
  | .noPrograms => "the tree has no programs"
  | .fixedSize inner => s!"only bytes and strings can have a fixed size, found `{inner}`"
  | .nested _ => "nested structs and enums must be declared as defined types"
  | .discriminantBesideData =>
    "explicit discriminants are only supported on enums without data variants"
  | .wideDiscriminant variant => s!"the discriminant of `{variant}` does not fit in a u8"
  | .seedType _ => "seeds must be addresses, strings, bytes, numbers or booleans"
  | .missingAccount account => s!"account `{account}` does not exist"
  | .unboundSeed seed => s!"seed `{seed}` is not bound"
  | .circularDefaults inputs =>
    "the defaults of " ++ ", ".intercalate inputs ++ " depend on each other"

end Unsupported

/-- What is wrong with a renderer option. -/
inductive OptionFault where
  | unknown (known : List String)
  | notAString
  | notAListOfStrings
  | notAPath
deriving DecidableEq

/-- The wording of an option fault. -/
def OptionFault.message : OptionFault → String
  | .unknown [] => "this renderer takes no options"
  | .unknown known =>
    "unknown option, expected one of " ++ ", ".intercalate (known.map fun k => s!"`{k}`")
  | .notAString => "expected a string"
  | .notAListOfStrings => "expected a list of strings"
  | .notAPath => "expected a path"

/-- Why a target cannot be rendered or written. -/
inductive RenderError where
  | unwritable (path : String) (fault : FileFault)
  | unlisted (path : String) (fault : FileFault)
  | unsupported (context : String) (cause : Unsupported)
  | unformattable (path : String)
  | noLayout (path : String)
  | rejectedNode (context : String)
  | invalidOption (option : String) (fault : OptionFault)
  | commandNotRun (command : String) (fault : FileFault)
  | commandFailed (command : String) (status : Option Nat) (output : String)
  | unknownTarget (target : String)
  | invalidIdentifier (name : String)
deriving DecidableEq

/-- The wording of a render error. -/
def RenderError.message : RenderError → String
  | .unwritable path fault => s!"failed to write `{path}`: {fault.message}"
  | .unlisted path fault =>
    s!"failed to read `{path}`: IO error for operation on {path}: {fault.message}"
  | .unsupported context cause =>
    s!"unsupported type `{cause.kind}` at `{context}`: {cause.reason}"
  | .unformattable path =>
    s!"failed to format generated `{path}`: comparison operators cannot be chained"
  | .noLayout path => s!"generated `{path}` holds a part without a layout"
  | .rejectedNode context => s!"failed to serialize `{context}`: the node is not accepted"
  | .invalidOption option fault => s!"invalid renderer option `{option}`: {fault.message}"
  | .commandNotRun command fault => s!"failed to run command `{command}`: {fault.message}"
  | .commandFailed command status output =>
    let number := match status with
      | some code => toString code
      | none => "-1"
    let details := if output = "" then "" else ": " ++ output
    s!"command `{command}` failed with status {number}{details}"
  | .unknownTarget target => s!"no renderer is registered for target `{target}`"
  | .invalidIdentifier name => s!"`{name}` is not an identifier"

end Bindery
