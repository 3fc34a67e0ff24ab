import Bindery.NodePath
import Bindery.Tree.Value

/-!
# Why an operation does not apply

* **`TransformError`** — the causes, with the nodes they are about;
  **`TransformError.message`** words them.
-/

namespace Bindery

/-- The two collections of a program whose members carry tags. -/
inductive SiblingSet where
  | accounts | instructions
deriving DecidableEq

/-- The name of a collection. -/
def SiblingSet.name : SiblingSet → String
  | .accounts => "accounts"
  | .instructions => "instructions"

/-- The path of a member of a collection. -/
def SiblingSet.path (set : SiblingSet) (program name : String) : NodePath :=
  match set with
  | .accounts => .account program name
  | .instructions => .instruction program name

/-- A collection of a program that a path names. -/
structure SiblingScope where
  program : NodePath
  set : SiblingSet
deriving DecidableEq

/-- The text of a collection. -/
def SiblingScope.text (scope : SiblingScope) : String :=
  s!"{scope.program.text}/{scope.set.name}"

/-- What a path was expected to select. -/
inductive Expectation where
  | kind (kind : NodeKind)
  | validName
  | instructionInput
  | enumType
deriving DecidableEq

/-- An expectation as it is named in messages. -/
def Expectation.describe : Expectation → String
  | .kind node => node.describe
  | .validName => "a non-empty name without `/`"
  | .instructionInput => "an instruction account or argument"
  | .enumType => "an enum type"

/-- The most seeds an address recipe holds. -/
def maxSeeds : Nat := 16

/-- The longest constant seed, in bytes. -/
def maxSeedLength : Nat := 32

/-- What is wrong with a list of seeds. -/
inductive SeedFault where
  | empty
  | tooMany (count : Nat)
  | tooLong (length : Nat)
  | unnamed
  | repeated (name : String)
deriving DecidableEq

/-- The wording of a seed fault. -/
def SeedFault.message : SeedFault → String
  | .empty => "the seed list is empty"
  | .tooMany count => s!"{count} seeds exceed the limit of {maxSeeds}"
  | .tooLong length => s!"a constant seed of {length} bytes exceeds {maxSeedLength} bytes"
  | .unnamed => "a variable seed has no name"
  | .repeated name => s!"variable seed `{name}` is declared twice"

/-- Why a source has no tag for a sibling. -/
inductive SourceFault where
  | overflow
  | unlisted
  | noVariant (enumType : NodePath)
  | tooLarge (value : UInt64) (format : NumberFormat)
deriving DecidableEq

/-- The wording of a source fault. -/
def SourceFault.message : SourceFault → String
  | .overflow => "the sequence overflows u64"
  | .unlisted => "no explicit value is listed"
  | .noVariant enumType => s!"`{enumType.text}` has no matching variant"
  | .tooLarge value format => s!"{value} does not fit in {format.name}"

/-- What a default value refers to without finding it. -/
inductive MissingReference where
  | input (input : Input)
  | account (name : String)
  | recipe (account : String)
  | seed (seed account : String)
  | seedInput (seed : String)
deriving DecidableEq

/-- The wording of a missing reference. -/
def MissingReference.text : MissingReference → String
  | .input missing => missing.text
  | .account name => s!"account `{name}`"
  | .recipe owner => s!"address recipe of account `{owner}`"
  | .seed name owner => s!"seed `{name}` of account `{owner}`"
  | .seedInput name => s!"an input for seed `{name}`"

/-- Why a default value does not suit its target. -/
inductive Incompatibility where
  | absentNeedsOption
  | programIdNeedsAddress
  | literalMismatch
  | readsItself
  | accountNeedsAddress
  | readsOptional
  | pdaNeedsAddress
  | seededByItself
  | seededByOptional
deriving DecidableEq

/-- The wording of an incompatibility. -/
def Incompatibility.message : Incompatibility → String
  | .absentNeedsOption => "`absent` needs an optional account or an `option` argument"
  | .programIdNeedsAddress => "`programId` needs an address-typed target"
  | .literalMismatch => "the literal does not match the target type"
  | .readsItself => "a default cannot reference its own target"
  | .accountNeedsAddress => "an account reference needs an address-typed target"
  | .readsOptional => "an account reference cannot read an optional account"
  | .pdaNeedsAddress => "a derived address needs an address-typed target"
  | .seededByItself => "a derived address cannot be seeded by its own target"
  | .seededByOptional => "a derived address cannot be seeded by an optional account"

/-- Why an operation does not apply to a tree. -/
inductive TransformError where
  | unresolved (path : NodePath)
  | invalidSelector (path : NodePath) (expected : Expectation)
  | duplicateName (scope : Option NodePath) (name : String)
  | invalidSeeds (account : NodePath) (fault : SeedFault)
  | discriminatorCollision (scope : SiblingScope) (first second : String) (tag : Discriminator)
  | discriminatorMissing (scope : SiblingScope) (name : String) (fault : SourceFault)
  | defaultMissing (target : NodePath) (reference : MissingReference)
  | defaultIncompatible (target : NodePath) (reason : Incompatibility)
deriving DecidableEq

/-- The wording of a transform error. -/
def TransformError.message : TransformError → String
  | .unresolved path => s!"unresolved reference `{path.text}`"
  | .invalidSelector path expected => s!"`{path.text}` does not select {expected.describe}"
  | .duplicateName scope name =>
    let scope := (scope.map NodePath.text).getD "root"
    s!"cannot name a node `{name}` in `{scope}`: the name is already taken"
  | .invalidSeeds account fault => s!"invalid seeds for `{account.text}`: {fault.message}"
  | .discriminatorCollision scope first second tag =>
    s!"discriminator collision in `{scope.text}`: `{first}` and `{second}` both resolve to {tag.text}"
  | .discriminatorMissing scope name fault =>
    s!"no discriminator for `{name}` in `{scope.text}`: {fault.message}"
  | .defaultMissing target reference =>
    s!"default value for `{target.text}` references missing {reference.text}"
  | .defaultIncompatible target reason =>
    s!"default value for `{target.text}` is not applicable: {reason.message}"

end Bindery
