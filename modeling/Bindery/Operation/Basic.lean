import Bindery.NodePath
import Bindery.Operation.Error
import Bindery.Tree.Basic

/-!
# Update operations

The closed vocabulary of operations that change a tree, as data.

* **`Rename`** — give nodes new names, all at once.
* **`SetSeeds`** — attach an address recipe to an account.
* **`AssignDiscriminators`** — give the accounts or instructions of a program their tags.
* **`SetDefaults`** — attach default values to instruction inputs.
-/

namespace Bindery

/-- New names for nodes. Every path is resolved in the tree the operation receives, so
    the renames of one operation apply together. -/
structure Rename where
  renames : SortedMap NodePath String
deriving DecidableEq

/-- An address recipe for one account, in place of any recipe it has. -/
structure SetSeeds where
  account : NodePath
  seeds : List Seed
deriving DecidableEq

/-- Where tags come from. -/
inductive DiscriminatorSource where
  | sequential (start : UInt64) (size : NumberFormat)
  | explicit (values : SortedMap String UInt64) (size : NumberFormat)
  | enumVariants (enumType : NodePath) (size : NumberFormat)
  | sighash (namespaceName : String)
deriving DecidableEq

/-- Tags for the members of a collection, or only for those named in `only` if that names
    any. -/
structure AssignDiscriminators where
  program : NodePath
  siblings : SiblingSet
  only : List String
  source : DiscriminatorSource
  offset : UInt64
deriving DecidableEq

/-- The collection that receives tags. -/
def AssignDiscriminators.scope (operation : AssignDiscriminators) : SiblingScope :=
  ⟨operation.program, operation.siblings⟩

/-- A default value for an instruction account or argument. -/
structure DefaultRule where
  target : NodePath
  value : DefaultValue
deriving DecidableEq

/-- Default values; a later rule for the same target replaces an earlier one. -/
structure SetDefaults where
  rules : List DefaultRule
deriving DecidableEq

/-- An update operation. -/
inductive Operation where
  | rename (operation : Rename)
  | setSeeds (operation : SetSeeds)
  | assignDiscriminators (operation : AssignDiscriminators)
  | setDefaults (operation : SetDefaults)
deriving DecidableEq

/-- The kind of an operation, as configurations name it. -/
def Operation.kind : Operation → String
  | .rename _ => "rename"
  | .setSeeds _ => "setAccountSeeds"
  | .assignDiscriminators _ => "assignDiscriminators"
  | .setDefaults _ => "setDefaultValues"

/-- An operation and the name it is reported under. -/
structure NamedOperation where
  name : String
  operation : Operation
deriving DecidableEq

end Bindery
