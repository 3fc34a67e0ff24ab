import Bindery.Operation.Basic
import Bindery.Tree.Encode

/-!
# Operations as JSON

An operation is an object with its kind first and its own members behind it; a named
operation has its name in front.
-/

namespace Bindery

open Json (word)

/-- The members of an operation that renames. -/
def Rename.members (operation : Rename) : List (String × Json) :=
  [("renames", .object (operation.renames.entries.map fun (path, name) =>
    (path.text, .string name)))]

/-- The members of an operation that sets seeds. -/
def SetSeeds.members (operation : SetSeeds) : List (String × Json) :=
  [("account", .string operation.account.text),
    ("seeds", .array (operation.seeds.map Seed.encode))]

/-- The JSON form of a source of tags. -/
def DiscriminatorSource.encode : DiscriminatorSource → Json
  | .sequential start size =>
    .object [("kind", .string "sequential"), ("start", word start), ("size", size.encode)]
  | .explicit values size =>
    .object [("kind", .string "explicit"),
      ("values", .object (values.entries.map fun (name, value) => (name, word value))),
      ("size", size.encode)]
  | .enumVariants enumType size =>
    .object [("kind", .string "enumVariants"), ("enumType", .string enumType.text),
      ("size", size.encode)]
  | .sighash ns => .object [("kind", .string "sighash"), ("namespace", .string ns)]

/-- The members of an operation that assigns tags; `only` is left out when empty. -/
def AssignDiscriminators.members (operation : AssignDiscriminators) : List (String × Json) :=
  [("program", .string operation.program.text),
    ("siblings", .string operation.siblings.name)]
  ++ (match operation.only with
    | [] => []
    | names => [("only", Json.strings names)])
  ++ [("source", operation.source.encode), ("offset", word operation.offset)]

/-- The JSON form of a default rule. -/
def DefaultRule.encode (rule : DefaultRule) : Json :=
  .object [("target", .string rule.target.text), ("value", rule.value.encode)]

/-- The members of an operation that sets defaults. -/
def SetDefaults.members (operation : SetDefaults) : List (String × Json) :=
  [("defaults", .array (operation.rules.map DefaultRule.encode))]

/-- The kind of an operation and its members. -/
def Operation.members (operation : Operation) : List (String × Json) :=
  ("kind", .string operation.kind) ::
    match operation with
    | .rename op => op.members
    | .setSeeds op => op.members
    | .assignDiscriminators op => op.members
    | .setDefaults op => op.members

/-- The JSON form of a named operation. -/
def NamedOperation.encode (named : NamedOperation) : Json :=
  .object (("name", .string named.name) :: named.operation.members)

end Bindery
