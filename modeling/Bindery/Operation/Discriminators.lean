import Bindery.Index
import Bindery.Operation.Basic
import Bindery.Sha256
import Bindery.Text.Words

/-!
# Assigning tags

* **`sighash`** — the first eight bytes of the hash of a namespace and a name.
* **`AssignDiscriminators.valueFor`** — the tag that a source has for a sibling.
* **`AssignDiscriminators.assigned`** — the tags of the selected siblings.
* **`Sibling.collision?`** — two siblings that would share a tag; those that are not
  selected keep theirs and take part.
* **`AssignDiscriminators.apply`** — the tree with its new tags.
-/

namespace Bindery

/-- The width of a hashed tag, in bytes. -/
def sighashLength : Nat := 8

/-- The tag that hashing gives a name. Names of accounts keep the casing of types, all
    others are hashed in snake case. -/
def sighash (namespaceName name : String) : List UInt8 :=
  let cased := if namespaceName = "account" then Text.upperCamelCase name
    else Text.snakeCase name
  (Sha256.digest s!"{namespaceName}:{cased}".toUTF8.toList).take sighashLength

/-- A member of a collection and the tag it carries. -/
structure Sibling where
  name : String
  tag : Option Discriminator
deriving DecidableEq

/-- The members of a collection, in declaration order. -/
def Program.siblings (program : Program) : SiblingSet → List Sibling
  | .accounts => program.accounts.map fun a => ⟨a.name, a.discriminator⟩
  | .instructions => program.instructions.map fun i => ⟨i.name, i.discriminator⟩

/-- The variants of the enum that a path selects. -/
def Index.enumVariants (index : Index) (path : NodePath) :
    Except TransformError (List EnumVariant) := do
  let (defined, _) ← index.definedType path
  match defined.type with
  | .enum variants => return variants
  | _ => throw (.invalidSelector path .enumType)

namespace AssignDiscriminators

/-- Whether an operation gives a sibling a tag. -/
def selects (operation : AssignDiscriminators) (name : String) : Bool :=
  operation.only.isEmpty || operation.only.contains name

/-- The number that a source has for a sibling. `ordinal` is the rank of the sibling among
    those selected, `variants` the variants of the source's enum. -/
def numberFor (source : DiscriminatorSource) (variants : List EnumVariant) (name : String)
    (ordinal : Nat) : Except SourceFault (NumberFormat × UInt64) :=
  match source with
  | .sequential start size =>
    if start.toNat + ordinal < wordCount 64 then .ok (size, start + UInt64.ofNat ordinal)
    else .error .overflow
  | .explicit values size =>
    match values.get? name with
    | some value => .ok (size, value)
    | none => .error .unlisted
  | .enumVariants enumType size =>
    let wanted := Text.snakeCase name
    match variants.zipIdx.find? fun (variant, _) => Text.snakeCase variant.name = wanted with
    | some (variant, position) => .ok (size, variant.tag position)
    | none => .error (.noVariant enumType)
  | .sighash _ => .error .unlisted

/-- The tag that an operation has for a sibling. A number must fit its format. -/
def valueFor (operation : AssignDiscriminators) (variants : List EnumVariant) (name : String)
    (ordinal : Nat) : Except SourceFault Discriminator :=
  match operation.source with
  | .sighash ns => .ok ⟨.bytes (sighash ns name), operation.offset⟩
  | source => do
    let (size, value) ← numberFor source variants name ordinal
    if (size.encodeUnsigned value).isSome then return ⟨.number size value, operation.offset⟩
    else throw (.tooLarge value size)

/-- The names that receive tags and their tags, in declaration order. -/
def assigned (operation : AssignDiscriminators) (variants : List EnumVariant)
    (siblings : List Sibling) : Except TransformError (List (String × Discriminator)) :=
  let selected := siblings.filter fun s => operation.selects s.name
  selected.zipIdx.mapM fun (sibling, ordinal) =>
    match operation.valueFor variants sibling.name ordinal with
    | .ok tag => .ok (sibling.name, tag)
    | .error fault => .error (.discriminatorMissing operation.scope sibling.name fault)

/-- The tag assigned to a name; the last one, should the name repeat. -/
def tagOf? (assigned : List (String × Discriminator)) (name : String) : Option Discriminator :=
  (assigned.reverse.find? (·.1 = name)).map (·.2)

end AssignDiscriminators

/-- The first sibling whose tag an earlier one has: both names and the tag. `seen` are
    the tags so far with their owners. -/
def Sibling.collision? : (seen : List (Discriminator × String)) → List Sibling →
    Option (String × String × Discriminator)
  | _, [] => none
  | seen, ⟨_, none⟩ :: rest => collision? seen rest
  | seen, ⟨name, some tag⟩ :: rest =>
    match seen.find? (·.1.key = tag.key) with
    | some (_, first) => some (first, name, tag)
    | none => collision? ((tag, name) :: seen) rest

/-- The same program with new tags for the members of a collection that have one. -/
def Program.setTags (program : Program) (set : SiblingSet)
    (tagOf? : String → Option Discriminator) : Program :=
  match set with
  | .accounts =>
    { program with accounts := program.accounts.map fun a =>
        { a with discriminator := tagOf? a.name <|> a.discriminator } }
  | .instructions =>
    { program with instructions := program.instructions.map fun i =>
        { i with discriminator := tagOf? i.name <|> i.discriminator } }

/-- The tree with its new tags. -/
def AssignDiscriminators.apply (operation : AssignDiscriminators) (index : Index) :
    Except TransformError Tree := do
  let (program, slot) ← index.program operation.program
  let siblings := program.siblings operation.siblings
  match operation.only.find? fun name => !siblings.any (·.name = name) with
  | some unknown => throw (.unresolved (operation.siblings.path program.name unknown))
  | none => pure ()
  let variants ← match operation.source with
    | .enumVariants enumType _ => index.enumVariants enumType
    | _ => pure []
  let assigned ← operation.assigned variants siblings
  let tagged := siblings.map fun s => ⟨s.name, tagOf? assigned s.name <|> s.tag⟩
  match Sibling.collision? [] tagged with
  | some (first, second, tag) =>
    throw (.discriminatorCollision operation.scope first second tag)
  | none => pure ()
  match slot with
  | .program p =>
    return index.tree.modifyProgram p (·.setTags operation.siblings (tagOf? assigned))
  | _ => throw (.unresolved operation.program)

end Bindery
