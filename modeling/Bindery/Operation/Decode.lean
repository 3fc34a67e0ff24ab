import Bindery.Operation.Basic
import Bindery.Tree.Decode

/-!
# Operations from JSON

* **`Operation.decode`** — an operation on its own; a member `name` is ignored.
* **`NamedOperation.decode`** — an operation with its name, among the other members. The
  name is read in passing, everything else is set aside until the members end.
-/

namespace Bindery

open Json (Readable)
open Decode

/-- Decode an operation that renames. -/
def Rename.fields : Fields Json Rename :=
  Rename.mk <$> .required "renames" (mapOf pathOfText str)

/-- Decode an operation that sets seeds. -/
def SetSeeds.fields : Fields Json SetSeeds :=
  SetSeeds.mk <$> .required "account" nodePath
    <*> .required "seeds" (listOf (Seed.decode .setAside))

/-- Decode the name of a collection. -/
def SiblingSet.decode (stage : Stage) (j : Json) : Except Fault SiblingSet := do
  let (name, payload) ← choice ["accounts", "instructions"] j
  noPayload stage (if name = "accounts" then .accounts else .instructions) payload

/-- Decode a source of tags. -/
def DiscriminatorSource.decode (stage : Stage) (j : Json) :
    Except Fault DiscriminatorSource := do
  let kinds := ["sequential", "explicit", "enumVariants", "sighash"]
  let (kind, body) ← tagged stage "kind" kinds j
  let size : Fields Json NumberFormat := .optional "size" (NumberFormat.decode .setAside) .u8
  match kind with
  | "sequential" =>
    body.decode (.sequential <$> .optional "start" word64 0 <*> size)
  | "explicit" =>
    body.decode (.explicit <$> .required "values" (mapOf .ok word64) <*> size)
  | "enumVariants" => body.decode (.enumVariants <$> .required "enumType" nodePath <*> size)
  | _ => body.decode (.sighash <$> .required "namespace" str)

/-- Decode an operation that assigns tags. -/
def AssignDiscriminators.fields : Fields Json AssignDiscriminators :=
  AssignDiscriminators.mk <$> .required "program" nodePath
    <*> .required "siblings" (SiblingSet.decode .setAside)
    <*> .optional "only" (listOf str) []
    <*> .required "source" (DiscriminatorSource.decode .setAside)
    <*> .optional "offset" word64 0

/-- Decode a default rule. -/
def DefaultRule.decode : Json → Except Fault DefaultRule :=
  record (DefaultRule.mk <$> .required "target" nodePath
    <*> .required "value" (DefaultValue.decode .setAside))

/-- Decode an operation that sets defaults. -/
def SetDefaults.fields : Fields Json SetDefaults :=
  SetDefaults.mk <$> .required "defaults" (listOf DefaultRule.decode)

namespace Operation

/-- The kinds of operations, in declaration order. -/
def kinds : List String :=
  ["rename", "setAccountSeeds", "assignDiscriminators", "setDefaultValues"]

/-- Decode an operation. -/
def decode (stage : Stage) (j : Json) : Except Fault Operation := do
  let (kind, body) ← tagged stage "kind" kinds j
  match kind with
  | "rename" => body.decode (.rename <$> Rename.fields)
  | "setAccountSeeds" => body.decode (.setSeeds <$> SetSeeds.fields)
  | "assignDiscriminators" => body.decode (.assignDiscriminators <$> AssignDiscriminators.fields)
  | _ => body.decode (.setDefaults <$> SetDefaults.fields)

end Operation

namespace NamedOperation

variable {τ : Type} [Readable τ]

/-- Read the name in passing and set the other members aside. -/
def splitName : (name : Option String) → List (String × τ) →
    Except Fault (Option String × List (String × Json))
  | name, [] => .ok (name, [])
  | name, (k, v) :: rest =>
    if k = "name" then
      if name.isSome then .error (.duplicateField "name")
      else do splitName (some (← str v)) rest
    else do
      let value ← Readable.whole v
      let (name, others) ← splitName name rest
      return (name, (k, value) :: others)

/-- Decode an operation with its name. -/
def decode (t : τ) : Except Fault NamedOperation := do
  match ← Readable.layer t with
  | .object members =>
    let (name, others) ← splitName none members
    let some name := name | throw (.missingField "name")
    return ⟨name, ← Operation.decode .setAside (.object others)⟩
  | _ => throw .invalidType

end NamedOperation

end Bindery
