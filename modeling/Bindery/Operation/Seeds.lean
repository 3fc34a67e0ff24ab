import Bindery.Index
import Bindery.Operation.Basic

/-!
# Address recipes

* **`Seed.check`** — what a list of seeds must satisfy: 1 to 16 seeds, constants of at
  most 32 bytes, variables with distinct names that are not empty.
* **`SetSeeds.apply`** — the tree with the recipe of one account replaced.
-/

namespace Bindery

namespace Seed

/-- Check seeds one after another; `names` are the variables seen so far. -/
def checkEach : (names : List String) → List Seed → Except SeedFault Unit
  | _, [] => .ok ()
  | names, .constant value :: rest =>
    let length := (value.bytes?.getD []).length
    if length > maxSeedLength then .error (.tooLong length) else checkEach names rest
  | names, .variable seed :: rest =>
    if seed.name = "" then .error .unnamed
    else if seed.name ∈ names then .error (.repeated seed.name)
    else checkEach (seed.name :: names) rest

/-- Check a list of seeds. Its length is looked at first. -/
def check (seeds : List Seed) : Except SeedFault Unit :=
  if seeds = [] then .error .empty
  else if seeds.length > maxSeeds then .error (.tooMany seeds.length)
  else checkEach [] seeds

end Seed

/-- The tree with a new recipe. The account is resolved before the seeds are checked. -/
def SetSeeds.apply (operation : SetSeeds) (index : Index) : Except TransformError Tree := do
  let (_, slot) ← index.account operation.account
  (Seed.check operation.seeds).mapError (.invalidSeeds operation.account)
  match slot with
  | .account p i =>
    return index.tree.modifyAccount p i ({ · with seeds := some operation.seeds })
  | _ => throw (.unresolved operation.account)

end Bindery
