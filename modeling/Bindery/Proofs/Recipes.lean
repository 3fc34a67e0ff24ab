import Bindery.Proofs.Defaults.History

/-! # Recipes along a run — where each recipe comes from

    A step sets the recipe of one account, the one in the slot that its path
    selects in the tree before it, or leaves every recipe as it is
    (`recipeAt?_of_apply`).  Names change between steps, and are exchanged, so
    that a path selects one slot now and another one later; the slot of an
    account does not change.  Hence the recipe in a slot goes back to the last
    step that selected the slot (`recipeAt?_of_run`), and it is the list of seeds
    of that step as it was given, links in the types of seeds included
    (`runDocuments_recipes`). -/

namespace Bindery

/-- The last step in front of a stage that set the recipe of the account in a place, and the
    seeds that it set. -/
structure Pipeline.RecipeLast (operations : List NamedOperation) (stages : List Stage)
    (k p j last : Nat) (recipe : List Seed) : Prop where
  before : last < k
  sets : ∃ operation tree, Pipeline.Step operations stages last operation tree
    ∧ operation.SetsRecipe tree p j recipe
  kept : ∀ step, last < step → step < k → ¬ Pipeline.SetsRecipeAt operations stages step p j

namespace Pipeline.RecipeLast

variable {operations : List NamedOperation} {stages : List Stage} {k p j last last' : Nat}
  {recipe recipe' : List Seed}

/-- The last step that set a recipe is one that did. -/
theorem setsAt (h : RecipeLast operations stages k p j last recipe) :
    SetsRecipeAt operations stages last p j := by
  obtain ⟨operation, tree, hstep, hsets⟩ := h.sets
  exact ⟨operation, tree, recipe, hstep, hsets⟩

/-- No step that set the recipe is behind the last one. -/
theorem le (h : RecipeLast operations stages k p j last recipe)
    (h' : RecipeLast operations stages k p j last' recipe') : last' ≤ last :=
  Nat.not_lt.mp fun hlt => h.kept last' hlt h'.before h'.setsAt

/-- The last step that set a recipe is one, and set one list of seeds. -/
theorem unique (h : RecipeLast operations stages k p j last recipe)
    (h' : RecipeLast operations stages k p j last' recipe') : recipe = recipe' := by
  obtain rfl := Nat.le_antisymm (h'.le h) (h.le h')
  obtain ⟨operation, tree, hstep, op, rfl, rfl, -⟩ := h.sets
  obtain ⟨operation', tree', hstep', op', rfl, rfl, -⟩ := h'.sets
  exact congrArg SetSeeds.seeds (Operation.setSeeds.inj (hstep.unique hstep').1)

/-- A step that leaves the recipe alone does not change which step set it last. -/
theorem succ (h : RecipeLast operations stages k p j last recipe)
    (hkept : ¬ SetsRecipeAt operations stages k p j) :
    RecipeLast operations stages (k + 1) p j last recipe where
  before := Nat.lt_succ_of_lt h.before
  sets := h.sets
  kept step hlo hhi := by
    rcases Nat.lt_succ_iff_lt_or_eq.mp hhi with hhi | rfl
    · exact h.kept step hlo hhi
    · exact hkept

end Pipeline.RecipeLast

/-- The account in a place of a stage has no recipe, and no step before the stage set one, or it
    has the seeds of the last step that did. -/
def Pipeline.RecipeFrom (operations : List NamedOperation) (stages : List Stage) (p j k : Nat)
    (tree : Tree) : Prop :=
  (tree.recipeAt? p j = none ∧ ∀ step < k, ¬ SetsRecipeAt operations stages step p j)
    ∨ ∃ last recipe, RecipeLast operations stages k p j last recipe
      ∧ tree.recipeAt? p j = some recipe

section Run

variable {documents : List Document} {operations : List NamedOperation} {stages : List Stage}

/-- Behind a tree there is a stage for every operation. -/
theorem length_of_runFrom : ∀ {operations : List NamedOperation} {position : Nat} {tree : Tree}
    {stages : List Stage}, Pipeline.runFrom position tree operations = .ok stages →
      stages.length = operations.length := by
  intro operations
  induction operations with
  | nil =>
      intro position tree stages h
      rw [← Except.ok.inj h]
      rfl
  | cons named operations ih =>
      intro position tree stages h
      obtain ⟨next, rest, -, hrest, rfl⟩ := runFrom_cons_eq_ok.mp h
      exact congrArg Nat.succ (ih hrest)

/-- A run over documents has a stage for every operation, and one in front of them. -/
theorem length_of_runDocuments (h : Pipeline.runDocuments documents operations = .ok stages) :
    stages.length = operations.length + 1 := by
  obtain ⟨base, -, h⟩ := bind_eq_ok.mp h
  obtain ⟨rest, hrest, h⟩ := bind_eq_ok.mp (mapError_eq_ok.mp h)
  rw [← pure_eq_ok.mp h]
  exact congrArg Nat.succ (length_of_runFrom hrest)

/-- **THE LAST STEP DECIDES**: in every stage, the recipe of an account comes from the last step
    that set it. -/
theorem recipeAt?_of_run (h : Pipeline.runDocuments documents operations = .ok stages)
    (p j : Nat) {k : Nat} {stage : Stage} (hk : stages[k]? = some stage) :
    Pipeline.RecipeFrom operations stages p j k stage.tree := by
  refine stage_induction h (P := Pipeline.RecipeFrom operations stages p j) ?load ?step hk
  case load =>
    exact fun hload => .inl ⟨recipeAt?_of_load hload p j, fun step hlt =>
      absurd hlt (Nat.not_lt_zero step)⟩
  case step =>
    intro k operation tree next hstep hr happly ih
    rcases recipeAt?_of_apply hr.wellFormed.distinct happly with
      ⟨recipe, hsets, -, hrecipe⟩ | ⟨hnone, hsame⟩
    · refine .inr ⟨k, recipe, ⟨Nat.lt_succ_self k, ⟨_, _, hstep, hsets⟩, ?_⟩, hrecipe⟩
      exact fun step hlo hhi => absurd (Nat.le_of_lt_succ hhi) (Nat.not_le.mpr hlo)
    · -- a step that selects another slot, or none, leaves the history of this one as it is
      have hkept : ¬ Pipeline.SetsRecipeAt operations stages k p j := by
        rintro ⟨operation', tree', recipe, hstep', hsets⟩
        obtain ⟨rfl, rfl⟩ := hstep.unique hstep'
        exact hnone recipe hsets
      rcases ih with ⟨hrecipe, hunset⟩ | ⟨last, recipe, hlast, hrecipe⟩
      · exact .inl ⟨hsame.trans hrecipe, Nat.forall_lt_succ_right.mpr ⟨hunset, hkept⟩⟩
      · exact .inr ⟨last, recipe, hlast.succ hkept, hsame.trans hrecipe⟩

/-- **RECIPES ARE THOSE THAT WERE LAST SET**: in every stage of a run that succeeds, the account
    in a slot has no recipe exactly when no step before the stage selected the slot, and it has
    a recipe exactly when these are the seeds of the last step that did, as they were given.
    Every recipe is proper.  The last stage has all operations before it. -/
theorem runDocuments_recipes (h : Pipeline.runDocuments documents operations = .ok stages) :
    stages.length = operations.length + 1
      ∧ ∀ k stage, stages[k]? = some stage →
        ∀ p j account, stage.tree.accountAt? p j = some account →
          (account.seeds = none
              ↔ ∀ step < k, ¬ Pipeline.SetsRecipeAt operations stages step p j)
            ∧ (∀ recipe, account.seeds = some recipe
              ↔ ∃ last, Pipeline.RecipeLast operations stages k p j last recipe)
            ∧ ∀ recipe, account.seeds = some recipe → ProperRecipe recipe := by
  refine ⟨length_of_runDocuments h, fun k stage hk p j account haccount => ?_⟩
  have hr := reachable_of_runDocuments h stage (List.mem_of_getElem? hk)
  have hseeds : stage.tree.recipeAt? p j = account.seeds := by
    rw [Tree.recipeAt?, haccount]
    rfl
  have hproper : ∀ recipe, account.seeds = some recipe → ProperRecipe recipe :=
    fun recipe hrecipe => hr.properRecipe (hseeds.trans hrecipe)
  rcases recipeAt?_of_run h p j hk with ⟨hrecipe, hunset⟩ | ⟨last, recipe, hlast, hrecipe⟩
  · rw [hseeds] at hrecipe
    refine ⟨iff_of_true hrecipe hunset, fun recipe => iff_of_false ?_ ?_, hproper⟩
    · intro hsome
      cases hrecipe.symm.trans hsome
    · rintro ⟨last, hlast⟩
      exact hunset last hlast.before hlast.setsAt
  · rw [hseeds] at hrecipe
    refine ⟨iff_of_false ?_ ?_, fun recipe' => ⟨fun h' => ⟨last, ?_⟩, ?_⟩, hproper⟩
    · intro hnone
      cases hrecipe.symm.trans hnone
    · exact fun hunset => hunset last hlast.before hlast.setsAt
    · exact Option.some.inj (hrecipe.symm.trans h') ▸ hlast
    · rintro ⟨last', hlast'⟩
      rw [hrecipe, hlast.unique hlast']

end Run

/-- A run over the bank that gives the vault a recipe, lets the accounts exchange their names,
    and then gives the account that is now called the vault another recipe. -/
def recipesMoved : List NamedOperation := bankRun.take 3 ++ [
  ⟨"again", .setSeeds ⟨.account "bank" "Vault",
    [.constant (.utf8 "vault"), .variable ⟨"side", .link "Turn", []⟩]⟩⟩]

theorem runDocuments_recipes_bank : ∃ stages stage pool vault,
    Pipeline.runDocuments [bank] recipesMoved = .ok stages ∧ stages[4]? = some stage
      ∧ stage.tree.accountAt? 0 0 = some pool ∧ pool.name = "Pool"
      ∧ stage.tree.accountAt? 0 1 = some vault ∧ vault.name = "Vault"
      ∧ (∃ last, Pipeline.RecipeLast recipesMoved stages 4 0 0 last
          [.variable ⟨"payer", .publicKey, []⟩])
      ∧ ∃ last, Pipeline.RecipeLast recipesMoved stages 4 0 1 last
          [.constant (.utf8 "vault"), .variable ⟨"side", .link "Turn", []⟩] := by
  obtain ⟨stages, hrun, hstages⟩ : ∃ stages,
      Pipeline.runDocuments [bank] recipesMoved = .ok stages
        ∧ (stages[4]?.any fun stage => (stage.tree.accountAt? 0 0).any fun pool =>
            (stage.tree.accountAt? 0 1).any fun vault =>
              pool.name = "Pool" ∧ vault.name = "Vault"
              ∧ pool.seeds = some [.variable ⟨"payer", .publicKey, []⟩]
              ∧ vault.seeds = some
                [.constant (.utf8 "vault"), .variable ⟨"side", .link "Turn", []⟩]) = true :=
    runDocuments_bank (by decide +kernel)
  obtain ⟨stage, hk, hstage⟩ := (Option.any_eq_true _ _).mp hstages
  obtain ⟨pool, hpool, hstage⟩ := (Option.any_eq_true _ _).mp hstage
  obtain ⟨vault, hvault, hstage⟩ := (Option.any_eq_true _ _).mp hstage
  obtain ⟨hpoolName, hvaultName, hpoolSeeds, hvaultSeeds⟩ := of_decide_eq_true hstage
  have hrecipes := (runDocuments_recipes hrun).2 4 stage hk
  exact ⟨stages, stage, pool, vault, hrun, hk, hpool, hpoolName, hvault, hvaultName,
    ((hrecipes 0 0 pool hpool).2.1 _).mp hpoolSeeds,
    ((hrecipes 0 1 vault hvault).2.1 _).mp hvaultSeeds⟩

end Bindery
