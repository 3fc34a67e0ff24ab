import Bindery.Proofs.Defaults.Binding
import Bindery.Render.Bindings

/-! # Derived defaults along a run

    Rules bind the seeds of a recipe when they are applied, and a recipe can be
    replaced afterwards.  Every derived default of a stage goes back to a step
    that stored a default in its slot, and unless a later step set the recipe
    of the account that it names, its bindings are for the recipe that the
    account has (`derived_of_run`).  For these a renderer finds every seed
    bound, in place (`runDocuments_bindsRecipe`).  A recipe that is replaced
    leaves bindings behind for the one that is gone
    (`exists_unbound_seed`). -/

namespace Bindery

/-! ## Seeds that are bound -/

/-- **NO SEED IS UNBOUND**: a derived default with bindings for the recipe of its account has
    an expression, which takes each variable seed from the binding in its place. -/
theorem BindsRecipe.expression {program : Program} {account : Account} {recipe : List Seed}
    {bindings : List SeedBinding} (hnames : (program.accounts.map (·.name)).Nodup)
    (hmem : account ∈ program.accounts) (hrecipe : account.seeds = some recipe)
    (hb : BindsRecipe bindings recipe) (context : String) :
    Expression.of program context (.pda account.name bindings)
      = .ok (.derived account.name (account.seedInputs.zip (bindings.map (·.value)))) := by
  have haccount : program.account? account.name = some account :=
    (find?_named_iff hnames).mpr ⟨hmem, rfl⟩
  have hseeds : bindings.map (·.seed) = account.seedInputs.map (·.name) := by
    rw [Account.seedInputs, hrecipe]
    exact hb.inOrder
  have hbound : List.Forall₂ (fun seed binding => boundInput? bindings seed
      = some binding.value) account.seedInputs bindings := by
    have hmembers := (List.forall₂_and_left bindings account.seedInputs).mpr
      ⟨fun _ hbinding => hbinding, map_eq_map_iff_forall₂.mp hseeds⟩
    refine hmembers.flip.imp fun seed binding hbinding => ?_
    exact congrArg (Option.map (·.value)) ((find?_named_iff hb.once).mpr hbinding)
  show derivation program context account.name bindings = _
  unfold derivation
  simp only [haccount]
  refine bind_eq_ok.mpr ⟨_, mapM_eq_ok_zip (hbound.imp fun seed binding hseed => ?_), rfl⟩
  simp only [hseed]

/-! ## Steps that set defaults and recipes -/

/-- At a step of a run the default in a slot is set. -/
def Pipeline.SetsDefaultAt (operations : List NamedOperation) (stages : List Stage) (k : Nat)
    (slot : Slot) : Prop :=
  ∃ operation tree value, Pipeline.Step operations stages k operation tree
    ∧ operation.SetsDefault tree slot value

/-- At a step of a run the recipe of the account in a place is set. -/
def Pipeline.SetsRecipeAt (operations : List NamedOperation) (stages : List Stage)
    (k p j : Nat) : Prop :=
  ∃ operation tree recipe, Pipeline.Step operations stages k operation tree
    ∧ operation.SetsRecipe tree p j recipe

/-- The last step before a stage at which the default in a slot was set, and the recipe that the
    account in a place had then. -/
structure Pipeline.SetLast (operations : List NamedOperation) (stages : List Stage) (k : Nat)
    (slot : Slot) (p j last : Nat) (recipe : List Seed) : Prop where
  before : last < k
  sets : Pipeline.SetsDefaultAt operations stages last slot
  kept : ∀ step, last < step → step < k → ¬ Pipeline.SetsDefaultAt operations stages step slot
  recipe : ∃ stage, stages[last]? = some stage ∧ stage.tree.recipeAt? p j = some recipe

/-- The default in a slot is one of those of an instruction. -/
theorem Tree.mem_defaults_of_defaultAt? {tree : Tree} {slot : Slot} {value : DefaultValue}
    (h : tree.defaultAt? slot = some value) :
    ∃ program ∈ tree.programs, ∃ instruction ∈ program.instructions,
      value ∈ instruction.defaults := by
  cases slot with
  | instructionAccount p i m =>
      obtain ⟨instruction, hi, h⟩ := Option.bind_eq_some_iff.mp h
      obtain ⟨program, hp, hi⟩ := Option.bind_eq_some_iff.mp hi
      obtain ⟨a, hm, hvalue⟩ := Option.bind_eq_some_iff.mp h
      exact ⟨program, List.mem_of_getElem? hp, instruction, List.mem_of_getElem? hi,
        List.mem_append_left _ (List.mem_filterMap.mpr ⟨a, List.mem_of_getElem? hm, hvalue⟩)⟩
  | instructionArgument p i m =>
      obtain ⟨instruction, hi, h⟩ := Option.bind_eq_some_iff.mp h
      obtain ⟨program, hp, hi⟩ := Option.bind_eq_some_iff.mp hi
      obtain ⟨a, hm, hvalue⟩ := Option.bind_eq_some_iff.mp h
      exact ⟨program, List.mem_of_getElem? hp, instruction, List.mem_of_getElem? hi,
        List.mem_append_right _ (List.mem_filterMap.mpr ⟨a, List.mem_of_getElem? hm, hvalue⟩)⟩
  | _ => exact nomatch h

/-- Loaded trees have no defaults. -/
theorem defaultAt?_of_load {documents : List Document} {tree : Tree}
    (h : Tree.load documents = .ok tree) (slot : Slot) : tree.defaultAt? slot = none := by
  rw [Option.eq_none_iff_forall_ne_some]
  intro value hvalue
  obtain ⟨program, hprogram, instruction, hinstruction, hmem⟩ :=
    Tree.mem_defaults_of_defaultAt? hvalue
  have hfresh := ((load_eq_ok h).1.members program hprogram).2.2
  rw [hfresh.defaults instruction hinstruction] at hmem
  exact nomatch hmem

/-- A derived default of a stage names an account with a recipe, and its bindings are for the
    recipe that this account had when the default was set last, which it still has when no step
    since then set it. -/
def Pipeline.DerivedFrom (operations : List NamedOperation) (stages : List Stage) (k : Nat)
    (tree : Tree) : Prop :=
  ∀ ⦃slot owner bindings⦄, tree.defaultAt? slot = some (.pda owner bindings) →
    ∃ p j recipe last bound, tree.Owns slot owner p j ∧ tree.recipeAt? p j = some recipe
      ∧ SetLast operations stages k slot p j last bound ∧ BindsRecipe bindings bound
      ∧ ((∀ step, last < step → step < k → ¬ SetsRecipeAt operations stages step p j) →
          recipe = bound)

section Run

variable {documents : List Document} {operations : List NamedOperation} {stages : List Stage}

/-- A step that leaves the default in a slot alone does not change which step set it last. -/
theorem Pipeline.SetLast.succ {k : Nat} {slot : Slot} {p j last : Nat} {recipe : List Seed}
    (h : Pipeline.SetLast operations stages k slot p j last recipe)
    (hkept : ¬ Pipeline.SetsDefaultAt operations stages k slot) :
    Pipeline.SetLast operations stages (k + 1) slot p j last recipe where
  before := Nat.lt_succ_of_lt h.before
  sets := h.sets
  kept step hlo hhi := by
    rcases Nat.lt_succ_iff_lt_or_eq.mp hhi with hhi | rfl
    · exact h.kept step hlo hhi
    · exact hkept
  recipe := h.recipe

/-- **BINDINGS ARE FOR THE RECIPE OF THEIR TIME**: every derived default of a stage has bindings
    for the recipe that its account had when it was stored. -/
theorem derived_of_run (h : Pipeline.runDocuments documents operations = .ok stages) {k : Nat}
    {stage : Stage} (hk : stages[k]? = some stage) :
    Pipeline.DerivedFrom operations stages k stage.tree := by
  refine stage_induction h (P := Pipeline.DerivedFrom operations stages) ?load ?step hk
  case load =>
    intro tree hload slot owner bindings hdefault
    rw [defaultAt?_of_load hload] at hdefault
    exact nomatch hdefault
  case step =>
    intro k operation tree next hstep hr happly ih slot owner bindings hdefault
    obtain ⟨before, hbefore, rfl⟩ := hstep.tree
    have hd := hr.wellFormed.distinct
    rcases derived_of_apply hr happly hdefault with
      ⟨hset, p, j, recipe, howns, hrecipe, hsame, hbinds⟩
      | ⟨hnone, owner', bindings', hold, hseeds, hmoves⟩
    · -- the step stored the default, with bindings for the recipe that it found
      refine ⟨p, j, recipe, k, recipe, howns, hsame.trans hrecipe, ?_, hbinds, fun _ => rfl⟩
      refine ⟨Nat.lt_succ_self k, ⟨_, _, _, hstep, hset⟩, fun step hlo hhi => ?_,
        before, hbefore, hrecipe⟩
      exact absurd (Nat.le_of_lt_succ hhi) (Nat.not_le.mpr hlo)
    · obtain ⟨p, j, recipe, last, bound, howns, hrecipe, hlast, hbinds, hcurrent⟩ := ih hold
      have hkept : ¬ Pipeline.SetsDefaultAt operations stages k slot := by
        rintro ⟨operation', tree', value, hstep', hset⟩
        obtain ⟨rfl, rfl⟩ := hstep.unique hstep'
        exact hnone value hset
      rcases recipeAt?_of_apply hd happly with
        ⟨recipe', hsets, -, hrecipe'⟩ | ⟨-, hsame⟩
      · refine ⟨p, j, recipe', last, bound, hmoves p j howns, hrecipe', hlast.succ hkept,
          hbinds.congr hseeds, fun hunset => ?_⟩
        exact absurd ⟨_, _, _, hstep, hsets⟩ (hunset k hlast.before (Nat.lt_succ_self k))
      · refine ⟨p, j, recipe, last, bound, hmoves p j howns, hsame.trans hrecipe,
          hlast.succ hkept, hbinds.congr hseeds, fun hunset => ?_⟩
        exact hcurrent fun step hlo hhi => hunset step hlo (Nat.lt_succ_of_lt hhi)

/-- **WHAT A RUN LEAVES BOUND**: in every stage of a run that succeeds, a derived default names an
    account of its program with a recipe.  Its bindings name the variable seeds of the recipe
    that this account had when the default was set last, each once and in order.  Unless a
    step since then set the recipe of the account, that is the recipe it has, and a renderer
    finds every seed bound. -/
theorem runDocuments_bindsRecipe (h : Pipeline.runDocuments documents operations = .ok stages)
    {k : Nat} {stage : Stage} (hk : stages[k]? = some stage) {slot : Slot} {owner : String}
    {bindings : List SeedBinding}
    (hdefault : stage.tree.defaultAt? slot = some (.pda owner bindings)) :
    ∃ p j program account recipe last bound, slot.program? = some p
      ∧ stage.tree.programs[p]? = some program ∧ program.accounts[j]? = some account
      ∧ account.name = owner ∧ account.seeds = some recipe
      ∧ Pipeline.SetLast operations stages k slot p j last bound ∧ BindsRecipe bindings bound
      ∧ ((∀ step, last < step → step < k →
            ¬ Pipeline.SetsRecipeAt operations stages step p j) →
          recipe = bound ∧ BindsRecipe bindings recipe
            ∧ ∀ context, Expression.of program context (.pda owner bindings)
                = .ok (.derived owner (account.seedInputs.zip (bindings.map (·.value))))) := by
  obtain ⟨p, j, recipe, last, bound, howns, hrecipe, hlast, hbinds, hcurrent⟩ :=
    derived_of_run h hk hdefault
  obtain ⟨account, haccount, hseeds⟩ := Option.bind_eq_some_iff.mp hrecipe
  obtain ⟨program, hp, hj⟩ := Option.bind_eq_some_iff.mp haccount
  obtain ⟨_, hsame, rfl⟩ := Option.map_eq_some_iff.mp howns.name
  obtain rfl := Option.some.inj (haccount.symm.trans hsame)
  have hr := reachable_of_runDocuments h stage (List.mem_of_getElem? hk)
  have hnames := (hr.wellFormed.distinct.members program (List.mem_of_getElem? hp)).accounts
  refine ⟨p, j, program, account, recipe, last, bound, howns.program, hp, hj, rfl, hseeds, hlast,
    hbinds, fun hunset => ?_⟩
  obtain rfl := hcurrent hunset
  exact ⟨rfl, hbinds, hbinds.expression hnames (List.mem_of_getElem? hj) hseeds⟩

end Run

/-- The slot of the first account of the first instruction of the bank. -/
def openVault : Slot := .instructionAccount 0 0 0

theorem runDocuments_bindsRecipe_bank : ∃ stages stage program,
    Pipeline.runDocuments [bank] bankRun = .ok stages ∧ stages[4]? = some stage
      ∧ stage.tree.defaultAt? openVault = some (.pda "Pool" [⟨"payer", .account "vault"⟩])
      ∧ stage.tree.programs[0]? = some program
      ∧ ∀ context, ∃ seeds,
          Expression.of program context (.pda "Pool" [⟨"payer", .account "vault"⟩])
            = .ok (.derived "Pool" seeds) := by
  obtain ⟨stages, hrun, hstages⟩ : ∃ stages,
      Pipeline.runDocuments [bank] bankRun = .ok stages
        ∧ (stages[4]?.any fun stage => stage.tree.defaultAt? openVault
            = some (.pda "Pool" [⟨"payer", .account "vault"⟩])) = true :=
    runDocuments_bank (by decide +kernel)
  obtain ⟨stage, hk, hdefault⟩ := (Option.any_eq_true _ _).mp hstages
  obtain ⟨p, j, program, account, recipe, last, bound, hslot, hp, -, -, -, hlast, -, hbound⟩ :=
    runDocuments_bindsRecipe hrun hk (of_decide_eq_true hdefault)
  obtain rfl := Option.some.inj hslot
  refine ⟨stages, stage, program, hrun, hk, of_decide_eq_true hdefault, hp, fun context => ?_⟩
  refine ⟨_, (hbound fun step hlo hhi => ?_).2.2 context⟩
  -- seeds are set at the first step only
  rintro ⟨operation, tree, recipe', hstep, op, rfl, -⟩
  obtain ⟨named, hnamed, hop⟩ := hstep.operation
  obtain rfl | rfl | rfl : step = 1 ∨ step = 2 ∨ step = 3 := by omega
  · cases hnamed; exact nomatch hop
  · cases hnamed; exact nomatch hop
  · cases hnamed; exact nomatch hop

/-- A run over the bank that gives the vault another recipe after its address has become a
    default. -/
def recipeReplaced : List NamedOperation := bankRun.take 2 ++ [
  ⟨"again", .setSeeds ⟨.account "bank" "Vault", [.variable ⟨"side", .link "Side", []⟩]⟩⟩]

/-- **A SEED THAT IS UNBOUND**: after a recipe is replaced, a derived default has a binding for
    a seed that is gone and none for the new one, and a renderer fails. -/
theorem exists_unbound_seed : ∃ stages stage program account,
    Pipeline.runDocuments [bank] recipeReplaced = .ok stages ∧ stages[3]? = some stage
      ∧ stage.tree.defaultAt? openVault = some (.pda "Vault" [⟨"payer", .account "payer"⟩])
      ∧ stage.tree.programs[0]? = some program ∧ program.accounts[0]? = some account
      ∧ account.name = "Vault"
      ∧ account.seeds = some [.variable ⟨"side", .link "Side", []⟩]
      ∧ ¬ BindsRecipe [⟨"payer", .account "payer"⟩] [.variable ⟨"side", .link "Side", []⟩]
      ∧ Expression.of program "bank/open" (.pda "Vault" [⟨"payer", .account "payer"⟩])
        = .error (.unsupported "bank/open" (.unboundSeed "side")) := by
  obtain ⟨stages, hrun, hstages⟩ : ∃ stages,
      Pipeline.runDocuments [bank] recipeReplaced = .ok stages
        ∧ (stages[3]?.any fun stage => stage.tree.programs[0]?.any fun program =>
            program.accounts[0]?.any fun account =>
              stage.tree.defaultAt? openVault = some (.pda "Vault" [⟨"payer", .account "payer"⟩])
              ∧ account.name = "Vault"
              ∧ account.seeds = some [.variable ⟨"side", .link "Side", []⟩]
              ∧ Expression.of program "bank/open" (.pda "Vault" [⟨"payer", .account "payer"⟩])
                = .error (.unsupported "bank/open" (.unboundSeed "side"))) = true :=
    runDocuments_bank (by decide +kernel)
  have hbindings : ¬ BindsRecipe [⟨"payer", .account "payer"⟩]
      [.variable ⟨"side", .link "Side", []⟩] := fun hbinds => absurd hbinds.inOrder (by decide)
  obtain ⟨stage, hk, hstage⟩ := (Option.any_eq_true _ _).mp hstages
  obtain ⟨program, hp, hprogram⟩ := (Option.any_eq_true _ _).mp hstage
  obtain ⟨account, hj, haccount⟩ := (Option.any_eq_true _ _).mp hprogram
  obtain ⟨hdefault, hname, hseeds, hfails⟩ := of_decide_eq_true haccount
  exact ⟨stages, stage, program, account, hrun, hk, hdefault, hp, hj, hname, hseeds, hbindings,
    hfails⟩

end Bindery
