import Bindery.Proofs.Defaults.Binding
import Bindery.Proofs.Defaults.Renamed

/-! # Derived addresses — when a rule for one applies, and what it stores

    A rule that gives an input the address of an account has to find an input for
    every variable seed of the recipe.  `Instruction.Supplies` says which one that
    is: what the first binding for the seed gives, else the account of the name of
    the seed, else the argument of that name.  An account is taken before an
    argument even where it may not be read, so each seed has at most one input
    (`Supplies.unique`), and the rule stands or falls with those.

    `Program.Derives` collects what the rule asks for.  On an input that can hold
    an address the rule applies exactly when that is there, and then it stores one
    binding for each variable seed, in the order of the recipe, with the input that
    supplies it (`SetDefaults.apply_address`). -/

namespace Bindery

/-- The input that an instruction supplies a variable seed from, with some bindings given. -/
inductive Instruction.Supplies (instruction : Instruction) (given : List SeedBinding)
    (seed : String) : Input → Prop
  | given {binding : SeedBinding} (h : given.find? (·.seed = seed) = some binding) :
      instruction.Supplies given seed binding.value
  | account (hgiven : seed ∉ given.map (·.seed))
      (h : instruction.takes (.account seed) = true) :
      instruction.Supplies given seed (.account seed)
  | argument (hgiven : seed ∉ given.map (·.seed))
      (haccount : instruction.takes (.account seed) = false)
      (h : instruction.takes (.argument seed) = true) :
      instruction.Supplies given seed (.argument seed)

/-- What the address of an account can be derived from at an input: a recipe of the account,
    bindings for variable seeds of it only, and for each variable seed an input that may be
    read. -/
structure Program.Derives (program : Program) (instruction : Instruction) (of : InputTarget)
    (owner : String) (given : List SeedBinding) (recipe : List Seed) : Prop where
  owned : ∃ account ∈ program.accounts, account.name = owner ∧ account.seeds = some recipe
  known : ∀ binding ∈ given, binding.seed ∈ Seed.inputNames recipe
  supplied : ∀ seed ∈ Seed.inputNames recipe, ∃ input,
    instruction.Supplies given seed input ∧ input.Readable instruction of

/-- Bindings for the variable seeds of a recipe: one for each, in order, with the input that
    supplies it. -/
def Instruction.Binds (instruction : Instruction) (given : List SeedBinding) (recipe : List Seed)
    (bound : List SeedBinding) : Prop :=
  List.Forall₂ (fun seed binding => binding.seed = seed
    ∧ instruction.Supplies given seed binding.value) (Seed.inputNames recipe) bound

/-- The rule that gives an input the address of an account. -/
def DefaultRule.address (program : Program) (instruction : Instruction) (of : InputTarget)
    (owner : String) (given : List SeedBinding) : DefaultRule :=
  ⟨of.input.pathIn program.name instruction.name, .pda owner given⟩

section Seeds

variable {instruction : Instruction} {given : List SeedBinding} {seed : String}

/-- **ONE INPUT FOR A SEED**: bindings come before accounts, and accounts before arguments. -/
theorem Instruction.Supplies.unique {input other : Input}
    (h : instruction.Supplies given seed input) (h' : instruction.Supplies given seed other) :
    input = other := by
  cases h with
  | given hfound =>
      have hnamed := mem_names_of_find? hfound
      cases h' with
      | given hfound' => rw [Option.some.inj (hfound.symm.trans hfound')]
      | account hgiven _ => exact absurd hnamed hgiven
      | argument hgiven _ _ => exact absurd hnamed hgiven
  | account hgiven htakes =>
      cases h' with
      | given hfound => exact absurd (mem_names_of_find? hfound) hgiven
      | account _ _ => rfl
      | argument _ haccount _ => exact nomatch htakes.symm.trans haccount
  | argument hgiven haccount _ =>
      cases h' with
      | given hfound => exact absurd (mem_names_of_find? hfound) hgiven
      | account _ htakes => exact nomatch htakes.symm.trans haccount
      | argument _ _ _ => rfl

/-- A seed is bound to the input that supplies it, and to nothing else. -/
theorem DefaultRule.bindSeed_eq_ok_iff {target : NodePath} {seed : VariableSeed}
    {binding : SeedBinding} : bindSeed target instruction given seed = .ok binding ↔
      binding.seed = seed.name ∧ instruction.Supplies given seed.name binding.value := by
  obtain ⟨name, input⟩ := binding
  have hbound : ∀ {found : SeedBinding}, instruction.Supplies given seed.name found.value →
      found.seed = seed.name →
        ((.ok found : Except TransformError SeedBinding) = .ok ⟨name, input⟩ ↔
          name = seed.name ∧ instruction.Supplies given seed.name input) := by
    intro found hfound hname
    constructor
    · intro h
      rw [Except.ok.inj h] at hfound hname
      exact ⟨hname, hfound⟩
    · rintro ⟨rfl, hinput⟩
      rw [← hname, ← hfound.unique hinput]
  unfold bindSeed
  cases hgiven : given.find? (·.seed = seed.name) with
  | some found => exact hbound (.given hgiven) (name_of_find? hgiven)
  | none =>
      have hnone := notMem_names_of_find? hgiven
      cases haccount : instruction.takes (.account seed.name) with
      | true =>
          simp only [List.find?_cons, haccount]
          exact hbound (.account hnone haccount) rfl
      | false =>
          cases hargument : instruction.takes (.argument seed.name) with
          | true =>
              simp only [List.find?_cons, haccount, hargument]
              exact hbound (.argument hnone haccount hargument) rfl
          | false =>
              simp only [List.find?_cons, haccount, hargument, List.find?_nil]
              refine ⟨fun h => (nomatch h), ?_⟩
              rintro ⟨-, hsupplies⟩
              cases hsupplies with
              | given hfound => exact absurd (mem_names_of_find? hfound) hnone
              | account _ h => exact nomatch h.symm.trans haccount
              | argument _ _ h => exact nomatch h.symm.trans hargument

end Seeds

/-! ## Targets -/

section Targets

variable {tree : Tree} {slot slot' : Slot} {program program' : Program}
  {instruction instruction' : Instruction} {of of' : InputTarget}

/-- An input is held under its path. -/
theorem Tree.Takes.holds (ht : tree.Takes slot program instruction of) :
    ∃ node, tree.Holds slot (of.input.pathIn program.name instruction.name) node := by
  cases ht with
  | account hp hi hm => exact ⟨_, .instructionAccount hp hi hm⟩
  | argument hp hi hm => exact ⟨_, .instructionArgument hp hi hm⟩

/-- A slot has one input. -/
theorem Tree.Takes.unique (ht : tree.Takes slot program instruction of)
    (ht' : tree.Takes slot program' instruction' of') :
    program = program' ∧ instruction = instruction' ∧ of = of' := by
  cases ht with
  | account hp hi hm =>
      cases ht' with
      | account hp' hi' hm' =>
          obtain rfl := Option.some.inj (hp.symm.trans hp')
          obtain rfl := Option.some.inj (hi.symm.trans hi')
          obtain rfl := Option.some.inj (hm.symm.trans hm')
          exact ⟨rfl, rfl, rfl⟩
  | argument hp hi hm =>
      cases ht' with
      | argument hp' hi' hm' =>
          obtain rfl := Option.some.inj (hp.symm.trans hp')
          obtain rfl := Option.some.inj (hi.symm.trans hi')
          obtain rfl := Option.some.inj (hm.symm.trans hm')
          exact ⟨rfl, rfl, rfl⟩

/-- A rule for an input is settled in the slot of the input, with the value that it resolves
    to there. -/
theorem DefaultRule.settle_eq_ok_iff (hd : tree.Distinct)
    (ht : tree.Takes slot program instruction of) {rule : DefaultRule}
    (htarget : rule.target = of.input.pathIn program.name instruction.name)
    {stored : Slot × DefaultValue} : rule.settle (Index.of tree) = .ok stored ↔
      stored.1 = slot ∧ rule.resolve (Index.of tree) instruction of = .ok stored.2 := by
  obtain ⟨found, value⟩ := stored
  constructor
  · intro h
    obtain ⟨node, hheld⟩ := holds_of_settle h
    obtain ⟨_, hholds⟩ := ht.holds
    obtain rfl := hd.slot_unique hheld hholds htarget
    obtain ⟨_, _, _, ht', -, hresolve⟩ := settle_eq_ok hd h
    obtain ⟨-, rfl, rfl⟩ := ht.unique ht'
    exact ⟨rfl, hresolve⟩
  · rintro ⟨rfl, h⟩
    exact settle_of_takes hd ht htarget h

end Targets

/-! ## The rule for an address -/

section Addresses

variable {tree next : Tree} {slot : Slot} {program : Program} {instruction : Instruction}
  {of : InputTarget} {owner : String} {given : List SeedBinding}

/-- Where every seed has an input, there are bindings for all of them. -/
theorem Program.Derives.exists_binds {recipe : List Seed}
    (h : program.Derives instruction of owner given recipe) :
    ∃ bound, instruction.Binds given recipe bound := by
  refine exists_forall₂ fun seed hseed => ?_
  obtain ⟨input, hinput, -⟩ := h.supplied seed hseed
  exact ⟨⟨seed, input⟩, rfl, hinput⟩

/-- **WHAT A RULE FOR AN ADDRESS STORES**: on an input that can hold an address it is settled
    exactly with the bindings of a recipe that it can be derived from. -/
theorem DefaultRule.settle_address (hd : tree.Distinct)
    (ht : tree.Takes slot program instruction of) (haddress : of.holdsAddress = true)
    {stored : Slot × DefaultValue} :
    (address program instruction of owner given).settle (Index.of tree) = .ok stored ↔
      ∃ recipe bound, program.Derives instruction of owner given recipe
        ∧ instruction.Binds given recipe bound ∧ stored = (slot, .pda owner bound) := by
  obtain ⟨p, -, hp, -⟩ := ht.place
  have hprogram := of.input.programName?_pathIn program.name instruction.name
  refine (settle_eq_ok_iff hd ht rfl).trans ?_
  constructor
  · rintro ⟨hslot, h⟩
    obtain ⟨bound, hbound, h⟩ := bind_eq_ok.mp h
    obtain ⟨-, j, account, hj, hname, hseeds, hknown, hbound⟩ :=
      (bindSeeds_eq_ok_iff hd hp hprogram).mp hbound
    obtain ⟨recipe, hrecipe⟩ := Option.isSome_iff_exists.mp hseeds
    have hinputs : account.seedInputs = recipe.filterMap Seed.variable? := by
      rw [Account.seedInputs, hrecipe]
      rfl
    rw [hinputs] at hknown hbound
    refine ⟨recipe, bound, ⟨⟨account, List.mem_of_getElem? hj, hname, hrecipe⟩, hknown, ?_⟩, ?_,
      Prod.ext hslot (pure_eq_ok.mp h).symm⟩
    · refine List.forall_mem_map.mpr fun seed hseed => ?_
      obtain ⟨binding, -, hbind, hcheck⟩ := exists_of_forall₂_left hbound hseed
      exact ⟨binding.value, (bindSeed_eq_ok_iff.mp hbind).2, checkBinding_eq_ok.mp hcheck⟩
    · exact List.forall₂_map_left_iff.mpr (hbound.imp fun _ _ h => bindSeed_eq_ok_iff.mp h.1)
  · rintro ⟨recipe, bound, ⟨⟨account, hmem, hname, hrecipe⟩, hknown, hsupplied⟩, hbinds, rfl⟩
    obtain ⟨j, hj⟩ := List.mem_iff_getElem?.mp hmem
    have hinputs : account.seedInputs = recipe.filterMap Seed.variable? := by
      rw [Account.seedInputs, hrecipe]
      rfl
    refine ⟨rfl, bind_eq_ok.mpr ⟨bound, ?_, rfl⟩⟩
    refine (bindSeeds_eq_ok_iff hd hp hprogram).mpr ⟨haddress, j, account, hj, hname, ?_, ?_, ?_⟩
    · rw [hrecipe]
      rfl
    · rw [hinputs]
      exact hknown
    · rw [hinputs]
      have hseeds := List.forall₂_map_left_iff.mp hbinds
      refine ((List.forall₂_and_left _ _).mpr ⟨fun _ hseed => hseed, hseeds⟩).imp ?_
      rintro seed binding ⟨hseed, hname, hsupplies⟩
      -- the input that supplies the seed is the one that is known to be readable
      obtain ⟨input, hinput, hreadable⟩ := hsupplied seed.name (List.mem_map_of_mem hseed)
      rw [hinput.unique hsupplies] at hreadable
      exact ⟨bindSeed_eq_ok_iff.mpr ⟨hname, hsupplies⟩, checkBinding_eq_ok.mpr hreadable⟩

/-- A single rule applies when it is settled, and stores what it is settled with. -/
theorem SetDefaults.apply_single_eq_ok {rule : DefaultRule} :
    SetDefaults.apply ⟨[rule]⟩ (Index.of tree) = .ok next ↔
      ∃ stored, rule.settle (Index.of tree) = .ok stored
        ∧ next = tree.setDefault stored.1 stored.2 := by
  refine SetDefaults.apply_eq_ok_iff.trans ?_
  constructor
  · rintro ⟨all, hall, rfl⟩
    cases forall₂_of_mapM_eq_ok hall with
    | cons hsettle hrest =>
        cases hrest
        exact ⟨_, hsettle, rfl⟩
  · rintro ⟨stored, hsettle, rfl⟩
    exact ⟨[stored], mapM_eq_ok_of_forall₂ (.cons hsettle .nil), rfl⟩

/-- **ADDRESSES AS DEFAULTS**: where names are distinct, a rule for the address of an account
    at an input that can hold one applies exactly when the account has a recipe in the program
    of the input, every given binding is for a variable seed of it, and every variable seed is
    supplied by an input that may be read there.  The default of the input is then that
    address, with one binding for each variable seed in the order of the recipe, and nothing
    else is changed. -/
theorem SetDefaults.apply_address (hd : tree.Distinct)
    (ht : tree.Takes slot program instruction of) (haddress : of.holdsAddress = true)
    (owner : String) (given : List SeedBinding) :
    ((∃ next, SetDefaults.apply ⟨[.address program instruction of owner given]⟩ (Index.of tree)
          = .ok next)
        ↔ ∃ recipe, program.Derives instruction of owner given recipe)
      ∧ ∀ next, SetDefaults.apply ⟨[.address program instruction of owner given]⟩ (Index.of tree)
          = .ok next →
        ∃ recipe bound, program.Derives instruction of owner given recipe
          ∧ instruction.Binds given recipe bound
          ∧ next.defaultAt? slot = some (.pda owner bound)
          ∧ next = tree.setDefault slot (.pda owner bound) := by
  have happly : ∀ next,
      SetDefaults.apply ⟨[.address program instruction of owner given]⟩ (Index.of tree) = .ok next ↔
        ∃ recipe bound, program.Derives instruction of owner given recipe
          ∧ instruction.Binds given recipe bound
          ∧ next = tree.setDefault slot (.pda owner bound) := by
    intro next
    rw [apply_single_eq_ok]
    simp only [DefaultRule.settle_address hd ht haddress]
    constructor
    · rintro ⟨_, ⟨recipe, bound, hderives, hbinds, rfl⟩, rfl⟩
      exact ⟨recipe, bound, hderives, hbinds, rfl⟩
    · rintro ⟨recipe, bound, hderives, hbinds, rfl⟩
      exact ⟨_, ⟨recipe, bound, hderives, hbinds, rfl⟩, rfl⟩
  constructor
  · constructor
    · rintro ⟨next, h⟩
      obtain ⟨recipe, -, hderives, -⟩ := (happly next).mp h
      exact ⟨recipe, hderives⟩
    · rintro ⟨recipe, hderives⟩
      obtain ⟨bound, hbinds⟩ := hderives.exists_binds
      exact ⟨_, (happly _).mpr ⟨recipe, bound, hderives, hbinds, rfl⟩⟩
  · intro next h
    obtain ⟨recipe, bound, hderives, hbinds, rfl⟩ := (happly next).mp h
    have hsettle := (DefaultRule.settle_address hd ht haddress).mpr
      ⟨recipe, bound, hderives, hbinds, rfl⟩
    exact ⟨recipe, bound, hderives, hbinds,
      Tree.defaultAt?_setDefault_self (settle_accepted hd hsettle), rfl⟩

end Addresses

/-- A recipe for the vault with a seed that an account and an argument share their name with,
    and a seed that an argument has the name of. -/
def bankRecipe : SetSeeds := ⟨.account "bank" "Vault", [.constant (.utf8 "vault"),
  .variable ⟨"payer", .publicKey, []⟩, .variable ⟨"side", .publicKey, []⟩]⟩

/-- The bank with that recipe. -/
def seededBank : Tree := bankTree.modifyAccount 0 0 ({ · with seeds := some bankRecipe.seeds })

/-- The instruction of the bank whose inputs get defaults. -/
def openBank : Instruction := seededBank.programs[0].instructions[0]

theorem SetDefaults.apply_address_bank : seededBank.Distinct
    ∧ seededBank.Takes (.instructionAccount 0 0 0) seededBank.programs[0] openBank
        (.account openBank.accounts[0])
    ∧ ∃ recipe next, seededBank.programs[0].Derives openBank (.account openBank.accounts[0])
          "Vault" [⟨"side", .argument "payer"⟩] recipe
        ∧ SetDefaults.apply ⟨[.address seededBank.programs[0] openBank
            (.account openBank.accounts[0]) "Vault" [⟨"side", .argument "payer"⟩]]⟩
            (Index.of seededBank) = .ok next
        ∧ next.defaultAt? (.instructionAccount 0 0 0)
            = some (.pda "Vault" [⟨"payer", .account "payer"⟩, ⟨"side", .argument "payer"⟩]) := by
  have hseeds : bankRecipe.apply (Index.of bankTree) = .ok seededBank := by decide +kernel
  have hreachable : seededBank.Reachable :=
    @Tree.Reachable.step bankTree seededBank (.setSeeds bankRecipe) (.load load_bank) hseeds
  have hdistinct : seededBank.Distinct := hreachable.wellFormed.distinct
  have htakes : seededBank.Takes (.instructionAccount 0 0 0) seededBank.programs[0] openBank
      (.account openBank.accounts[0]) := .account rfl rfl rfl
  obtain ⟨next, hnext, hdefault⟩ : ∃ next,
      SetDefaults.apply ⟨[.address seededBank.programs[0] openBank
          (.account openBank.accounts[0]) "Vault" [⟨"side", .argument "payer"⟩]]⟩
          (Index.of seededBank) = .ok next
        ∧ decide (next.defaultAt? (.instructionAccount 0 0 0)
            = some (.pda "Vault" [⟨"payer", .account "payer"⟩, ⟨"side", .argument "payer"⟩]))
          = true := exists_ok_of_any (by decide +kernel)
  obtain ⟨recipe, hderives⟩ :=
    (SetDefaults.apply_address hdistinct htakes rfl _ _).1.mp ⟨next, hnext⟩
  exact ⟨hdistinct, htakes, recipe, next, hderives, hnext, of_decide_eq_true hdefault⟩

end Bindery
