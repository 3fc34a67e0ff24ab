import Bindery.Proofs.Defaults.Run
import Bindery.Proofs.Reachable

/-! # Recipes and bindings — what they satisfy, and what changes them

    Seeds become the recipe of an account after a check, which they pass when
    they are a `ProperRecipe` (`Seed.check_eq_ok_iff`).  An operation leaves the
    recipe in a place as it is unless it sets seeds for the account in that
    place (`recipeAt?_of_apply`), and what it sets there has been checked, so
    every recipe of a reachable tree is proper (`Tree.Reachable.properRecipe`).

    A rule for a derived address stores bindings for the variable seeds of the
    recipe that the account has then, each once and in order (`settle_binds`).
    A later step either stores another default in the slot or keeps the seeds
    that are bound and the place of the account, under whatever name
    (`derived_of_apply`).  The recipe in that place is another matter: bindings
    are not made again when it is replaced. -/

namespace Bindery

/-! ## The check of seeds -/

/-- The names of the variable seeds of a recipe, in order. -/
def Seed.inputNames (recipe : List Seed) : List String :=
  (recipe.filterMap Seed.variable?).map (·.name)

/-- A seed by itself: a constant that is not too long, or a variable with a name. -/
def Seed.Proper : Seed → Prop
  | .constant value => (value.bytes?.getD []).length ≤ maxSeedLength
  | .variable seed => seed.name ≠ ""

/-- What a recipe satisfies: a bounded number of proper seeds, and a name of its own for
    each variable. -/
structure ProperRecipe (recipe : List Seed) : Prop where
  nonempty : recipe ≠ []
  bounded : recipe.length ≤ maxSeeds
  proper : ∀ seed ∈ recipe, seed.Proper
  apart : (Seed.inputNames recipe).Nodup

namespace Seed

/-- Seeds are checked one by one, variables against those that were seen. -/
theorem checkEach_eq_ok : ∀ {recipe : List Seed} {names : List String},
    checkEach names recipe = .ok () ↔
      (∀ seed ∈ recipe, seed.Proper) ∧ RepeatsNothing names (inputNames recipe) := by
  intro recipe
  induction recipe with
  | nil =>
      intro names
      exact ⟨fun _ => ⟨fun _ h => (nomatch h), repeatsNothing_nil⟩, fun _ => rfl⟩
  | cons seed recipe ih =>
      intro names
      rw [List.forall_mem_cons]
      cases seed with
      | constant value =>
          refine check_eq_ok.trans ?_
          rw [ih, not_lt, and_assoc]
          rfl
      | «variable» seed =>
          have hnames : inputNames (.variable seed :: recipe) = seed.name :: inputNames recipe := rfl
          refine check_eq_ok.trans ?_
          rw [hnames, repeatsNothing_cons]
          constructor
          · rintro ⟨hnamed, h⟩
            obtain ⟨hnew, h⟩ := check_eq_ok.mp h
            obtain ⟨hproper, hrest⟩ := ih.mp h
            exact ⟨⟨hnamed, hproper⟩, hnew, hrest⟩
          · rintro ⟨⟨hnamed, hproper⟩, hnew, hrest⟩
            exact ⟨hnamed, check_eq_ok.mpr ⟨hnew, ih.mpr ⟨hproper, hrest⟩⟩⟩

/-- **EXACT CHECK**: the seeds that can become a recipe are the proper recipes. -/
theorem check_eq_ok_iff {recipe : List Seed} : check recipe = .ok () ↔ ProperRecipe recipe := by
  unfold check
  constructor
  · intro h
    obtain ⟨hnonempty, h⟩ := check_eq_ok.mp h
    obtain ⟨hbounded, h⟩ := check_eq_ok.mp h
    obtain ⟨hproper, hnames⟩ := checkEach_eq_ok.mp h
    exact ⟨hnonempty, not_lt.mp hbounded, hproper, repeatsNothing_iff_nodup.mp hnames⟩
  · rintro ⟨hnonempty, hbounded, hproper, hnames⟩
    refine check_eq_ok.mpr ⟨hnonempty, check_eq_ok.mpr ⟨not_lt.mpr hbounded, ?_⟩⟩
    exact checkEach_eq_ok.mpr ⟨hproper, repeatsNothing_iff_nodup.mpr hnames⟩

end Seed

/-! ## The recipe in a place -/

namespace Tree

variable {tree next : Tree} {p j : Nat}

/-- The account in a place. -/
def accountAt? (tree : Tree) (p j : Nat) : Option Account :=
  tree.programs[p]?.bind (·.accounts[j]?)

/-- The recipe of the account in a place, if it has one. -/
def recipeAt? (tree : Tree) (p j : Nat) : Option (List Seed) :=
  (tree.accountAt? p j).bind (·.seeds)

/-- What is attached to an account is seen or not in its place. -/
theorem accountAt?_keeping (kept : Attachment → Bool) (tree : Tree) :
    (tree.keeping kept).accountAt? p j = (tree.accountAt? p j).map (·.keeping kept) :=
  member_map Program.accounts (fun _ => rfl) tree.programs p j

/-- A change of one account is seen in its place only. -/
theorem accountAt?_modifyAccount {q i : Nat} (change : Account → Account) (tree : Tree) :
    (tree.modifyAccount q i change).accountAt? p j
      = (tree.accountAt? p j).map (if q = p ∧ i = j then change else id) :=
  member_modify Program.accounts (fun _ => rfl) tree.programs p j

/-- A substitution leaves recipes as they are. -/
theorem recipeAt?_substitute (names : NodePath → String) (tree : Tree) :
    (tree.substitute names).recipeAt? p j = tree.recipeAt? p j := by
  unfold recipeAt? accountAt?
  simp only [substitute, List.getElem?_map, Option.bind_map, Option.bind_assoc]
  refine Option.bind_congr fun program _ => ?_
  have haccount : (program.substitute names).accounts[j]? = program.accounts[j]?.map _ :=
    List.getElem?_map ..
  show ((program.substitute names).accounts[j]?).bind (·.seeds) = _
  rw [haccount]
  exact Option.bind_map ..

/-- Trees that are the same up to other attachments have the same recipes. -/
theorem recipeAt?_of_keeping_eq {kept : Attachment → Bool} (hkept : kept .recipe = true)
    (h : next.keeping kept = tree.keeping kept) : next.recipeAt? p j = tree.recipeAt? p j := by
  have hview : ∀ tree : Tree, (tree.keeping kept).recipeAt? p j = tree.recipeAt? p j := by
    intro tree
    unfold recipeAt?
    rw [accountAt?_keeping, Option.bind_map]
    refine Option.bind_congr fun account _ => ?_
    exact if_pos hkept
  rw [← hview next, h, hview tree]

end Tree

/-! ## Operations and recipes -/

/-- An operation sets the recipe of the account in a place. -/
def Operation.SetsRecipe (operation : Operation) (tree : Tree) (p j : Nat) (recipe : List Seed) :
    Prop :=
  ∃ op, operation = .setSeeds op ∧ op.seeds = recipe
    ∧ ∃ node, tree.Holds (.account p j) op.account node

section Operations

variable {tree next : Tree} {operation : Operation} {p j : Nat}

/-- **WHO SETS RECIPES**: a step sets the recipe in a place, to seeds that are proper, or
    leaves it as it is. -/
theorem recipeAt?_of_apply (hd : tree.Distinct)
    (h : operation.apply (Index.of tree) = .ok next) :
    (∃ recipe, operation.SetsRecipe tree p j recipe ∧ ProperRecipe recipe
        ∧ next.recipeAt? p j = some recipe)
      ∨ (∀ recipe, ¬ operation.SetsRecipe tree p j recipe)
        ∧ next.recipeAt? p j = tree.recipeAt? p j := by
  cases operation with
  | rename op =>
      refine .inr ⟨fun _ ⟨_, hop, _⟩ => (nomatch hop), ?_⟩
      obtain ⟨-, rfl⟩ := Rename.apply_eq_ok hd h
      exact tree.recipeAt?_substitute op.nameOf
  | assignDiscriminators op =>
      refine .inr ⟨fun _ ⟨_, hop, _⟩ => (nomatch hop), ?_⟩
      exact Tree.recipeAt?_of_keeping_eq rfl (AssignDiscriminators.frame h)
  | setDefaults op =>
      refine .inr ⟨fun _ ⟨_, hop, _⟩ => (nomatch hop), ?_⟩
      exact Tree.recipeAt?_of_keeping_eq rfl (SetDefaults.frame h)
  | setSeeds op =>
      obtain ⟨q, i, program, account, hq, hi, hpath, hcheck, rfl⟩ := SetSeeds.apply_eq_ok h
      have hheld : tree.Holds (.account q i) op.account (.account account) :=
        hpath ▸ .account hq hi
      by_cases hplace : q = p ∧ i = j
      · obtain ⟨rfl, rfl⟩ := hplace
        refine .inl ⟨op.seeds, ⟨op, rfl, rfl, _, hheld⟩, Seed.check_eq_ok_iff.mp hcheck, ?_⟩
        have hplaced : tree.accountAt? q i = some account :=
          Option.bind_eq_some_iff.mpr ⟨program, hq, hi⟩
        rw [Tree.recipeAt?, Tree.accountAt?_modifyAccount, if_pos ⟨rfl, rfl⟩, hplaced]
        rfl
      · refine .inr ⟨?_, ?_⟩
        · rintro recipe ⟨_, hop, -, node, hheld'⟩
          obtain rfl := Operation.setSeeds.inj hop
          obtain ⟨rfl, rfl⟩ := Slot.account.inj (hd.slot_unique hheld hheld' rfl)
          exact hplace ⟨rfl, rfl⟩
        · rw [Tree.recipeAt?, Tree.accountAt?_modifyAccount, if_neg hplace, Option.map_id]
          rfl

/-- Loaded trees have no recipes. -/
theorem recipeAt?_of_load {documents : List Document} (h : Tree.load documents = .ok tree)
    (p j : Nat) : tree.recipeAt? p j = none := by
  refine Option.bind_eq_none_iff.mpr fun account haccount => ?_
  obtain ⟨program, hp, hj⟩ := Option.bind_eq_some_iff.mp haccount
  have hfresh := ((load_eq_ok h).1.members program (List.mem_of_getElem? hp)).2.2
  exact hfresh.recipes account (List.mem_of_getElem? hj)

/-- **RECIPES ARE PROPER**: every recipe of a reachable tree is. -/
theorem Tree.Reachable.properRecipe (hr : tree.Reachable) {recipe : List Seed}
    (h : tree.recipeAt? p j = some recipe) : ProperRecipe recipe := by
  induction hr with
  | load hload => exact nomatch (recipeAt?_of_load hload p j).symm.trans h
  | step hr happly ih =>
      rcases recipeAt?_of_apply hr.wellFormed.distinct happly with
        ⟨_, -, hproper, hset⟩ | ⟨-, hsame⟩
      · rw [← Option.some.inj (hset.symm.trans h)]
        exact hproper
      · exact ih (hsame.symm.trans h)

end Operations

end Bindery

/-! ## Bindings -/

namespace Bindery

/-- Bindings for a recipe: for its variable seeds, each once and in order. -/
structure BindsRecipe (bindings : List SeedBinding) (recipe : List Seed) : Prop where
  inOrder : bindings.map (·.seed) = Seed.inputNames recipe
  once : (bindings.map (·.seed)).Nodup

/-- Bindings of the same seeds are for the same recipes. -/
theorem BindsRecipe.congr {bindings bindings' : List SeedBinding} {recipe : List Seed}
    (h : bindings'.map (·.seed) = bindings.map (·.seed)) (hb : BindsRecipe bindings recipe) :
    BindsRecipe bindings' recipe :=
  ⟨h.trans hb.inOrder, h.symm ▸ hb.once⟩

/-- An account has a name in its place, in the program of a slot. -/
structure Tree.Owns (tree : Tree) (slot : Slot) (owner : String) (p j : Nat) : Prop where
  program : slot.program? = some p
  name : (tree.accountAt? p j).map (·.name) = some owner

/-- An operation sets the default in a slot. -/
def Operation.SetsDefault (operation : Operation) (tree : Tree) (slot : Slot)
    (value : DefaultValue) : Prop :=
  ∃ op, operation = .setDefaults op
    ∧ ∃ rule ∈ op.rules, rule.settle (Index.of tree) = .ok (slot, value)

/-! ## What rules bind -/

section Rules

variable {tree : Tree} {slot : Slot} {owner : String} {bindings : List SeedBinding}

/-- An input sits in a program. -/
theorem Tree.Takes.program {program : Program} {instruction : Instruction} {of : InputTarget}
    (h : tree.Takes slot program instruction of) :
    ∃ p, slot.program? = some p ∧ tree.programs[p]? = some program := by
  cases h with
  | account hp _ _ => exact ⟨_, rfl, hp⟩
  | argument hp _ _ => exact ⟨_, rfl, hp⟩

/-- A derived address is resolved by binding seeds. -/
theorem exists_bindSeeds {index : Index} {rule : DefaultRule} {instruction : Instruction}
    {of : InputTarget} (h : rule.resolve index instruction of = .ok (.pda owner bindings)) :
    ∃ given, DefaultRule.bindSeeds index rule.target instruction of owner given
      = .ok bindings := by
  obtain ⟨target, value⟩ := rule
  cases DefaultRule.resolve_eq_ok_iff.mp h with
  | pda hbound => exact ⟨_, hbound⟩

/-- **WHAT A RULE BINDS**: a derived default is stored with bindings for the recipe that the
    account has. -/
theorem settle_binds (hr : tree.Reachable) {rule : DefaultRule}
    (h : rule.settle (Index.of tree) = .ok (slot, .pda owner bindings)) :
    ∃ p j recipe, tree.Owns slot owner p j ∧ tree.recipeAt? p j = some recipe
      ∧ BindsRecipe bindings recipe := by
  have hd := hr.wellFormed.distinct
  obtain ⟨program, instruction, of, htakes, hprogram, hresolved⟩ := DefaultRule.settle_eq_ok hd h
  obtain ⟨p, hslot, hp⟩ := htakes.program
  obtain ⟨given, hbound⟩ := exists_bindSeeds hresolved
  obtain ⟨-, j, account, hj, rfl, hseeds, -, hbound⟩ :=
    (DefaultRule.bindSeeds_eq_ok_iff hd hp hprogram).mp hbound
  obtain ⟨recipe, hrecipe⟩ := Option.isSome_iff_exists.mp hseeds
  have haccount : tree.accountAt? p j = some account :=
    Option.bind_eq_some_iff.mpr ⟨program, hp, hj⟩
  have hplaced : tree.recipeAt? p j = some recipe :=
    Option.bind_eq_some_iff.mpr ⟨account, haccount, hrecipe⟩
  have hinputs : account.seedInputs.map (·.name) = Seed.inputNames recipe := by
    rw [Account.seedInputs, hrecipe]
    rfl
  have hnames : bindings.map (·.seed) = account.seedInputs.map (·.name) :=
    map_eq_map_iff_forall₂.mpr
      (hbound.flip.imp fun _ _ hbinding => DefaultRule.seed_of_bindSeed hbinding.1)
  refine ⟨p, j, recipe, ⟨hslot, ?_⟩, hplaced, hnames.trans hinputs, ?_⟩
  · rw [haccount]
    rfl
  · rw [hnames, hinputs]
    exact (hr.properRecipe hplaced).apart

end Rules

/-! ## The default in a slot -/

namespace Tree

variable {tree next : Tree} {p i : Nat} {slot : Slot} {value : DefaultValue}

/-- The instruction in a place. -/
def instructionAt? (tree : Tree) (p i : Nat) : Option Instruction :=
  tree.programs[p]?.bind (·.instructions[i]?)

/-- The default of the input in a slot, if it has one. -/
def defaultAt? (tree : Tree) : Slot → Option DefaultValue
  | .instructionAccount p i m =>
      (tree.instructionAt? p i).bind fun instruction =>
        instruction.accounts[m]?.bind (·.defaultValue)
  | .instructionArgument p i m =>
      (tree.instructionAt? p i).bind fun instruction =>
        instruction.arguments[m]?.bind (·.defaultValue)
  | _ => none

/-- What is attached to an instruction and its inputs is seen or not in its place. -/
theorem instructionAt?_keeping (kept : Attachment → Bool) (tree : Tree) :
    (tree.keeping kept).instructionAt? p i = (tree.instructionAt? p i).map (·.keeping kept) :=
  member_map Program.instructions (fun _ => rfl) tree.programs p i

/-- Trees that are the same up to other attachments have the same defaults. -/
theorem defaultAt?_of_keeping_eq {kept : Attachment → Bool} (hkept : kept .default = true)
    (h : next.keeping kept = tree.keeping kept) :
    next.defaultAt? slot = tree.defaultAt? slot := by
  have hview : ∀ tree : Tree, (tree.keeping kept).defaultAt? slot = tree.defaultAt? slot := by
    intro tree
    cases slot with
    | instructionAccount p i m =>
        simp only [defaultAt?, instructionAt?_keeping, Option.bind_map]
        refine Option.bind_congr fun instruction _ => ?_
        simp only [Function.comp_apply, Instruction.keeping, List.getElem?_map, Option.bind_map]
        refine Option.bind_congr fun a _ => ?_
        exact if_pos hkept
    | instructionArgument p i m =>
        simp only [defaultAt?, instructionAt?_keeping, Option.bind_map]
        refine Option.bind_congr fun instruction _ => ?_
        simp only [Function.comp_apply, Instruction.keeping, List.getElem?_map, Option.bind_map]
        refine Option.bind_congr fun a _ => ?_
        exact if_pos hkept
    | _ => rfl
  rw [← hview next, h, hview tree]

/-- An instruction after a substitution is the substituted one. -/
theorem exists_of_instructionAt?_substitute {names : NodePath → String}
    {instruction : Instruction}
    (h : (tree.substitute names).instructionAt? p i = some instruction) :
    ∃ program before, tree.programs[p]? = some program
      ∧ tree.instructionAt? p i = some before
      ∧ instruction = before.substitute names program := by
  obtain ⟨_, hafter, hi⟩ := Option.bind_eq_some_iff.mp h
  obtain ⟨program, hp, rfl⟩ := getElem?_map_eq_some_iff.mp hafter
  obtain ⟨before, hbefore, rfl⟩ := getElem?_map_eq_some_iff.mp hi
  exact ⟨program, before, hp, Option.bind_eq_some_iff.mpr ⟨program, hp, hbefore⟩, rfl⟩

/-- A default after a substitution is a substituted one. -/
theorem exists_of_defaultAt?_substitute {names : NodePath → String}
    (h : (tree.substitute names).defaultAt? slot = some value) :
    ∃ p program caller before, slot.program? = some p ∧ tree.programs[p]? = some program
      ∧ tree.defaultAt? slot = some before
      ∧ value = before.substitute names program.name caller := by
  cases slot with
  | instructionAccount p i m =>
      obtain ⟨_, hafter, h⟩ := Option.bind_eq_some_iff.mp h
      obtain ⟨program, instruction, hp, hi, rfl⟩ := exists_of_instructionAt?_substitute hafter
      obtain ⟨_, hsubstituted, h⟩ := Option.bind_eq_some_iff.mp h
      obtain ⟨a, hm, rfl⟩ := getElem?_map_eq_some_iff.mp hsubstituted
      obtain ⟨before, hbefore, rfl⟩ := Option.map_eq_some_iff.mp h
      exact ⟨p, program, instruction.name, before, rfl, hp,
        Option.bind_eq_some_iff.mpr ⟨instruction, hi,
          Option.bind_eq_some_iff.mpr ⟨a, hm, hbefore⟩⟩, rfl⟩
  | instructionArgument p i m =>
      obtain ⟨_, hafter, h⟩ := Option.bind_eq_some_iff.mp h
      obtain ⟨program, instruction, hp, hi, rfl⟩ := exists_of_instructionAt?_substitute hafter
      obtain ⟨_, hsubstituted, h⟩ := Option.bind_eq_some_iff.mp h
      obtain ⟨a, hm, rfl⟩ := getElem?_map_eq_some_iff.mp hsubstituted
      obtain ⟨before, hbefore, rfl⟩ := Option.map_eq_some_iff.mp h
      exact ⟨p, program, instruction.name, before, rfl, hp,
        Option.bind_eq_some_iff.mpr ⟨instruction, hi,
          Option.bind_eq_some_iff.mpr ⟨a, hm, hbefore⟩⟩, rfl⟩
  | _ => exact nomatch h

/-- A change of one instruction is seen in its place only. -/
theorem instructionAt?_modifyInstruction {q j : Nat} (change : Instruction → Instruction)
    (tree : Tree) :
    (tree.modifyInstruction q j change).instructionAt? p i
      = (tree.instructionAt? p i).map (if q = p ∧ j = i then change else id) :=
  member_modify Program.instructions (fun _ => rfl) tree.programs p i

/-- A default that is stored in the slot of an input is there. -/
theorem defaultAt?_setDefault_self (ha : tree.Accepts value slot) :
    (tree.setDefault slot value).defaultAt? slot = some value := by
  cases ha with
  | @account p i m program instruction a hp hi hm hvalue =>
      have hplaced : tree.instructionAt? p i = some instruction :=
        Option.bind_eq_some_iff.mpr ⟨program, hp, hi⟩
      simp only [setDefault, defaultAt?, instructionAt?_modifyInstruction, hplaced, and_self,
        if_true, Option.map_some, Option.bind_some, getElem?_modify_eq_map, hm]
  | @argument p i m program instruction a hp hi hm hvalue =>
      have hplaced : tree.instructionAt? p i = some instruction :=
        Option.bind_eq_some_iff.mpr ⟨program, hp, hi⟩
      simp only [setDefault, defaultAt?, instructionAt?_modifyInstruction, hplaced, and_self,
        if_true, Option.map_some, Option.bind_some, getElem?_modify_eq_map, hm]

/-- What a change of an instruction keeps as it reads there, it keeps in the tree. -/
theorem bind_instructionAt?_modifyInstruction {α : Type} {q j : Nat}
    {change : Instruction → Instruction} {read : Instruction → Option α}
    (h : q = p ∧ j = i → ∀ instruction, read (change instruction) = read instruction) :
    ((tree.modifyInstruction q j change).instructionAt? p i).bind read
      = (tree.instructionAt? p i).bind read := by
  rw [instructionAt?_modifyInstruction, Option.bind_map]
  refine Option.bind_congr fun instruction _ => ?_
  rw [Function.comp_apply]
  by_cases hplace : q = p ∧ j = i
  · rw [if_pos hplace, h hplace]
  · rw [if_neg hplace, id]

/-- A default that is stored in a slot leaves other slots alone. -/
theorem defaultAt?_setDefault_of_ne {slot' : Slot} (hne : slot ≠ slot') :
    (tree.setDefault slot value).defaultAt? slot' = tree.defaultAt? slot' := by
  cases slot with
  | instructionAccount p i m =>
      cases slot' with
      | instructionAccount q j n =>
          refine bind_instructionAt?_modifyInstruction fun ⟨hp, hi⟩ instruction => ?_
          have hmember : m ≠ n := fun hm => hne (by rw [hp, hi, hm])
          show ((instruction.accounts.modify m _)[n]?).bind _ = _
          rw [List.getElem?_modify_ne _ _ hmember]
      | instructionArgument q j n =>
          exact bind_instructionAt?_modifyInstruction fun _ _ => rfl
      | _ => rfl
  | instructionArgument p i m =>
      cases slot' with
      | instructionAccount q j n =>
          exact bind_instructionAt?_modifyInstruction fun _ _ => rfl
      | instructionArgument q j n =>
          refine bind_instructionAt?_modifyInstruction fun ⟨hp, hi⟩ instruction => ?_
          have hmember : m ≠ n := fun hm => hne (by rw [hp, hi, hm])
          show ((instruction.arguments.modify m _)[n]?).bind _ = _
          rw [List.getElem?_modify_ne _ _ hmember]
      | _ => rfl
  | _ => rfl

end Tree

/-! ## Operations and defaults -/

section Operations

variable {tree next : Tree} {slot : Slot}

/-- **THE LAST RULE COUNTS**: after rules are applied, a slot has the default of a rule for
    it, or what it had when there is none. -/
theorem SetDefaults.defaultAt?_of_apply {operation : SetDefaults} (hd : tree.Distinct)
    (h : operation.apply (Index.of tree) = .ok next) :
    (∃ value, (∃ rule ∈ operation.rules, rule.settle (Index.of tree) = .ok (slot, value))
        ∧ next.defaultAt? slot = some value)
      ∨ (∀ rule ∈ operation.rules, ∀ value, rule.settle (Index.of tree) ≠ .ok (slot, value))
        ∧ next.defaultAt? slot = tree.defaultAt? slot := by
  -- every rule is settled in the tree as it was; `t` is the tree that the rules so far gave
  have hwalk : ∀ (rules : List DefaultRule) (t : Tree),
      tree.keeping (Attachment.allBut .default) = t.keeping (Attachment.allBut .default) →
      rules.foldlM (fun t rule => rule.settle (Index.of tree) >>= fun stored =>
        pure (t.setDefault stored.1 stored.2)) t = .ok next →
      (∃ value, (∃ rule ∈ rules, rule.settle (Index.of tree) = .ok (slot, value))
          ∧ next.defaultAt? slot = some value)
        ∨ (∀ rule ∈ rules, ∀ value, rule.settle (Index.of tree) ≠ .ok (slot, value))
          ∧ next.defaultAt? slot = t.defaultAt? slot := by
    intro rules
    induction rules with
    | nil =>
        intro t _ h
        rw [pure_eq_ok.mp h]
        exact .inr ⟨fun _ hrule => absurd hrule List.not_mem_nil, rfl⟩
    | cons rule rules ih =>
        intro t hview h
        rw [List.foldlM_cons] at h
        obtain ⟨t', hstep, h⟩ := bind_eq_ok.mp h
        obtain ⟨⟨stored, value⟩, hsettle, hstep⟩ := bind_eq_ok.mp hstep
        obtain rfl := pure_eq_ok.mp hstep
        have hview' := hview.trans (Tree.setDefault_frame stored value).symm
        rcases ih _ hview' h with ⟨later, ⟨other, hother, hlater⟩, hdefault⟩ | ⟨hnone, hsame⟩
        · exact .inl ⟨later, ⟨other, List.mem_cons_of_mem _ hother, hlater⟩, hdefault⟩
        · by_cases hslot : stored = slot
          · subst hslot
            have haccepted := (settle_accepted hd hsettle).congr rfl hview
            refine .inl ⟨value, ⟨rule, List.mem_cons_self, hsettle⟩, ?_⟩
            rw [hsame, Tree.defaultAt?_setDefault_self haccepted]
          · refine .inr ⟨List.forall_mem_cons.mpr ⟨fun other hsettle' => ?_, hnone⟩, ?_⟩
            · exact hslot (Prod.mk.inj (Except.ok.inj (hsettle.symm.trans hsettle'))).1
            · rw [hsame, Tree.defaultAt?_setDefault_of_ne hslot]
  exact hwalk operation.rules tree rfl h

/-- Trees that are the same up to attachments have accounts of the same names in the same
    places. -/
theorem Tree.Owns.of_keeping_eq {kept : Attachment → Bool} {owner : String} {p j : Nat}
    (h : next.keeping kept = tree.keeping kept) (ho : tree.Owns slot owner p j) :
    next.Owns slot owner p j := by
  have hview : ∀ tree : Tree, ((tree.keeping kept).accountAt? p j).map (·.name)
      = (tree.accountAt? p j).map (·.name) := by
    intro tree
    rw [Tree.accountAt?_keeping, Option.map_map]
    rfl
  refine ⟨ho.program, ?_⟩
  rw [← hview next, h, hview tree, ho.name]

/-- An account has its new name in its place after a substitution. -/
theorem Tree.Owns.substitute {names : NodePath → String} {program : Program} {owner : String}
    {p j : Nat} (hp : tree.programs[p]? = some program) (ho : tree.Owns slot owner p j) :
    (tree.substitute names).Owns slot (names (.account program.name owner)) p j := by
  obtain ⟨account, haccount, rfl⟩ := Option.map_eq_some_iff.mp ho.name
  obtain ⟨program', hp', hj⟩ := Option.bind_eq_some_iff.mp haccount
  obtain rfl := Option.some.inj (hp.symm.trans hp')
  refine ⟨ho.program, ?_⟩
  simp only [Tree.accountAt?, Tree.substitute, List.getElem?_map, hp, Option.map_some,
    Option.bind_some, Program.substitute, hj]

/-- **WHERE DERIVED DEFAULTS COME FROM**: after a step, a derived default has just been
    stored, with bindings for the recipe that the account has; or none was stored in its slot,
    and it was there with bindings of the same seeds and an account in the same place. -/
theorem derived_of_apply {operation : Operation} (hr : tree.Reachable)
    (h : operation.apply (Index.of tree) = .ok next) {owner : String}
    {bindings : List SeedBinding} (hdefault : next.defaultAt? slot = some (.pda owner bindings)) :
    (operation.SetsDefault tree slot (.pda owner bindings)
        ∧ ∃ p j recipe, next.Owns slot owner p j ∧ tree.recipeAt? p j = some recipe
          ∧ next.recipeAt? p j = tree.recipeAt? p j ∧ BindsRecipe bindings recipe)
      ∨ (∀ value, ¬ operation.SetsDefault tree slot value)
        ∧ ∃ owner' bindings', tree.defaultAt? slot = some (.pda owner' bindings')
          ∧ bindings.map (·.seed) = bindings'.map (·.seed)
          ∧ ∀ p j, tree.Owns slot owner' p j → next.Owns slot owner p j := by
  have hd := hr.wellFormed.distinct
  cases operation with
  | rename op =>
      refine .inr ⟨fun _ ⟨_, hop, _⟩ => (nomatch hop), ?_⟩
      obtain ⟨-, rfl⟩ := Rename.apply_eq_ok hd h
      obtain ⟨q, program, caller, before, hslot, hq, hbefore, hvalue⟩ :=
        Tree.exists_of_defaultAt?_substitute hdefault
      cases before with
      | pda owner' bindings' =>
          obtain ⟨rfl, rfl⟩ := DefaultValue.pda.inj hvalue
          refine ⟨owner', bindings', hbefore, List.map_map .., fun p j ho => ?_⟩
          obtain rfl := Option.some.inj (hslot.symm.trans ho.program)
          exact ho.substitute hq
      | _ => exact nomatch hvalue
  | setSeeds op =>
      refine .inr ⟨fun _ ⟨_, hop, _⟩ => (nomatch hop), owner, bindings, ?_, rfl, ?_⟩
      · rw [← hdefault, Tree.defaultAt?_of_keeping_eq rfl (SetSeeds.frame h)]
      · exact fun p j ho => ho.of_keeping_eq (SetSeeds.frame h)
  | assignDiscriminators op =>
      refine .inr ⟨fun _ ⟨_, hop, _⟩ => (nomatch hop), owner, bindings, ?_, rfl, ?_⟩
      · rw [← hdefault, Tree.defaultAt?_of_keeping_eq rfl (AssignDiscriminators.frame h)]
      · exact fun p j ho => ho.of_keeping_eq (AssignDiscriminators.frame h)
  | setDefaults op =>
      have hframe := SetDefaults.frame h
      rcases SetDefaults.defaultAt?_of_apply hd h with ⟨value, hset, hvalue⟩ | ⟨hnone, hsame⟩
      · obtain rfl := Option.some.inj (hvalue.symm.trans hdefault)
        obtain ⟨rule, hrule, hsettle⟩ := hset
        obtain ⟨p, j, recipe, ho, hrecipe, hbinds⟩ := settle_binds hr hsettle
        exact .inl ⟨⟨op, rfl, rule, hrule, hsettle⟩, p, j, recipe, ho.of_keeping_eq hframe,
          hrecipe, Tree.recipeAt?_of_keeping_eq rfl hframe, hbinds⟩
      · refine .inr ⟨?_, owner, bindings, hsame.symm.trans hdefault, rfl,
          fun p j ho => ho.of_keeping_eq hframe⟩
        rintro value ⟨_, hop, rule, hrule, hsettle⟩
        obtain rfl := Operation.setDefaults.inj hop
        exact hnone rule hrule value hsettle

end Operations

end Bindery
