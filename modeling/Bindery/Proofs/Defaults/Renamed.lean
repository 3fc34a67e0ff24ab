import Bindery.Proofs.Defaults.Run
import Bindery.Proofs.Rename.Clash
import Bindery.Proofs.Rename.Simultaneous
import Bindery.Proofs.Views

/-! # Defaults and renames, in either order

    A rule names its target, the inputs its value reads and the account whose
    address it derives; translated through a rename these are the new paths and
    names of the same slots (`DefaultRule.substitute`).  Every check of a rule
    comes out as before on the renamed tree, and what is stored is the
    substituted value (`DefaultRule.settle_substitute`); storing a value and
    then substituting is substituting and then storing it
    (`Tree.setDefault_substitute`).  So rules and a rename commute, provided that
    no seed is left to be bound by its own name: names of seeds are no
    references, and a rename does not follow them
    (`SetDefaults.apply_renamed`). -/

namespace Bindery

/-! ## Translated rules -/

/-- The same default, for an input at a path, with every reference replaced. -/
def DefaultValue.substituteAt (names : NodePath → String) (target : NodePath)
    (value : DefaultValue) : DefaultValue :=
  match target with
  | .instructionAccount program instruction _ | .instructionArgument program instruction _ =>
      value.substitute names program instruction
  | _ => value

/-- The same rule with its target and every reference of its value replaced. -/
def DefaultRule.substitute (names : NodePath → String) (rule : DefaultRule) : DefaultRule where
  target := rule.target.substitute names
  value := rule.value.substituteAt names rule.target

/-- The same operation with all of its rules translated. -/
def SetDefaults.substitute (names : NodePath → String) (operation : SetDefaults) : SetDefaults :=
  ⟨operation.rules.map (·.substitute names)⟩

/-- A rule for a derived address binds every variable seed of the recipe itself, and leaves
    none to be bound by an input of its name. -/
def DefaultRule.BindsSeeds (tree : Tree) (rule : DefaultRule) : Prop :=
  ∀ owner given, rule.value = .pda owner given → ∀ program ∈ tree.programs,
    rule.target.programName? = some program.name → ∀ account ∈ program.accounts,
      account.name = owner → ∀ seed ∈ account.seedInputs, seed.name ∈ given.map (·.seed)

/-! ## Rules are settled as before -/

section Rules

variable {tree : Tree} {operation : Rename} {p i : Nat} {program : Program}
  {instruction : Instruction} {of : InputTarget} {slot : Slot} {rule : DefaultRule}
  {value : DefaultValue}

/-- A renamed target can be left empty when the target can. -/
theorem InputTarget.canBeAbsent_substitute (names : NodePath → String) (of : InputTarget) :
    (of.substitute names program instruction.name).canBeAbsent = of.canBeAbsent := by
  cases of with
  | account a => rfl
  | argument a => exact TypeNode.isOption_mapLinks ..

/-- A literal can stand for a renamed target when it can for the target. -/
theorem Literal.fits_substitute (names : NodePath → String) (of : InputTarget)
    (literal : Literal) :
    literal.fits (of.substitute names program instruction.name) = literal.fits of := by
  cases of with
  | account a => rfl
  | argument a =>
      show literal.fitsType (a.type.mapLinks _).unwrapOption = _
      rw [TypeNode.unwrapOption_mapLinks, Literal.fitsType_mapLinks]
      rfl

namespace DefaultRule

/-- A seed that is bound explicitly is bound to what its input has become. -/
theorem bindSeed_substitute (names : NodePath → String) {target target' : NodePath}
    {given : List SeedBinding} {seed : VariableSeed} {binding : SeedBinding}
    {owner caller : String} {instruction' : Instruction}
    (hgiven : seed.name ∈ given.map (·.seed))
    (h : bindSeed target instruction given seed = .ok binding) :
    bindSeed target' instruction'
        (given.map fun b => { b with value := b.value.substitute names owner caller }) seed
      = .ok { binding with value := binding.value.substitute names owner caller } := by
  obtain ⟨found, hfound⟩ := Option.isSome_iff_exists.mp (isSome_find?_iff.mpr hgiven)
  have hfound' : (given.map fun b : SeedBinding =>
      { b with value := b.value.substitute names owner caller }).find? (·.seed = seed.name)
        = some { found with value := found.value.substitute names owner caller } := by
    rw [List.find?_map]
    exact congrArg (Option.map _) hfound
  simp only [bindSeed, hfound] at h
  simp only [bindSeed, hfound']
  rw [Except.ok.inj h]

/-- Seeds of which each is bound explicitly are bound to what the inputs have become, where
    these can be read as before. -/
theorem bindSeeds_substitute (hd : tree.Distinct) (hadm : operation.Admissible (Index.of tree))
    (hp : tree.programs[p]? = some program)
    (hprogram : rule.target.programName? = some program.name)
    (hprogram' : (rule.substitute operation.nameOf).target.programName?
      = some (program.substitute operation.nameOf).name)
    (hreadable : ∀ input : Input, input.Readable instruction of →
      (input.substitute operation.nameOf program.name instruction.name).Readable
        (instruction.substitute operation.nameOf program)
        (of.substitute operation.nameOf program instruction.name))
    (hbinds : rule.BindsSeeds tree) {owner : String} {given bound : List SeedBinding}
    (hvalue : rule.value = .pda owner given)
    (h : bindSeeds (Index.of tree) rule.target instruction of owner given = .ok bound) :
    bindSeeds (Index.of (tree.substitute operation.nameOf))
        (rule.substitute operation.nameOf).target (instruction.substitute operation.nameOf program)
        (of.substitute operation.nameOf program instruction.name)
        (operation.nameOf (.account program.name owner))
        (given.map fun b =>
          { b with value := b.value.substitute operation.nameOf program.name instruction.name })
      = .ok (bound.map fun b => { b with
          value := b.value.substitute operation.nameOf program.name instruction.name }) := by
  obtain ⟨hholds, j, account, hj, rfl, hseeds, hknown, hbound⟩ :=
    (bindSeeds_eq_ok_iff hd hp hprogram).mp h
  have haddress : (of.substitute operation.nameOf program instruction.name).holdsAddress = true :=
    (of.holdsAddress_substitute operation.nameOf).trans hholds
  refine (bindSeeds_eq_ok_iff (hd.substitute hadm)
    (tree.programs_substitute operation.nameOf hp) hprogram').mpr
      ⟨haddress, j, _, getElem?_map_eq_some_iff.mpr ⟨account, hj, rfl⟩, rfl, hseeds,
        List.forall_mem_map.mpr hknown, List.forall₂_map_right_iff.mpr ?_⟩
  -- every variable seed of the recipe has a binding of its own among the given ones
  have hexplicit := hbinds account.name given hvalue program (List.mem_of_getElem? hp) hprogram
    account (List.mem_of_getElem? hj) rfl
  refine ((List.forall₂_and_left _ _).mpr ⟨hexplicit, hbound⟩).imp ?_
  rintro seed binding ⟨hgiven, hbind, hcheck⟩
  refine ⟨bindSeed_substitute operation.nameOf hgiven hbind, checkBinding_eq_ok.mpr ?_⟩
  exact hreadable _ (checkBinding_eq_ok.mp hcheck)

/-- **CHECKS COME OUT AS BEFORE**: the translated rule stores the substituted value at the
    renamed target. -/
theorem resolve_substitute (hd : tree.Distinct) (hadm : operation.Admissible (Index.of tree))
    (hp : tree.programs[p]? = some program) (hi : program.instructions[i]? = some instruction)
    (htaken : instruction.takes of.input = true)
    (htarget : rule.target = of.input.pathIn program.name instruction.name)
    (hbinds : rule.BindsSeeds tree) (h : rule.resolve (Index.of tree) instruction of = .ok value) :
    (rule.substitute operation.nameOf).resolve (Index.of (tree.substitute operation.nameOf))
        (instruction.substitute operation.nameOf program)
        (of.substitute operation.nameOf program instruction.name)
      = .ok (value.substitute operation.nameOf program.name instruction.name) := by
  have hsubstituted : (rule.substitute operation.nameOf).value
      = rule.value.substitute operation.nameOf program.name instruction.name := by
    show rule.value.substituteAt operation.nameOf rule.target = _
    rw [htarget]
    cases of <;> rfl
  have hreadable : ∀ input : Input, input.Readable instruction of →
      (input.substitute operation.nameOf program.name instruction.name).Readable
        (instruction.substitute operation.nameOf program)
        (of.substitute operation.nameOf program instruction.name) :=
    fun input hinput => hinput.substitute hadm hp hi htaken
  have haddress : (of.substitute operation.nameOf program instruction.name).holdsAddress
      = of.holdsAddress := of.holdsAddress_substitute operation.nameOf
  rw [resolve_eq_ok_iff] at h ⊢
  rw [hsubstituted]
  generalize hvalue : rule.value = given at h
  cases h with
  | pda hbound =>
      have hprogram : rule.target.programName? = some program.name := by
        rw [htarget, Input.programName?_pathIn]
      have hprogram' : (rule.substitute operation.nameOf).target.programName?
          = some (program.substitute operation.nameOf).name := by
        show (rule.target.substitute operation.nameOf).programName? = _
        rw [htarget]
        cases of <;> rfl
      exact .pda (bindSeeds_substitute hd hadm hp hprogram hprogram' hreadable hbinds hvalue hbound)
  | account hinput hholds => exact .account (hreadable _ hinput) (haddress.trans hholds)
  | argument hinput => exact .argument (hreadable _ hinput)
  | absent habsent =>
      exact .absent ((of.canBeAbsent_substitute operation.nameOf).trans habsent)
  | programId hholds => exact .programId (haddress.trans hholds)
  | @literal literal hfits =>
      exact .literal ((literal.fits_substitute operation.nameOf of).trans hfits)

end DefaultRule

/-- The target of a rule that is settled is the path of the input in its slot. -/
theorem Tree.Takes.pathIn (ht : tree.Takes slot program instruction of) {path : NodePath}
    {node : Node} (hheld : tree.Holds slot path node) :
    path = of.input.pathIn program.name instruction.name := by
  cases ht with
  | account hp hi hm => exact hheld.path_unique (.instructionAccount hp hi hm)
  | argument hp hi hm => exact hheld.path_unique (.instructionArgument hp hi hm)

/-- An input of a tree is taken by an instruction in a place. -/
theorem Tree.Takes.place (ht : tree.Takes slot program instruction of) :
    ∃ p i : Nat, tree.programs[p]? = some program ∧ program.instructions[i]? = some instruction
      ∧ instruction.takes of.input = true := by
  cases ht with
  | account hp hi hm =>
      exact ⟨_, _, hp, hi, isSome_find?_iff.mpr (List.mem_map_of_mem (List.mem_of_getElem? hm))⟩
  | argument hp hi hm =>
      exact ⟨_, _, hp, hi, isSome_find?_iff.mpr (List.mem_map_of_mem (List.mem_of_getElem? hm))⟩

/-- An input of a tree is the substituted input in the substituted tree, in the same slot. -/
theorem Tree.Takes.substitute (names : NodePath → String)
    (ht : tree.Takes slot program instruction of) :
    (tree.substitute names).Takes slot (program.substitute names)
      (instruction.substitute names program) (of.substitute names program instruction.name) := by
  cases ht with
  | account hp hi hm =>
      exact .account (tree.programs_substitute names hp) (Program.instructions_substitute names hi)
        (getElem?_map_eq_some_iff.mpr ⟨_, hm, rfl⟩)
  | argument hp hi hm =>
      exact .argument (tree.programs_substitute names hp) (Program.instructions_substitute names hi)
        (getElem?_map_eq_some_iff.mpr ⟨_, hm, rfl⟩)

/-- A rule for an input of a tree that resolves is settled. -/
theorem DefaultRule.settle_of_takes (hd : tree.Distinct)
    (ht : tree.Takes slot program instruction of)
    (htarget : rule.target = of.input.pathIn program.name instruction.name)
    (h : rule.resolve (Index.of tree) instruction of = .ok value) :
    rule.settle (Index.of tree) = .ok (slot, value) := by
  obtain ⟨target, given⟩ := rule
  obtain rfl := htarget
  refine settle_eq_ok_iff_isFor.mpr ⟨instruction, of, ?_, h⟩
  have hcaller : ∀ {p i}, tree.programs[p]? = some program →
      program.instructions[i]? = some instruction →
        (Index.of tree).instruction (.instruction program.name instruction.name)
          = .ok (instruction, .instruction p i) :=
    fun hp hi => (Index.instruction_eq_ok_iff hd).mpr (.instruction hp hi)
  cases ht with
  | account hp hi hm =>
      have hfound := Index.find?_of_holds hd (.instructionAccount hp hi hm)
      exact ⟨⟨_, Index.resolve_eq_ok.mpr hfound, rfl, rfl⟩, _, _, rfl, hcaller hp hi⟩
  | argument hp hi hm =>
      have hfound := Index.find?_of_holds hd (.instructionArgument hp hi hm)
      exact ⟨⟨_, Index.resolve_eq_ok.mpr hfound, rfl, rfl⟩, _, _, rfl, hcaller hp hi⟩

/-- **RULES ARE SETTLED AS BEFORE**: a rule that is settled for an input of a tree is, when it
    is translated, settled in the renamed tree, in the same slot with the substituted value. -/
theorem DefaultRule.settle_substitute (hd : tree.Distinct)
    (hadm : operation.Admissible (Index.of tree)) (hbinds : rule.BindsSeeds tree)
    (h : rule.settle (Index.of tree) = .ok (slot, value)) :
    ∃ program instruction of, tree.Takes slot program instruction of
      ∧ (rule.substitute operation.nameOf).settle (Index.of (tree.substitute operation.nameOf))
          = .ok (slot, value.substitute operation.nameOf program.name instruction.name) := by
  obtain ⟨program, instruction, of, ht, -, hresolved⟩ := settle_eq_ok hd h
  obtain ⟨node, hheld⟩ := holds_of_settle h
  have htarget := ht.pathIn hheld
  obtain ⟨p, i, hp, hi, htaken⟩ := ht.place
  refine ⟨program, instruction, of, ht,
    settle_of_takes (hd.substitute hadm) (ht.substitute operation.nameOf) ?_
      (resolve_substitute hd hadm hp hi htaken htarget hbinds hresolved)⟩
  show rule.target.substitute operation.nameOf = _
  rw [htarget, InputTarget.input_substitute]
  exact (Input.pathIn_substitute ..).symm

end Rules

/-! ## Storing and substituting -/

section Storing

variable {tree next : Tree} {names : NodePath → String}

/-- A change of an instruction and a substitution, where the change of the substituted
    instruction is known. -/
theorem Tree.substitute_modifyInstruction {p i : Nat} {change change' : Instruction → Instruction}
    (h : ∀ program instruction, tree.programs[p]? = some program →
      program.instructions[i]? = some instruction →
        (change instruction).substitute names program
          = change' (instruction.substitute names program)) :
    (tree.modifyInstruction p i change).substitute names
      = (tree.substitute names).modifyInstruction p i change' := by
  refine congrArg (Tree.mk · _) (map_modify fun program hp => ?_)
  refine congrArg (Program.mk _ _ _ _ _ · _ _) (map_modify fun instruction hi => ?_)
  exact h program instruction hp hi

/-- **STORE OR SUBSTITUTE FIRST**: a default that is stored in the slot of an input and then
    substituted is the substituted one, stored afterwards.  The slot may be one of another tree
    that is the same up to defaults. -/
theorem Tree.setDefault_substitute {slot : Slot} {program : Program} {instruction : Instruction}
    {of : InputTarget}
    (hview : next.keeping (Attachment.allBut .default) = tree.keeping (Attachment.allBut .default))
    (ht : tree.Takes slot program instruction of) (value : DefaultValue) :
    (next.setDefault slot value).substitute names
      = (next.substitute names).setDefault slot
          (value.substitute names program.name instruction.name) := by
  have hnames : ∀ {p i : Nat} {program' instruction'}, tree.programs[p]? = some program →
      program.instructions[i]? = some instruction → next.programs[p]? = some program' →
        program'.instructions[i]? = some instruction' →
          program'.name = program.name ∧ instruction'.name = instruction.name := by
    intro p i program' instruction' hp hi hp' hi'
    obtain ⟨_, hp'', hprogram⟩ := exists_of_map_eq (congrArg Tree.programs hview) hp'
    obtain rfl := Option.some.inj (hp.symm.trans hp'')
    obtain ⟨_, hi'', hinstruction⟩ :=
      exists_of_map_eq (congrArg Program.instructions hprogram) hi'
    obtain rfl := Option.some.inj (hi.symm.trans hi'')
    have hname := congrArg Program.name hprogram
    have hname' := congrArg Instruction.name hinstruction
    exact ⟨hname, hname'⟩
  cases ht with
  | @account p i m _ _ a hp hi hm =>
      refine Tree.substitute_modifyInstruction fun program' instruction' hp' hi' => ?_
      obtain ⟨hprogram, hinstruction⟩ := hnames hp hi hp' hi'
      refine congrArg (Instruction.mk _ _ · _ _) (map_modify fun account _ => ?_)
      rw [← hprogram, ← hinstruction]
      rfl
  | @argument p i m _ _ a hp hi hm =>
      refine Tree.substitute_modifyInstruction fun program' instruction' hp' hi' => ?_
      obtain ⟨hprogram, hinstruction⟩ := hnames hp hi hp' hi'
      refine congrArg (Instruction.mk _ _ _ · _) (map_modify fun argument _ => ?_)
      rw [← hprogram, ← hinstruction]
      rfl

end Storing

/-! ## Rules and a rename -/

section Operations

variable {tree renamed attached : Tree} {operation : Rename} {defaults : SetDefaults}

/-- An operation is admissible wherever the same paths select something. -/
theorem Rename.Admissible.congr {index index' : Index}
    (h : ∀ path, index'.contains path = index.contains path)
    (hadm : operation.Admissible index) : operation.Admissible index' where
  resolved hget := (h _).trans (hadm.resolved hget)
  valid hget := hadm.valid hget
  free hget hne hcontains := hadm.free hget hne ((h _).symm.trans hcontains)
  apart hget hget' := hadm.apart hget hget'

/-- Translated rules give a renamed tree the substituted defaults: as many, in the same slots,
    with the same effect on all trees that are the same up to defaults. -/
theorem SetDefaults.exists_stored (hd : tree.Distinct)
    (hadm : operation.Admissible (Index.of tree)) {rules : List DefaultRule}
    {stored : List (Slot × DefaultValue)} (hbinds : ∀ rule ∈ rules, rule.BindsSeeds tree)
    (h : rules.mapM (·.settle (Index.of tree)) = .ok stored) :
    ∃ stored', (rules.map (·.substitute operation.nameOf)).mapM
          (·.settle (Index.of (tree.substitute operation.nameOf))) = .ok stored'
      ∧ ∀ next : Tree, next.keeping (Attachment.allBut .default)
          = tree.keeping (Attachment.allBut .default) →
        (next.setDefaults stored).substitute operation.nameOf
          = (next.substitute operation.nameOf).setDefaults stored' := by
  have hsettled := forall₂_of_mapM_eq_ok h
  clear h
  induction hsettled with
  | nil => exact ⟨[], rfl, fun _ _ => rfl⟩
  | @cons rule one rules stored hone _ ih =>
      obtain ⟨slot, value⟩ := one
      obtain ⟨hrule, hrules⟩ := List.forall_mem_cons.mp hbinds
      obtain ⟨program, instruction, of, ht, hsettle⟩ :=
        DefaultRule.settle_substitute hd hadm hrule hone
      obtain ⟨stored', hstored', hsame⟩ := ih hrules
      let value' := value.substitute operation.nameOf program.name instruction.name
      refine ⟨(slot, value') :: stored', ?_, fun next hview => ?_⟩
      · rw [List.map_cons, List.mapM_cons]
        exact bind_eq_ok.mpr ⟨_, hsettle, bind_eq_ok.mpr ⟨_, hstored', rfl⟩⟩
      · have hview' := (Tree.setDefault_frame slot value).trans hview
        have hfirst : (next.setDefault slot value).substitute operation.nameOf = _ :=
          Tree.setDefault_substitute hview ht value
        exact (hsame _ hview').trans (congrArg (Tree.setDefaults · stored') hfirst)

/-- **RULES AND RENAMES COMMUTE**: when a rename and rules for defaults both succeed on a
    reachable tree, and the rules bind every variable seed of the recipes they name themselves,
    the rename succeeds on what the rules give, the translated rules succeed on what the rename
    gives, and both lead to one tree. -/
theorem SetDefaults.apply_renamed (hr : tree.Reachable)
    (hrename : operation.apply (Index.of tree) = .ok renamed)
    (hdefaults : defaults.apply (Index.of tree) = .ok attached)
    (hbinds : ∀ rule ∈ defaults.rules, rule.BindsSeeds tree) :
    ∃ next, operation.apply (Index.of attached) = .ok next
      ∧ (defaults.substitute operation.nameOf).apply (Index.of renamed) = .ok next := by
  have hd := hr.wellFormed.distinct
  have hframe := SetDefaults.frame hdefaults
  have happly : (Operation.setDefaults defaults).apply (Index.of tree) = .ok attached := hdefaults
  have hr' : attached.Reachable := .step hr happly
  obtain ⟨hadm, rfl⟩ := Rename.apply_eq_ok hd hrename
  have hadm' : operation.Admissible (Index.of attached) := by
    refine hadm.congr fun path => ?_
    have hview : (Index.of (attached.keeping (Attachment.allBut .default))).contains path
        = (Index.of attached).contains path := Index.contains_keeping path
    rw [← hview, hframe, Index.contains_keeping]
  obtain ⟨stored, hstored, rfl⟩ := SetDefaults.apply_eq_ok_iff.mp hdefaults
  obtain ⟨stored', hstored', hsame⟩ := SetDefaults.exists_stored hd hadm hbinds hstored
  refine ⟨_, Rename.apply_of_admissible hr'.wellFormed.distinct hadm', ?_⟩
  exact SetDefaults.apply_eq_ok_iff.mpr ⟨stored', hstored', hsame tree rfl⟩

end Operations

/-- Rules for the bank: an account at the address of the vault, one that may be left out, and an
    argument that follows an account. -/
def bankDefaults : SetDefaults := ⟨[
  ⟨.instructionAccount "bank" "open" "vault", .pda "Vault" [⟨"payer", .account "payer"⟩]⟩,
  ⟨.instructionAccount "bank" "open" "guest", .absent⟩,
  ⟨.instructionArgument "bank" "open" "payer", .account "vault"⟩]⟩

theorem SetDefaults.apply_renamed_bank : ∃ tree renamed attached next : Tree, tree.Reachable
    ∧ bankNames.apply (Index.of tree) = .ok renamed
    ∧ bankDefaults.apply (Index.of tree) = .ok attached
    ∧ (∀ rule ∈ bankDefaults.rules, rule.BindsSeeds tree)
    ∧ (bankDefaults.substitute bankNames.nameOf).rules = [
        ⟨.instructionAccount "till" "start" "payer", .pda "Pool" [⟨"payer", .account "vault"⟩]⟩,
        ⟨.instructionAccount "till" "start" "guest", .absent⟩,
        ⟨.instructionArgument "till" "start" "side", .account "payer"⟩]
    ∧ bankNames.apply (Index.of attached) = .ok next
    ∧ (bankDefaults.substitute bankNames.nameOf).apply (Index.of renamed) = .ok next := by
  obtain ⟨stages, hrun, hstages⟩ : ∃ stages,
      Pipeline.runDocuments [bank] (bankRun.take 1) = .ok stages
        ∧ (stages.any fun stage => (bankNames.apply (Index.of stage.tree)).toOption.isSome
            && (bankDefaults.apply (Index.of stage.tree)).toOption.isSome
            && stage.tree.programs.all fun program => program.accounts.all fun account =>
              account.seedInputs.all fun seed => seed.name = "payer") = true :=
    runDocuments_bank (by decide +kernel)
  obtain ⟨stage, hmem, hstage⟩ := List.any_eq_true.mp hstages
  obtain ⟨hok, hseeds⟩ := Bool.and_eq_true_iff.mp hstage
  obtain ⟨hrename, hdefaults⟩ := Bool.and_eq_true_iff.mp hok
  obtain ⟨renamed, hrename⟩ := exists_ok_of_isSome hrename
  obtain ⟨attached, hdefaults⟩ := exists_ok_of_isSome hdefaults
  have hr := reachable_of_runDocuments hrun stage hmem
  have hbinds : ∀ rule ∈ bankDefaults.rules, rule.BindsSeeds stage.tree := by
    refine List.forall_mem_cons.mpr ⟨?_, List.forall_mem_cons.mpr ⟨nofun,
      List.forall_mem_singleton.mpr nofun⟩⟩
    intro owner given hvalue program hprogram _ account haccount _ seed hseed
    obtain ⟨-, rfl⟩ := DefaultValue.pda.inj hvalue
    have hname := List.all_eq_true.mp (List.all_eq_true.mp (List.all_eq_true.mp hseeds program
      hprogram) account haccount) seed hseed
    exact List.mem_singleton.mpr (of_decide_eq_true hname)
  obtain ⟨next, hnext, hnext'⟩ := SetDefaults.apply_renamed hr hrename hdefaults hbinds
  exact ⟨stage.tree, renamed, attached, next, hr, hrename, hdefaults, hbinds, by decide +kernel,
    hnext, hnext'⟩

end Bindery
