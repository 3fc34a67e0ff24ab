import Bindery.Proofs.Reachable
import Bindery.Proofs.Views

/-! # Defaults along a run

    A rule that resolves stores a default that is sound at its target
    (`settle_accepted`), and storing it does not harm the others
    (`Tree.DefaultsSound.setDefault`).  Later renames, recipes, tags and other
    rules keep what is stored sound, so that every default in every stage of a
    run is (`runDocuments_defaultsSound`). -/

namespace Bindery

/-! ## Rules -/

namespace DefaultRule

variable {target : NodePath} {instruction : Instruction} {of : InputTarget} {input : Input}

/-- A reference passes its check when it may be read and, if it is to an account, stands
    where an address can. -/
theorem checkReference_eq_ok : checkReference target instruction of input = .ok () ↔
    input.Readable instruction of ∧ ∀ name, input = .account name → of.holdsAddress = true := by
  unfold checkReference
  cases input with
  | account name =>
      simp only [unless_eq_ok, check_eq_ok, Bool.not_eq_true', Bool.not_eq_false,
        Bool.not_eq_true]
      constructor
      · rintro ⟨htakes, hother, haddress, hoptional, -⟩
        exact ⟨⟨htakes, hother, hoptional⟩, fun _ _ => haddress⟩
      · rintro ⟨⟨htakes, hother, hoptional⟩, haddress⟩
        exact ⟨htakes, hother, haddress name rfl, hoptional, rfl⟩
  | argument name =>
      simp only [unless_eq_ok, check_eq_ok, Bool.not_eq_true', Bool.not_eq_false,
        Bool.not_eq_true]
      constructor
      · rintro ⟨htakes, hother, -⟩
        exact ⟨⟨htakes, hother, rfl⟩, fun _ heq => (nomatch heq)⟩
      · rintro ⟨⟨htakes, hother, hoptional⟩, -⟩
        exact ⟨htakes, hother, hoptional, rfl⟩

/-- A seed passes its check when it may be read. -/
theorem checkBinding_eq_ok {binding : SeedBinding} :
    checkBinding target instruction of binding = .ok () ↔
      binding.value.Readable instruction of := by
  unfold checkBinding
  simp only [unless_eq_ok, check_eq_ok, Bool.not_eq_true', Bool.not_eq_false, Bool.not_eq_true]
  constructor
  · rintro ⟨htakes, hother, hoptional, -⟩
    exact ⟨htakes, hother, hoptional⟩
  · rintro ⟨htakes, hother, hoptional⟩
    exact ⟨htakes, hother, hoptional, rfl⟩

/-- What the value of a rule is resolved to at a target, for an input of an instruction. -/
inductive Resolves (index : Index) (target : NodePath) (instruction : Instruction)
    (of : InputTarget) : DefaultValue → DefaultValue → Prop
  | absent (h : of.canBeAbsent = true) : Resolves index target instruction of .absent .absent
  | programId (h : of.holdsAddress = true) :
      Resolves index target instruction of .programId .programId
  | literal {value : Literal} (h : value.fits of = true) :
      Resolves index target instruction of (.literal value) (.literal value)
  | account {name : String} (h : (Input.account name).Readable instruction of)
      (haddress : of.holdsAddress = true) :
      Resolves index target instruction of (.account name) (.account name)
  | argument {name : String} (h : (Input.argument name).Readable instruction of) :
      Resolves index target instruction of (.argument name) (.argument name)
  | pda {owner : String} {given bound : List SeedBinding}
      (h : bindSeeds index target instruction of owner given = .ok bound) :
      Resolves index target instruction of (.pda owner given) (.pda owner bound)

/-- **WHAT RULES RESOLVE TO**: a derived address gets its bindings, and every other value stays
    as it is, where it passes its check. -/
theorem resolve_eq_ok_iff {index : Index} {rule : DefaultRule} {value : DefaultValue} :
    rule.resolve index instruction of = .ok value
      ↔ Resolves index rule.target instruction of rule.value value := by
  obtain ⟨target, given⟩ := rule
  constructor
  · intro h
    cases given with
    | pda owner given =>
        obtain ⟨bound, hbound, h⟩ := bind_eq_ok.mp h
        rw [← pure_eq_ok.mp h]
        exact .pda hbound
    | account name =>
        obtain ⟨hcheck, h⟩ := check_bind_eq_ok.mp h
        obtain ⟨hreadable, haddress⟩ := checkReference_eq_ok.mp hcheck
        rw [← pure_eq_ok.mp h]
        exact .account hreadable (haddress name rfl)
    | argument name =>
        obtain ⟨hcheck, h⟩ := check_bind_eq_ok.mp h
        rw [← pure_eq_ok.mp h]
        exact .argument (checkReference_eq_ok.mp hcheck).1
    | absent =>
        obtain ⟨habsent, rfl⟩ := ite_eq_ok.mp h
        exact .absent habsent
    | programId =>
        obtain ⟨haddress, rfl⟩ := ite_eq_ok.mp h
        exact .programId haddress
    | literal value =>
        obtain ⟨hfits, rfl⟩ := ite_eq_ok.mp h
        exact .literal hfits
  · intro h
    cases h with
    | absent h | programId h | literal h => exact ite_eq_ok.mpr ⟨h, rfl⟩
    | account h haddress =>
        exact check_bind_eq_ok.mpr ⟨checkReference_eq_ok.mpr ⟨h, fun _ _ => haddress⟩, rfl⟩
    | argument h =>
        exact check_bind_eq_ok.mpr ⟨checkReference_eq_ok.mpr ⟨h, nofun⟩, rfl⟩
    | pda h => exact bind_eq_ok.mpr ⟨_, h, rfl⟩

variable {tree : Tree} {p : Nat} {program : Program}

/-- A binding binds the seed that it is made for. -/
theorem seed_of_bindSeed {given : List SeedBinding} {seed : VariableSeed} {binding : SeedBinding}
    (h : bindSeed target instruction given seed = .ok binding) : binding.seed = seed.name := by
  unfold bindSeed at h
  cases hgiven : given.find? (·.seed = seed.name) with
  | some found =>
      simp only [hgiven] at h
      rw [← Except.ok.inj h]
      exact name_of_find? hgiven
  | none =>
      simp only [hgiven] at h
      cases himplied : [Input.account seed.name, Input.argument seed.name].find?
          instruction.takes with
      | some input => simp only [himplied] at h; rw [← Except.ok.inj h]
      | none => simp only [himplied] at h; exact nomatch h

/-- An account of a program is what its path selects, where names are distinct. -/
theorem account_eq_ok (hd : tree.Distinct) (hp : tree.programs[p]? = some program)
    {owner : String} {account : Account} {slot : Slot} :
    (Index.of tree).account (.account program.name owner) = .ok (account, slot) ↔
      ∃ j, slot = .account p j ∧ program.accounts[j]? = some account ∧ account.name = owner := by
  rw [Index.account_eq_ok_iff hd]
  constructor
  · intro h
    obtain ⟨q, j, program', rfl, hpath, hq, hj⟩ := h.account_inv
    obtain ⟨hP, hA⟩ := NodePath.account.inj hpath
    obtain ⟨rfl, rfl⟩ := hd.program_unique hp hq hP
    exact ⟨j, rfl, hj, hA.symm⟩
  · rintro ⟨j, rfl, hj, rfl⟩
    exact .account hp hj

/-- **BINDING SEEDS**: seeds are bound exactly when the target can hold an address, the account
    has a recipe, every given binding is for a variable seed of it, and each of these has a
    binding that passes its check; these are the result, in order. -/
theorem bindSeeds_eq_ok_iff (hd : tree.Distinct) (hp : tree.programs[p]? = some program)
    (hprogram : target.programName? = some program.name) {owner : String}
    {given bound : List SeedBinding} :
    bindSeeds (Index.of tree) target instruction of owner given = .ok bound ↔
      of.holdsAddress = true ∧ ∃ (j : Nat) (account : Account), program.accounts[j]? = some account
        ∧ account.name = owner ∧ account.seeds.isSome = true
        ∧ (∀ binding ∈ given, binding.seed ∈ account.seedInputs.map (·.name))
        ∧ List.Forall₂ (fun seed binding => bindSeed target instruction given seed = .ok binding
            ∧ checkBinding target instruction of binding = .ok ()) account.seedInputs bound := by
  have hgiven : ∀ account : Account, (given.find? fun binding =>
      !account.seedInputs.any (·.name = binding.seed)) = none
        ↔ ∀ binding ∈ given, binding.seed ∈ account.seedInputs.map (·.name) := by
    intro account
    simp only [List.find?_eq_none, Bool.not_eq_true', Bool.not_eq_false, List.any_eq_true,
      decide_eq_true_eq, List.mem_map]
  have heach : ∀ seed binding, (do
      let binding ← bindSeed target instruction given seed
      checkBinding target instruction of binding
      return binding) = Except.ok binding ↔
        bindSeed target instruction given seed = .ok binding
          ∧ checkBinding target instruction of binding = .ok () := by
    intro seed binding
    constructor
    · intro h
      obtain ⟨found, hfound, h⟩ := bind_eq_ok.mp h
      obtain ⟨hcheck, h⟩ := check_bind_eq_ok.mp h
      rw [← pure_eq_ok.mp h]
      exact ⟨hfound, hcheck⟩
    · rintro ⟨hfound, hcheck⟩
      exact bind_eq_ok.mpr ⟨_, hfound, check_bind_eq_ok.mpr ⟨hcheck, rfl⟩⟩
  unfold bindSeeds
  rw [unless_eq_ok]
  simp only [hprogram, Bool.not_eq_true', Bool.not_eq_false]
  refine and_congr_right fun _ => ?_
  constructor
  · intro h
    cases haccount : (Index.of tree).account (.account program.name owner) with
    | error fault => simp only [haccount] at h; exact nomatch h
    | ok found =>
        obtain ⟨account, slot⟩ := found
        simp only [haccount] at h
        obtain ⟨_, hsame, h⟩ := bind_eq_ok.mp h
        obtain rfl := pure_eq_ok.mp hsame
        rw [unless_eq_ok] at h
        obtain ⟨hseeds, h⟩ := h
        obtain ⟨j, rfl, hj, hname⟩ := (account_eq_ok hd hp).mp haccount
        cases hunknown : given.find? fun binding =>
            !account.seedInputs.any (·.name = binding.seed) with
        | some unknown => simp only [hunknown] at h; exact nomatch h
        | none =>
            simp only [hunknown] at h
            refine ⟨j, account, hj, hname, ?_, (hgiven account).mp hunknown, ?_⟩
            · simpa [Option.isSome_iff_ne_none] using hseeds
            · exact (forall₂_of_mapM_eq_ok h).imp fun seed binding => (heach seed binding).mp
  · rintro ⟨j, account, hj, hname, hseeds, hknown, hbound⟩
    simp only [(account_eq_ok hd hp).mpr ⟨j, rfl, hj, hname⟩]
    refine bind_eq_ok.mpr ⟨account, rfl, unless_eq_ok.mpr ⟨?_, ?_⟩⟩
    · simpa [Option.isSome_iff_ne_none] using hseeds
    · simp only [(hgiven account).mpr hknown]
      exact mapM_eq_ok_of_forall₂ (hbound.imp fun seed binding => (heach seed binding).mpr)

/-- Bound seeds may be read, and the account they derive an address of has a
    recipe. -/
theorem bindSeeds_eq_ok (hd : tree.Distinct) (hp : tree.programs[p]? = some program)
    (hprogram : target.programName? = some program.name) {owner : String}
    {given bound : List SeedBinding}
    (h : bindSeeds (Index.of tree) target instruction of owner given = .ok bound) :
    of.holdsAddress = true ∧ program.HasRecipe owner
      ∧ ∀ binding ∈ bound, binding.value.Readable instruction of := by
  obtain ⟨haddress, j, account, hj, hname, hrecipe, -, hbound⟩ :=
    (bindSeeds_eq_ok_iff hd hp hprogram).mp h
  refine ⟨haddress, ⟨account, List.mem_of_getElem? hj, hname, hrecipe⟩, fun binding hmem => ?_⟩
  obtain ⟨seed, -, -, hcheck⟩ := exists_of_forall₂_right hbound hmem
  exact checkBinding_eq_ok.mp hcheck

/-- **RESOLVED DEFAULTS ARE SOUND**: the default that a rule stores can stand at the
    target of the rule. -/
theorem resolve_sound (hd : tree.Distinct) (hp : tree.programs[p]? = some program)
    {rule : DefaultRule} (hprogram : rule.target.programName? = some program.name)
    {value : DefaultValue} (h : rule.resolve (Index.of tree) instruction of = .ok value) :
    value.Sound program instruction of := by
  obtain ⟨target, given⟩ := rule
  cases resolve_eq_ok_iff.mp h with
  | absent hfits | programId hfits | literal hfits | argument hfits => exact hfits
  | account hreadable haddress => exact ⟨haddress, hreadable⟩
  | pda hbound => exact bindSeeds_eq_ok hd hp hprogram hbound

end DefaultRule

/-- A slot holds an input of an instruction, the target of rules. -/
inductive Tree.Takes (tree : Tree) : Slot → Program → Instruction → InputTarget → Prop
  | account {p i m : Nat} {program : Program} {instruction : Instruction}
      {a : InstructionAccount} (hp : tree.programs[p]? = some program)
      (hi : program.instructions[i]? = some instruction)
      (hm : instruction.accounts[m]? = some a) :
      tree.Takes (.instructionAccount p i m) program instruction (.account a)
  | argument {p i m : Nat} {program : Program} {instruction : Instruction}
      {a : InstructionArgument} (hp : tree.programs[p]? = some program)
      (hi : program.instructions[i]? = some instruction)
      (hm : instruction.arguments[m]? = some a) :
      tree.Takes (.instructionArgument p i m) program instruction (.argument a)

/-- A rule for an input has a slot with that input, in the program of its target. -/
theorem DefaultRule.IsFor.takes {tree : Tree} (hd : tree.Distinct) {rule : DefaultRule}
    {slot : Slot} {instruction : Instruction} {of : InputTarget}
    (h : rule.IsFor tree slot instruction of) : ∃ program,
      tree.Takes slot program instruction of ∧ rule.target.programName? = some program.name := by
  obtain ⟨target, given⟩ := rule
  obtain ⟨⟨⟨path, found, node⟩, hentry, rfl, hof⟩, parent, place, hparent, hinstruction⟩ := h
  obtain ⟨-, hheld⟩ := Index.holds_of_find? (Index.resolve_eq_ok.mp hentry)
  have hholder := Index.holds_of_instruction hinstruction
  cases hheld with
  | instructionAccount hp hi hm =>
      obtain rfl := Except.ok.inj hof
      obtain rfl := Option.some.inj hparent
      obtain rfl := Node.instruction.inj (hd.node_unique (.instruction hp hi) hholder)
      exact ⟨_, .account hp hi hm, rfl⟩
  | instructionArgument hp hi hm =>
      obtain rfl := Except.ok.inj hof
      obtain rfl := Option.some.inj hparent
      obtain rfl := Node.instruction.inj (hd.node_unique (.instruction hp hi) hholder)
      exact ⟨_, .argument hp hi hm, rfl⟩
  | _ => exact nomatch hof

/-- A rule that is settled has a slot with an input, and its value is resolved for that
    input. -/
theorem DefaultRule.settle_eq_ok {tree : Tree} (hd : tree.Distinct) {rule : DefaultRule}
    {slot : Slot} {value : DefaultValue} (h : rule.settle (Index.of tree) = .ok (slot, value)) :
    ∃ program instruction of, tree.Takes slot program instruction of
      ∧ rule.target.programName? = some program.name
      ∧ rule.resolve (Index.of tree) instruction of = .ok value := by
  obtain ⟨instruction, of, hfor, hresolved⟩ := settle_eq_ok_iff_isFor.mp h
  obtain ⟨program, htakes, hprogram⟩ := hfor.takes hd
  exact ⟨program, instruction, of, htakes, hprogram, hresolved⟩

/-- A default can stand in a slot of a tree. -/
inductive Tree.Accepts (tree : Tree) (value : DefaultValue) : Slot → Prop
  | account {p i m : Nat} {program : Program} {instruction : Instruction}
      {a : InstructionAccount} (hp : tree.programs[p]? = some program)
      (hi : program.instructions[i]? = some instruction)
      (hm : instruction.accounts[m]? = some a)
      (hvalue : value.Sound program instruction (.account a)) :
      tree.Accepts value (.instructionAccount p i m)
  | argument {p i m : Nat} {program : Program} {instruction : Instruction}
      {a : InstructionArgument} (hp : tree.programs[p]? = some program)
      (hi : program.instructions[i]? = some instruction)
      (hm : instruction.arguments[m]? = some a)
      (hvalue : value.Sound program instruction (.argument a)) :
      tree.Accepts value (.instructionArgument p i m)

/-- A rule that is settled has a default that can stand in its slot. -/
theorem settle_accepted {tree : Tree} (hd : tree.Distinct) {rule : DefaultRule} {slot : Slot}
    {value : DefaultValue} (h : rule.settle (Index.of tree) = .ok (slot, value)) :
    tree.Accepts value slot := by
  obtain ⟨program, instruction, of, htakes, hprogram, hresolved⟩ := DefaultRule.settle_eq_ok hd h
  cases htakes with
  | account hp hi hm =>
      exact .account hp hi hm (DefaultRule.resolve_sound hd hp hprogram hresolved)
  | argument hp hi hm =>
      exact .argument hp hi hm (DefaultRule.resolve_sound hd hp hprogram hresolved)

/-! ## Storing a default -/

section Views

variable {kept : Attachment → Bool}

/-- A default that is sound stays so when tags or other defaults change. -/
theorem DefaultValue.Sound.congr (hkept : kept .recipe = true) {program program' : Program}
    {instruction instruction' : Instruction} {target target' : InputTarget}
    (hprogram : program.keeping kept = program'.keeping kept)
    (hinstruction : instruction.keeping kept = instruction'.keeping kept)
    (htarget : target.keeping kept = target'.keeping kept) {value : DefaultValue}
    (h : value.Sound program instruction target) : value.Sound program' instruction' target' := by
  rw [← DefaultValue.Sound.keeping_iff hkept] at h ⊢
  rw [← hprogram, ← hinstruction, ← htarget]
  exact h

/-- What a view shows at a place is shown there by a list that looks the same. -/
theorem exists_of_map_eq {α β : Type} {view : α → β} {l l' : List α}
    (h : l.map view = l'.map view) {i : Nat} {a : α} (hi : l[i]? = some a) :
    ∃ a', l'[i]? = some a' ∧ view a = view a' := by
  have hview : (l'.map view)[i]? = some (view a) :=
    h ▸ getElem?_map_eq_some_iff.mpr ⟨a, hi, rfl⟩
  obtain ⟨a', ha', hsame⟩ := getElem?_map_eq_some_iff.mp hview
  exact ⟨a', ha', hsame.symm⟩

/-- A default can stand in a slot whatever tags and other defaults there are. -/
theorem Tree.Accepts.congr (hkept : kept .recipe = true) {tree next : Tree}
    (h : tree.keeping kept = next.keeping kept) {value : DefaultValue} {slot : Slot}
    (ha : tree.Accepts value slot) : next.Accepts value slot := by
  have hprograms := congrArg Tree.programs h
  cases ha with
  | account hp hi hm hvalue =>
      obtain ⟨program, hp', hprogram⟩ := exists_of_map_eq hprograms hp
      obtain ⟨instruction, hi', hinstruction⟩ :=
        exists_of_map_eq (congrArg Program.instructions hprogram) hi
      obtain ⟨a, hm', haccount⟩ := exists_of_map_eq (congrArg Instruction.accounts hinstruction) hm
      refine .account hp' hi' hm' (hvalue.congr hkept hprogram hinstruction ?_)
      exact congrArg InputTarget.account haccount
  | argument hp hi hm hvalue =>
      obtain ⟨program, hp', hprogram⟩ := exists_of_map_eq hprograms hp
      obtain ⟨instruction, hi', hinstruction⟩ :=
        exists_of_map_eq (congrArg Program.instructions hprogram) hi
      obtain ⟨a, hm', hargument⟩ :=
        exists_of_map_eq (congrArg Instruction.arguments hinstruction) hm
      refine .argument hp' hi' hm' (hvalue.congr hkept hprogram hinstruction ?_)
      exact congrArg InputTarget.argument hargument

end Views

section Storing

variable {program : Program} {instruction : Instruction} {m : Nat} {value : DefaultValue}

/-- An account that gets a sound default leaves the other defaults sound. -/
theorem Instruction.DefaultsSound.setAccount {a : InstructionAccount}
    (hm : instruction.accounts[m]? = some a)
    (hvalue : value.Sound program instruction (.account a))
    (h : instruction.DefaultsSound program) :
    (instruction.setAccount m value).DefaultsSound program := by
  have hview := (instruction.setAccount_frame m value).symm
  constructor
  · refine forall_mem_modify (fun a hmem stored hstored => ?_) fun found hfound stored hstored => ?_
    · exact (h.accounts a hmem stored hstored).congr rfl rfl hview rfl
    · obtain rfl := Option.some.inj (hm.symm.trans hfound)
      obtain rfl := Option.some.inj hstored
      refine hvalue.congr rfl rfl hview ?_
      rfl
  · intro a hmem stored hstored
    exact (h.arguments a hmem stored hstored).congr rfl rfl hview rfl

/-- An argument that gets a sound default leaves the other defaults sound. -/
theorem Instruction.DefaultsSound.setArgument {a : InstructionArgument}
    (hm : instruction.arguments[m]? = some a)
    (hvalue : value.Sound program instruction (.argument a))
    (h : instruction.DefaultsSound program) :
    (instruction.setArgument m value).DefaultsSound program := by
  have hview := (instruction.setArgument_frame m value).symm
  constructor
  · intro a hmem stored hstored
    exact (h.accounts a hmem stored hstored).congr rfl rfl hview rfl
  · refine forall_mem_modify (fun a hmem stored hstored => ?_) fun found hfound stored hstored => ?_
    · exact (h.arguments a hmem stored hstored).congr rfl rfl hview rfl
    · obtain rfl := Option.some.inj (hm.symm.trans hfound)
      obtain rfl := Option.some.inj hstored
      refine hvalue.congr rfl rfl hview ?_
      rfl

/-- An instruction whose defaults stay sound leaves those of the tree sound. -/
theorem Tree.DefaultsSound.modifyInstruction {tree : Tree} {p i : Nat}
    {change : Instruction → Instruction} (hp : tree.programs[p]? = some program)
    (hi : program.instructions[i]? = some instruction) (h : tree.DefaultsSound)
    (hchange : (change instruction).DefaultsSound program) :
    (tree.modifyInstruction p i change).DefaultsSound := by
  refine forall_mem_modify h fun found hfound => ?_
  obtain rfl := Option.some.inj (hp.symm.trans hfound)
  refine forall_mem_modify (fun other hmem => ?_) fun found hfound => ?_
  · refine Instruction.DefaultsSound.mono ?_ (h program (List.mem_of_getElem? hp) other hmem)
    exact fun _ hrecipe => hrecipe
  · obtain rfl := Option.some.inj (hi.symm.trans hfound)
    refine Instruction.DefaultsSound.mono ?_ hchange
    exact fun _ hrecipe => hrecipe

/-- A default that can stand in a slot leaves the others sound when it is stored
    there. -/
theorem Tree.DefaultsSound.setDefault {tree : Tree} {slot : Slot}
    (ha : tree.Accepts value slot) (h : tree.DefaultsSound) :
    (tree.setDefault slot value).DefaultsSound := by
  cases ha with
  | account hp hi hm hvalue =>
      have hbefore := h _ (List.mem_of_getElem? hp) _ (List.mem_of_getElem? hi)
      exact h.modifyInstruction hp hi (hbefore.setAccount hm hvalue)
  | argument hp hi hm hvalue =>
      have hbefore := h _ (List.mem_of_getElem? hp) _ (List.mem_of_getElem? hi)
      exact h.modifyInstruction hp hi (hbefore.setArgument hm hvalue)

end Storing

/-! ## Operations -/

variable {tree next : Tree}

/-- Setting defaults keeps all defaults sound. -/
theorem SetDefaults.apply_defaultsSound {operation : SetDefaults} (hd : tree.Distinct)
    (hs : tree.DefaultsSound) (h : operation.apply (Index.of tree) = .ok next) :
    next.DefaultsSound := by
  -- rules are settled in the tree as it was, and stored one after another
  have hwalk : tree.keeping (Attachment.allBut .default)
      = next.keeping (Attachment.allBut .default) ∧ next.DefaultsSound := by
    refine foldlM_preserves (P := fun t => tree.keeping (Attachment.allBut .default)
      = t.keeping (Attachment.allBut .default) ∧ t.DefaultsSound) ?_ ⟨rfl, hs⟩ h
    rintro t t' rule - ⟨hview, ht⟩ hstep
    obtain ⟨⟨slot, value⟩, hsettle, hstep⟩ := bind_eq_ok.mp hstep
    rw [← pure_eq_ok.mp hstep]
    have haccepted := (settle_accepted hd hsettle).congr rfl hview
    exact ⟨hview.trans (Tree.setDefault_frame slot value).symm, ht.setDefault haccepted⟩
  exact hwalk.2

/-- A new recipe keeps all defaults sound. -/
theorem SetSeeds.apply_defaultsSound {operation : SetSeeds} (hs : tree.DefaultsSound)
    (h : operation.apply (Index.of tree) = .ok next) : next.DefaultsSound := by
  obtain ⟨p, i, program, account, hp, hi, -, -, rfl⟩ := SetSeeds.apply_eq_ok h
  refine forall_mem_modify hs fun found hfound instruction hmem => ?_
  refine (hs found (List.mem_of_getElem? hfound) instruction hmem).mono fun owner hrecipe => ?_
  obtain ⟨before, hbefore, hname, hseeds⟩ := hrecipe
  obtain ⟨j, hj⟩ := List.mem_iff_getElem?.mp hbefore
  have hafter : (found.accounts.modify i ({ · with seeds := some operation.seeds }))[j]?
      = some (if i = j then { before with seeds := some operation.seeds } else before) := by
    rw [List.getElem?_modify, hj]
    rfl
  refine ⟨_, List.mem_of_getElem? hafter, ?_⟩
  by_cases hij : i = j
  · rw [if_pos hij]
    exact ⟨hname, rfl⟩
  · rw [if_neg hij]
    exact ⟨hname, hseeds⟩

/-- Every operation keeps all defaults sound. -/
theorem apply_defaultsSound {operation : Operation} (hw : tree.WellFormed)
    (hs : tree.DefaultsSound) (h : operation.apply (Index.of tree) = .ok next) :
    next.DefaultsSound := by
  cases operation with
  | rename op =>
      obtain ⟨hadm, rfl⟩ := Rename.apply_eq_ok hw.distinct h
      exact hs.substitute hadm
  | setSeeds op => exact SetSeeds.apply_defaultsSound hs h
  | assignDiscriminators op => exact hs.congr rfl rfl (AssignDiscriminators.frame h)
  | setDefaults op => exact SetDefaults.apply_defaultsSound hw.distinct hs h

/-- Every default of a reachable tree is sound. -/
theorem Tree.Reachable.defaultsSound (hr : tree.Reachable) : tree.DefaultsSound := by
  induction hr with
  | @load documents tree h =>
      intro program hprogram instruction hinstruction
      have hfresh := ((load_eq_ok h).1.members program hprogram).2.2
      have hnone := hfresh.defaults instruction hinstruction
      obtain ⟨haccounts, harguments⟩ := List.append_eq_nil_iff.mp hnone
      constructor
      · intro a hmem value hvalue
        have hnone := List.filterMap_eq_nil_iff.mp haccounts a hmem
        exact nomatch hnone.symm.trans hvalue
      · intro a hmem value hvalue
        have hnone := List.filterMap_eq_nil_iff.mp harguments a hmem
        exact nomatch hnone.symm.trans hvalue
  | step hr h ih => exact apply_defaultsSound hr.wellFormed ih h

/-- **DEFAULTS STAY SOUND**: in every stage of a run that succeeds, every default
    reads inputs it may read, derives addresses of accounts with recipes, and has a
    shape that its target can hold. -/
theorem runDocuments_defaultsSound {documents : List Document}
    {operations : List NamedOperation} {stages : List Stage}
    (h : Pipeline.runDocuments documents operations = .ok stages) :
    ∀ stage ∈ stages, stage.tree.DefaultsSound := by
  intro stage hmem
  exact (reachable_of_runDocuments h stage hmem).defaultsSound

theorem runDocuments_defaultsSound_bank : ∃ stages,
    Pipeline.runDocuments [bank] bankRun = .ok stages
      ∧ (stages.any fun stage => stage.tree.programs.any fun program =>
          program.instructions.any fun instruction => instruction.defaults.length = 2) = true
      ∧ ∀ stage ∈ stages, stage.tree.DefaultsSound := by
  obtain ⟨stages, hrun, hdefaults⟩ : ∃ stages,
      Pipeline.runDocuments [bank] bankRun = .ok stages
        ∧ (stages.any fun stage => stage.tree.programs.any fun program =>
            program.instructions.any fun instruction => instruction.defaults.length = 2) = true :=
    runDocuments_bank (by decide +kernel)
  exact ⟨stages, hrun, hdefaults, runDocuments_defaultsSound hrun⟩

end Bindery
