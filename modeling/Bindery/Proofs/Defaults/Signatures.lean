import Bindery.Proofs.Bindings
import Bindery.Proofs.Defaults.Derived

/-! # Narrowed signatures — what rules for defaults do to call builders

    A default moves an input from one group of a signature into another and does
    nothing else.  Rules are stored in slots, one after another, and may repeat a
    target; a signature is about the inputs of an instruction, all at once.  The
    two meet in `Tree.override`, the tree in which every input has the new default
    for its path, or its old one where there is none.  Names are distinct, so that
    a rule that is stored changes what is given for one path
    (`Tree.setDefault_override`), and the last rule for a path hides the others
    (`SetDefaults.apply_eq_override`).

    What a new default does to an input is seen where the inputs stand in one list
    with their demands, before they are sorted into groups
    (`Signature.demands_override`).  Each group is a part of that list, and what
    becomes of a group is read off there. -/

namespace Bindery

/-! ## Overrides -/

/-- The same instruction with new defaults for some of its inputs. -/
def Instruction.override (new? : Input → Option DefaultValue) (instruction : Instruction) :
    Instruction :=
  { instruction with
    accounts := instruction.accounts.map fun a =>
      { a with defaultValue := new? (.account a.name) <|> a.defaultValue }
    arguments := instruction.arguments.map fun a =>
      { a with defaultValue := new? (.argument a.name) <|> a.defaultValue } }

/-- The same program with new defaults for inputs by their paths. -/
def Program.override (new? : NodePath → Option DefaultValue) (program : Program) : Program :=
  { program with
    instructions := program.instructions.map fun instruction =>
      instruction.override fun input => new? (input.pathIn program.name instruction.name) }

/-- The same tree with new defaults for inputs by their paths. -/
def Tree.override (new? : NodePath → Option DefaultValue) (tree : Tree) : Tree :=
  { tree with programs := tree.programs.map (·.override new?) }

/-- An override depends on what is new for the inputs of the instruction. -/
theorem Instruction.override_congr {instruction : Instruction}
    {new? new?' : Input → Option DefaultValue}
    (h : ∀ input ∈ instruction.inputs, new? input = new?' input) :
    instruction.override new? = instruction.override new?' := by
  obtain ⟨haccounts, harguments⟩ := List.forall_mem_append.mp h
  unfold override
  congr 1
  · refine List.map_congr_left fun a ha => ?_
    rw [haccounts _ (List.mem_map_of_mem ha)]
  · refine List.map_congr_left fun a ha => ?_
    rw [harguments _ (List.mem_map_of_mem ha)]

/-- An instruction for whose inputs there is nothing new is left alone. -/
theorem Instruction.override_eq_self {instruction : Instruction}
    {new? : Input → Option DefaultValue} (h : ∀ input ∈ instruction.inputs, new? input = none) :
    instruction.override new? = instruction := by
  have hnone : instruction.override (fun _ => none) = instruction := by
    show { instruction with
      accounts := instruction.accounts.map id, arguments := instruction.arguments.map id } = _
    rw [List.map_id, List.map_id]
  rw [override_congr h, hnone]

theorem Tree.override_none (tree : Tree) : tree.override (fun _ => none) = tree := by
  have hprogram : ∀ program : Program, program.override (fun _ => none) = program := by
    intro program
    have hmap : program.instructions.map (Instruction.override fun _ => none)
        = program.instructions :=
      (List.map_congr_left fun instruction _ =>
        instruction.override_eq_self fun _ _ => rfl).trans (List.map_id _)
    exact congrArg (fun instructions => { program with instructions := instructions }) hmap
  exact congrArg (Tree.mk · tree.sharedTypes)
    ((List.map_congr_left fun program _ => hprogram program).trans (List.map_id _))

/-- What is made of the items of a list, changed for one item, is what else is made of them when
    that differs for the item of this name only. -/
theorem modify_map_of_name {α β : Type} {name : α → String} {l : List α}
    (hnodup : (l.map name).Nodup) {view view' : α → β} {change : β → β} {i : Nat} {a : α}
    (hi : l[i]? = some a) (hsame : change (view a) = view' a)
    (hother : ∀ b ∈ l, name b ≠ name a → view b = view' b) :
    (l.map view).modify i change = l.map view' := by
  refine List.ext_getElem? fun j => ?_
  rw [getElem?_modify_eq_map, List.getElem?_map, List.getElem?_map, Option.map_map]
  refine Option.map_congr fun b hb => ?_
  rw [Function.comp_apply]
  by_cases hij : i = j
  · subst hij
    obtain rfl := Option.some.inj (hi.symm.trans hb)
    rw [if_pos rfl, hsame]
  · rw [if_neg hij, id]
    exact hother b (List.mem_of_getElem? hb) fun hname =>
      hij (position_unique hnodup hi hb hname.symm)

section Inputs

variable {instruction : Instruction} {new? new?' : Input → Option DefaultValue} {m : Nat}
  {value : DefaultValue}

/-- An account that gets a default in an override gets it as something new. -/
theorem Instruction.setAccount_override (hd : instruction.Distinct) {a : InstructionAccount}
    (hm : instruction.accounts[m]? = some a) (hsame : new?' (.account a.name) = some value)
    (hother : ∀ input, input ≠ .account a.name → new? input = new?' input) :
    { instruction.override new? with
      accounts := (instruction.override new?).accounts.modify m
        ({ · with defaultValue := some value }) } = instruction.override new?' := by
  have haccounts : (instruction.override new?).accounts.modify m
        ({ · with defaultValue := some value }) = (instruction.override new?').accounts := by
    refine modify_map_of_name hd.accounts hm ?_ fun b _ hname => ?_
    · simp only [hsame]
      rfl
    · rw [hother _ fun h => hname (Input.account.inj h)]
  have harguments : (instruction.override new?).arguments
      = (instruction.override new?').arguments :=
    List.map_congr_left fun b _ => by rw [hother (.argument b.name) nofun]
  exact congrArg₂ (fun accounts arguments =>
    { instruction with accounts := accounts, arguments := arguments }) haccounts harguments

/-- An argument that gets a default in an override gets it as something new. -/
theorem Instruction.setArgument_override (hd : instruction.Distinct) {a : InstructionArgument}
    (hm : instruction.arguments[m]? = some a) (hsame : new?' (.argument a.name) = some value)
    (hother : ∀ input, input ≠ .argument a.name → new? input = new?' input) :
    { instruction.override new? with
      arguments := (instruction.override new?).arguments.modify m
        ({ · with defaultValue := some value }) } = instruction.override new?' := by
  have haccounts : (instruction.override new?).accounts = (instruction.override new?').accounts :=
    List.map_congr_left fun b _ => by rw [hother (.account b.name) nofun]
  have harguments : (instruction.override new?).arguments.modify m
        ({ · with defaultValue := some value }) = (instruction.override new?').arguments := by
    refine modify_map_of_name hd.arguments hm ?_ fun b _ hname => ?_
    · simp only [hsame]
      rfl
    · rw [hother _ fun h => hname (Input.argument.inj h)]
  exact congrArg₂ (fun accounts arguments =>
    { instruction with accounts := accounts, arguments := arguments }) haccounts harguments

end Inputs

section Storing

variable {tree : Tree} {new? new?' : NodePath → Option DefaultValue}

/-- A change of one instruction of an override is an override, when nothing else is new for the
    inputs of other instructions. -/
theorem Tree.modifyInstruction_override (hd : tree.Distinct) {p i : Nat} {program : Program}
    {instruction : Instruction} (hp : tree.programs[p]? = some program)
    (hi : program.instructions[i]? = some instruction) {change : Instruction → Instruction}
    (hsame : change (instruction.override fun input =>
        new? (input.pathIn program.name instruction.name))
      = instruction.override fun input => new?' (input.pathIn program.name instruction.name))
    (hother : ∀ owner caller, owner ≠ program.name ∨ caller ≠ instruction.name →
      ∀ input : Input, new? (input.pathIn owner caller) = new?' (input.pathIn owner caller)) :
    (tree.override new?).modifyInstruction p i change = tree.override new?' := by
  have hprogram := hd.members program (List.mem_of_getElem? hp)
  have hinstructions : (program.override new?).instructions.modify i change
      = (program.override new?').instructions :=
    modify_map_of_name hprogram.instructions hi hsame fun instruction' _ hname =>
      Instruction.override_congr fun input _ => hother _ _ (.inr hname) input
  refine congrArg (Tree.mk · tree.sharedTypes) (modify_map_of_name hd.programs hp ?_ ?_)
  · exact congrArg (fun instructions => { program with instructions := instructions })
      hinstructions
  · intro program' _ hname
    refine congrArg (fun instructions => { program' with instructions := instructions })
      (List.map_congr_left fun instruction' _ => ?_)
    exact Instruction.override_congr fun input _ => hother _ _ (.inl hname) input

/-- **STORING IS OVERRIDING**: a default that is stored in the slot of an input is what is new
    for the path of the input, and for no other path. -/
theorem Tree.setDefault_override (hd : tree.Distinct) {slot : Slot} {program : Program}
    {instruction : Instruction} {of : InputTarget}
    (ht : tree.Takes slot program instruction of) (value : DefaultValue) :
    (tree.override new?).setDefault slot value
      = tree.override (Function.update new?
          (of.input.pathIn program.name instruction.name) (some value)) := by
  have hother : ∀ owner caller (input : Input),
      owner ≠ program.name ∨ caller ≠ instruction.name ∨ input ≠ of.input →
        new? (input.pathIn owner caller) = Function.update new?
          (of.input.pathIn program.name instruction.name) (some value)
          (input.pathIn owner caller) := by
    intro owner caller input hne
    refine (Function.update_of_ne (fun hpath => ?_) _ _).symm
    obtain ⟨howner, hcaller, hinput⟩ := Input.pathIn_inj.mp hpath
    exact hne.elim (· howner) fun hne => hne.elim (· hcaller) (· hinput)
  cases ht with
  | account hp hi hm =>
      have hdistinct := (hd.members program (List.mem_of_getElem? hp)).inputs instruction
        (List.mem_of_getElem? hi)
      refine modifyInstruction_override hd hp hi ?_ fun owner caller hne input =>
        hother owner caller input (hne.imp_right .inl)
      exact Instruction.setAccount_override hdistinct hm (Function.update_self ..) fun input hne =>
        hother _ _ input (.inr (.inr hne))
  | argument hp hi hm =>
      have hdistinct := (hd.members program (List.mem_of_getElem? hp)).inputs instruction
        (List.mem_of_getElem? hi)
      refine modifyInstruction_override hd hp hi ?_ fun owner caller hne input =>
        hother owner caller input (hne.imp_right .inl)
      exact Instruction.setArgument_override hdistinct hm (Function.update_self ..) fun input hne =>
        hother _ _ input (.inr (.inr hne))

end Storing

/-! ## The last rule for a path -/

namespace SetDefaults

variable {tree next : Tree}

/-- The last of the rules for an input. -/
def lastFor? (operation : SetDefaults) (path : NodePath) : Option DefaultRule :=
  operation.rules.reverse.find? (·.target = path)

/-- The value that the last rule for an input is settled with. -/
def newDefault? (operation : SetDefaults) (index : Index) (path : NodePath) :
    Option DefaultValue :=
  (operation.lastFor? path).bind fun rule => (rule.settle index).toOption.map (·.2)

/-- A rule in front of others is the last one for its target if none of these has it. -/
theorem lastFor?_cons (rule : DefaultRule) (rules : List DefaultRule) (path : NodePath) :
    lastFor? ⟨rule :: rules⟩ path
      = (lastFor? ⟨rules⟩ path <|> if rule.target = path then some rule else none) := by
  simp only [lastFor?, List.reverse_cons, List.find?_append, List.find?_singleton,
    decide_eq_true_eq]
  cases rules.reverse.find? (·.target = path) <;> rfl

theorem mem_of_lastFor? {operation : SetDefaults} {path : NodePath} {rule : DefaultRule}
    (h : operation.lastFor? path = some rule) : rule ∈ operation.rules ∧ rule.target = path :=
  ⟨List.mem_reverse.mp (List.mem_of_find?_eq_some h), by simpa using List.find?_some h⟩

/-- Rules that are stored in an override, each settled in the tree as it was, override it by the
    last rule for each path. -/
theorem setDefaults_override (hd : tree.Distinct) {rules : List DefaultRule}
    {stored : List (Slot × DefaultValue)}
    (h : List.Forall₂ (fun rule one => rule.settle (Index.of tree) = .ok one) rules stored)
    (new? : NodePath → Option DefaultValue) :
    (tree.override new?).setDefaults stored
      = tree.override fun path => newDefault? ⟨rules⟩ (Index.of tree) path <|> new? path := by
  induction h generalizing new? with
  | nil => rfl
  | @cons rule one rules stored hone hrest ih =>
      obtain ⟨slot, value⟩ := one
      obtain ⟨program, instruction, of, ht, -⟩ := DefaultRule.settle_eq_ok hd hone
      obtain ⟨node, hheld⟩ := DefaultRule.holds_of_settle hone
      obtain ⟨_, hholds⟩ := ht.holds
      have htarget := hheld.path_unique hholds
      show ((tree.override new?).setDefault slot value).setDefaults stored = _
      rw [Tree.setDefault_override hd ht, ih, ← htarget]
      congr 1
      funext path
      rw [newDefault?, newDefault?, lastFor?_cons]
      cases hlast : lastFor? ⟨rules⟩ path with
      | some later =>
          obtain ⟨one, -, hlater⟩ := exists_of_forall₂_left hrest (mem_of_lastFor? hlast).1
          show (((later.settle _).toOption.map _) <|> _) = (((later.settle _).toOption.map _) <|> _)
          rw [hlater]
          rfl
      | none =>
          show Function.update new? rule.target (some value) path
            = ((if rule.target = path then some rule else none).bind _ <|> _)
          by_cases hpath : rule.target = path
          · subst hpath
            rw [Function.update_self, if_pos rfl, Option.bind_some, hone]
            rfl
          · rw [Function.update_of_ne (Ne.symm hpath), if_neg hpath]
            rfl

/-- **RULES OVERRIDE**: where names are distinct, rules that succeed give every input the value
    of the last rule for it, and change nothing else. -/
theorem apply_eq_override {operation : SetDefaults} (hd : tree.Distinct)
    (h : operation.apply (Index.of tree) = .ok next) :
    next = tree.override (operation.newDefault? (Index.of tree)) := by
  obtain ⟨stored, hstored, rfl⟩ := apply_eq_ok_iff.mp h
  have hoverride := setDefaults_override hd (forall₂_of_mapM_eq_ok hstored) fun _ => none
  rw [tree.override_none] at hoverride
  refine hoverride.trans (congrArg (Tree.override · tree) (funext fun path => ?_))
  show (operation.newDefault? (Index.of tree) path <|> none) = _
  cases operation.newDefault? (Index.of tree) path <;> rfl

end SetDefaults

/-! ## Signatures under overrides -/

namespace Signature

variable {instruction : Instruction} {new? : Input → Option DefaultValue} {demand : Demand}
  {given : BuilderInput}

/-- What is demanded of an input, and the input, with a new default if there is one. -/
def renew (new? : Input → Option DefaultValue) (one : Demand × BuilderInput) :
    Demand × BuilderInput :=
  match new? one.2.input with
  | some value => (.defaulted, ⟨one.2.input, some value⟩)
  | none => one

/-- **DEMANDS UNDER AN OVERRIDE**: an input with a new default is defaulted with that, and of
    any other is demanded what was. -/
theorem demands_override (new? : Input → Option DefaultValue) (instruction : Instruction) :
    demands (instruction.override new?) = (demands instruction).map (renew new?) := by
  simp only [demands, Instruction.override, List.map_append, List.map_map]
  congr 1
  · refine List.map_congr_left fun a _ => ?_
    simp only [Function.comp_apply, renew, InstructionAccount.demand]
    cases new? (.account a.name) <;> rfl
  · refine List.map_congr_left fun a _ => ?_
    simp only [Function.comp_apply, renew, InstructionArgument.demand]
    cases new? (.argument a.name) <;> rfl

theorem renew_of_some {one : Demand × BuilderInput} {value : DefaultValue}
    (h : new? one.2.input = some value) :
    renew new? one = (.defaulted, ⟨one.2.input, some value⟩) := by rw [renew, h]

theorem renew_of_none {one : Demand × BuilderInput} (h : new? one.2.input = none) :
    renew new? one = one := by rw [renew, h]

/-- A new default is for the same input. -/
theorem input_renew (new? : Input → Option DefaultValue) (one : Demand × BuilderInput) :
    (renew new? one).2.input = one.2.input := by
  cases h : new? one.2.input with
  | some value => rw [renew_of_some h]
  | none => rw [renew_of_none h]

theorem inputs_override (new? : Input → Option DefaultValue) (instruction : Instruction) :
    (instruction.override new?).inputs = instruction.inputs := by
  rw [← map_input_demands, demands_override, List.map_map, ← map_input_demands]
  exact List.map_congr_left fun one _ => input_renew new? one

/-- An input that is asked for is one of those on which there is such a demand. -/
theorem mem_inputs_iff :
    given ∈ inputs instruction demand ↔ (demand, given) ∈ demands instruction := by
  simp only [inputs, List.mem_map, List.mem_filter, decide_eq_true_eq, Prod.exists]
  constructor
  · rintro ⟨_, _, ⟨hmem, rfl⟩, rfl⟩
    exact hmem
  · intro hmem
    exact ⟨demand, given, ⟨hmem, rfl⟩, rfl⟩

/-- The inputs with another demand than for a default are those for which nothing is new, in
    order. -/
theorem inputs_override_of_ne (h : demand ≠ .defaulted) :
    inputs (instruction.override new?) demand
      = (inputs instruction demand).filter fun given => (new? given.input).isNone := by
  have hstays : ∀ one : Demand × BuilderInput, decide ((renew new? one).1 = demand)
      = ((new? one.2.input).isNone && decide (one.1 = demand)) := by
    intro one
    cases hnew : new? one.2.input with
    | some value => rw [renew_of_some hnew]; exact decide_eq_false (Ne.symm h)
    | none => rw [renew_of_none hnew]; rfl
  rw [inputs, demands_override, List.filter_map, List.map_map, inputs, List.filter_map,
    List.filter_filter]
  simp only [Function.comp_def, hstays]
  refine List.map_congr_left fun one hone => ?_
  have hnone := (Bool.and_eq_true_iff.mp (List.mem_filter.mp hone).2).1
  rw [renew_of_none (Option.isNone_iff_eq_none.mp hnone)]

/-- The inputs with a default are those for which there is a new one and those that had one, in
    the order of all inputs. -/
theorem map_input_defaulted_override (hd : instruction.Distinct) :
    (inputs (instruction.override new?) .defaulted).map (·.input)
      = instruction.inputs.filter fun input =>
          (new? input).isSome || input ∈ (inputs instruction .defaulted).map (·.input) := by
  have hnodup : ((demands instruction).map (·.2.input)).Nodup := by
    rw [map_input_demands]
    exact hd.inputs
  -- inputs are distinct, so that one that had a default is found by itself in the list
  have hhad : ∀ one ∈ demands instruction,
      one.2.input ∈ (inputs instruction .defaulted).map (·.input) ↔ one.1 = .defaulted := by
    intro one hone
    constructor
    · intro h
      obtain ⟨given, hgiven, hinput⟩ := List.mem_map.mp h
      have hsame := List.inj_on_of_nodup_map hnodup (mem_inputs_iff.mp hgiven) hone hinput
      rw [← hsame]
    · intro h
      exact List.mem_map_of_mem (mem_inputs_iff.mpr (h ▸ hone))
  have hkept : ∀ one ∈ demands instruction, decide ((renew new? one).1 = .defaulted)
      = ((new? one.2.input).isSome
        || decide (one.2.input ∈ (inputs instruction .defaulted).map (·.input))) := by
    intro one hone
    cases hnew : new? one.2.input with
    | some value => rw [renew_of_some hnew]; rfl
    | none => rw [renew_of_none hnew, decide_eq_decide.mpr (hhad one hone).symm]; rfl
  rw [inputs, demands_override, List.filter_map, List.map_map, List.map_map, ← map_input_demands,
    List.filter_map]
  simp only [Function.comp_def, input_renew]
  rw [List.filter_congr hkept]

/-- An input has its new default, or what it had if there is none. -/
theorem mem_defaulted_override (h : given ∈ inputs (instruction.override new?) .defaulted) :
    (∃ value, new? given.input = some value ∧ given.defaultValue = some value)
      ∨ new? given.input = none ∧ given ∈ inputs instruction .defaulted := by
  rw [mem_inputs_iff, demands_override] at h
  obtain ⟨one, hone, hgiven⟩ := List.mem_map.mp h
  have hinput := input_renew new? one
  rw [hgiven] at hinput
  cases hnew : new? one.2.input with
  | some value =>
      rw [renew_of_some hnew] at hgiven
      obtain ⟨-, rfl⟩ := Prod.mk.inj hgiven
      exact .inl ⟨value, hnew, rfl⟩
  | none =>
      rw [renew_of_none hnew] at hgiven
      subst hgiven
      exact .inr ⟨hnew, mem_inputs_iff.mpr hone⟩

end Signature

/-! ## Rules and signatures -/

/-- The default that the value of a rule becomes for an instruction: an address gets one binding
    for each variable seed of the recipe, and any other value is taken as it is. -/
inductive Program.Settles (program : Program) (instruction : Instruction) :
    DefaultValue → DefaultValue → Prop
  | address {owner : String} {given bound : List SeedBinding} {recipe : List Seed}
      (howned : ∃ account ∈ program.accounts, account.name = owner ∧ account.seeds = some recipe)
      (hbinds : instruction.Binds given recipe bound) :
      program.Settles instruction (.pda owner given) (.pda owner bound)
  | other {value : DefaultValue} (h : ∀ owner given, value ≠ .pda owner given) :
      program.Settles instruction value value

namespace SetDefaults

/-- The last of the rules for an input of an instruction. -/
def ruleFor? (operation : SetDefaults) (program : Program) (instruction : Instruction)
    (input : Input) : Option DefaultRule :=
  operation.lastFor? (input.pathIn program.name instruction.name)

/-- How an instruction and its signature come out of rules for defaults: all inputs are still
    there once, those with a rule are no longer required or optional but have a default, and
    that is the value of the last rule. -/
structure Narrows (operation : SetDefaults) (program : Program)
    (instruction instruction' : Instruction) : Prop where
  name : instruction'.name = instruction.name
  distinct : instruction.inputs.Nodup
  once : (((Signature.of instruction').required ++ (Signature.of instruction').optional
    ++ (Signature.of instruction').defaulted).map (·.input)).Perm instruction.inputs
  required : (Signature.of instruction').required = (Signature.of instruction).required.filter
    fun given => (operation.ruleFor? program instruction given.input).isNone
  optional : (Signature.of instruction').optional = (Signature.of instruction).optional.filter
    fun given => (operation.ruleFor? program instruction given.input).isNone
  defaulted : (Signature.of instruction').defaulted.map (·.input)
    = instruction.inputs.filter fun input => (operation.ruleFor? program instruction input).isSome
        || input ∈ (Signature.of instruction).defaulted.map (·.input)
  values : ∀ given ∈ (Signature.of instruction').defaulted,
    match operation.ruleFor? program instruction given.input with
    | some rule => ∃ value, program.Settles instruction rule.value value
        ∧ given.defaultValue = some value
    | none => given ∈ (Signature.of instruction).defaulted
  untouched : (∀ input ∈ instruction.inputs, operation.ruleFor? program instruction input = none) →
    Signature.of instruction' = Signature.of instruction

variable {tree next : Tree} {operation : SetDefaults} {program : Program}
  {instruction : Instruction}

/-- A value that is not an address is resolved to itself. -/
theorem resolve_eq_value {index : Index} {rule : DefaultRule} {of : InputTarget}
    {value : DefaultValue} (hother : ∀ owner given, rule.value ≠ .pda owner given)
    (h : rule.resolve index instruction of = .ok value) : value = rule.value := by
  obtain ⟨target, given⟩ := rule
  cases DefaultRule.resolve_eq_ok_iff.mp h with
  | @pda owner given _ _ => exact absurd rfl (hother owner given)
  | absent _ | programId _ | literal _ | account _ _ | argument _ => rfl

/-- A rule that is settled for an input has a value that becomes the default. -/
theorem settles_of_settle (hd : tree.Distinct) {slot : Slot} {of : InputTarget}
    (ht : tree.Takes slot program instruction of) {rule : DefaultRule}
    (htarget : rule.target = of.input.pathIn program.name instruction.name)
    {stored : Slot × DefaultValue} (h : rule.settle (Index.of tree) = .ok stored) :
    program.Settles instruction rule.value stored.2 := by
  have hresolve := ((DefaultRule.settle_eq_ok_iff hd ht htarget).mp h).2
  by_cases haddress : ∃ owner given, rule.value = .pda owner given
  · obtain ⟨owner, given, hvalue⟩ := haddress
    obtain ⟨target, value⟩ := rule
    obtain rfl : value = .pda owner given := hvalue
    obtain rfl : target = of.input.pathIn program.name instruction.name := htarget
    have hholds : of.holdsAddress = true := by
      obtain ⟨p, -, hp, -⟩ := ht.place
      have hprogram := of.input.programName?_pathIn program.name instruction.name
      obtain ⟨bound, hbound, -⟩ := bind_eq_ok.mp hresolve
      exact (DefaultRule.bindSeeds_eq_ok hd hp hprogram hbound).1
    obtain ⟨recipe, bound, hderives, hbinds, rfl⟩ :=
      (DefaultRule.settle_address hd ht hholds).mp h
    exact .address hderives.owned hbinds
  · have hother : ∀ owner given, rule.value ≠ .pda owner given := fun owner given hvalue =>
      haddress ⟨owner, given, hvalue⟩
    rw [resolve_eq_value hother hresolve]
    exact .other hother

/-- An input of an instruction of a tree has a slot. -/
theorem exists_takes (hp : program ∈ tree.programs) (hi : instruction ∈ program.instructions)
    {input : Input} (h : input ∈ instruction.inputs) :
    ∃ slot of, tree.Takes slot program instruction of ∧ of.input = input := by
  obtain ⟨p, hp⟩ := List.mem_iff_getElem?.mp hp
  obtain ⟨i, hi⟩ := List.mem_iff_getElem?.mp hi
  rcases List.mem_append.mp h with h | h
  · obtain ⟨a, ha, rfl⟩ := List.mem_map.mp h
    obtain ⟨m, hm⟩ := List.mem_iff_getElem?.mp ha
    exact ⟨_, _, .account hp hi hm, rfl⟩
  · obtain ⟨a, ha, rfl⟩ := List.mem_map.mp h
    obtain ⟨m, hm⟩ := List.mem_iff_getElem?.mp ha
    exact ⟨_, _, .argument hp hi hm, rfl⟩

/-- An input has something new exactly when there is a rule for it. -/
theorem newDefault?_eq_none_iff
    (hall : ∀ rule ∈ operation.rules, ∃ stored, rule.settle (Index.of tree) = .ok stored)
    {path : NodePath} :
    operation.newDefault? (Index.of tree) path = none ↔ operation.lastFor? path = none := by
  unfold newDefault?
  cases hlast : operation.lastFor? path with
  | none => exact iff_of_true rfl rfl
  | some rule =>
      obtain ⟨stored, hstored⟩ := hall rule (mem_of_lastFor? hlast).1
      rw [Option.bind_some, hstored]
      exact iff_of_false nofun nofun

/-- An instruction that is overridden by rules is narrowed by them. -/
theorem narrows_override (hd : tree.Distinct)
    (hall : ∀ rule ∈ operation.rules, ∃ stored, rule.settle (Index.of tree) = .ok stored)
    (hp : program ∈ tree.programs) (hi : instruction ∈ program.instructions) :
    operation.Narrows program instruction (instruction.override fun input =>
      operation.newDefault? (Index.of tree) (input.pathIn program.name instruction.name)) := by
  have hdistinct := (hd.members program hp).inputs instruction hi
  have hnone : ∀ input : Input, operation.newDefault? (Index.of tree)
      (input.pathIn program.name instruction.name) = none
        ↔ operation.ruleFor? program instruction input = none := fun input =>
    newDefault?_eq_none_iff hall
  have hisNone : ∀ input : Input, (operation.newDefault? (Index.of tree)
      (input.pathIn program.name instruction.name)).isNone
        = (operation.ruleFor? program instruction input).isNone := fun input => by
    rw [Bool.eq_iff_iff, Option.isNone_iff_eq_none, Option.isNone_iff_eq_none, hnone]
  have hstays : ∀ demand, demand ≠ .defaulted →
      Signature.inputs (instruction.override fun input =>
          operation.newDefault? (Index.of tree) (input.pathIn program.name instruction.name)) demand
        = (Signature.inputs instruction demand).filter
            fun given => (operation.ruleFor? program instruction given.input).isNone := by
    intro demand hdemand
    rw [Signature.inputs_override_of_ne hdemand]
    simp only [hisNone]
  refine { name := rfl, distinct := hdistinct.inputs, once := ?_, required := ?_, optional := ?_,
           defaulted := ?_, values := fun given hgiven => ?_, untouched := fun huntouched => ?_ }
  · rw [← Signature.inputs_override]
    exact Signature.perm_inputs
  · exact hstays .required nofun
  · exact hstays .optional nofun
  · refine (Signature.map_input_defaulted_override hdistinct).trans
      (List.filter_congr fun input _ => ?_)
    rw [← Option.not_isNone, hisNone, Option.not_isNone]
    rfl
  · have hinput : given.input ∈ instruction.inputs := by
      rw [← Signature.inputs_override, ← Signature.map_input_demands]
      exact List.mem_map_of_mem (f := (·.2.input)) (Signature.mem_inputs_iff.mp hgiven)
    obtain ⟨slot, of, ht, hof⟩ := exists_takes hp hi hinput
    rcases Signature.mem_defaulted_override hgiven with ⟨value, hnew, hvalue⟩ | ⟨hnew, hmem⟩
    · obtain ⟨rule, hrule, hsettled⟩ := Option.bind_eq_some_iff.mp hnew
      obtain ⟨stored, hstored, rfl⟩ := Option.map_eq_some_iff.mp hsettled
      have htarget := (mem_of_lastFor? hrule).2
      rw [← hof] at htarget
      rw [ruleFor?, hrule]
      exact ⟨_, settles_of_settle hd ht htarget (toOption_eq_some.mp hstored), hvalue⟩
    · rw [(hnone given.input).mp hnew]
      exact hmem
  · rw [Instruction.override_eq_self fun input hinput =>
      (hnone input).mpr (huntouched input hinput)]

/-- **NARROWED SIGNATURES**: where names are distinct, rules for defaults that succeed narrow
    every signature by the last rule for each input, and touch no other. -/
theorem apply_signatures (hd : tree.Distinct) (h : operation.apply (Index.of tree) = .ok next) :
    List.Forall₂ (fun program program' => program'.name = program.name
        ∧ List.Forall₂ (operation.Narrows program) program.instructions program'.instructions)
      tree.programs next.programs := by
  obtain ⟨stored, hstored, -⟩ := apply_eq_ok_iff.mp h
  have hall : ∀ rule ∈ operation.rules, ∃ stored, rule.settle (Index.of tree) = .ok stored := by
    intro rule hrule
    obtain ⟨one, -, hone⟩ := exists_of_forall₂_left (forall₂_of_mapM_eq_ok hstored) hrule
    exact ⟨one, hone⟩
  rw [apply_eq_override hd h]
  refine List.forall₂_map_right_iff.mpr (List.forall₂_same.mpr fun program hp => ⟨rfl, ?_⟩)
  exact List.forall₂_map_right_iff.mpr (List.forall₂_same.mpr fun instruction hi =>
    narrows_override hd hall hp hi)

end SetDefaults

/-- Rules for the bank: two for the vault, and one for the argument that has the name of an
    account. -/
def vaultRules : SetDefaults := ⟨[⟨.instructionAccount "bank" "open" "vault", .programId⟩,
  ⟨.instructionArgument "bank" "open" "payer", .account "payer"⟩,
  ⟨.instructionAccount "bank" "open" "vault", .pda "Vault" [⟨"side", .argument "payer"⟩]⟩]⟩

/-- What is asked for after these rules. -/
def vaultSignature : Signature where
  required := [⟨.account "payer", none⟩, ⟨.argument "side", none⟩]
  defaulted := [⟨.account "vault", some (.pda "Vault"
      [⟨"payer", .account "payer"⟩, ⟨"side", .argument "payer"⟩])⟩,
    ⟨.argument "payer", some (.account "payer")⟩]
  optional := [⟨.account "guest", none⟩]

theorem SetDefaults.apply_signatures_bank : seededBank.Distinct
    ∧ ∃ next, vaultRules.apply (Index.of seededBank) = .ok next
      ∧ List.Forall₂ (fun program program' => program'.name = program.name
          ∧ List.Forall₂ (vaultRules.Narrows program) program.instructions program'.instructions)
        seededBank.programs next.programs
      ∧ next.programs.map (·.instructions.map Signature.of) = [[vaultSignature, ⟨[], [], []⟩]] := by
  have hseeds : bankRecipe.apply (Index.of bankTree) = .ok seededBank := by decide +kernel
  have hreachable : seededBank.Reachable :=
    @Tree.Reachable.step bankTree seededBank (.setSeeds bankRecipe) (.load load_bank) hseeds
  have hdistinct : seededBank.Distinct := hreachable.wellFormed.distinct
  obtain ⟨next, hnext, hsignatures⟩ : ∃ next,
      vaultRules.apply (Index.of seededBank) = .ok next
        ∧ decide (next.programs.map (·.instructions.map Signature.of)
            = [[vaultSignature, ⟨[], [], []⟩]]) = true := exists_ok_of_any (by decide +kernel)
  exact ⟨hdistinct, next, hnext, SetDefaults.apply_signatures hdistinct hnext,
    of_decide_eq_true hsignatures⟩

end Bindery
