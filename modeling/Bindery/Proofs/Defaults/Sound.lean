import Bindery.Operation.Defaults
import Bindery.Proofs.WellFormed

/-! # Sound default values

    A default is sound at its target when it reads inputs that the instruction
    takes, none of them the target or an optional account, derives addresses of
    accounts that have a recipe, and has a shape that the target can hold.
    Soundness looks at recipes, and at the names, flags and types of inputs; it
    does not see tags or other defaults (`Sound.keeping_iff`), and it is kept
    when an admissible rename renames everything at once (`Sound.substitute`). -/

namespace Bindery

/-- A program has a recipe for the address of an account. -/
def Program.HasRecipe (program : Program) (owner : String) : Prop :=
  ∃ account ∈ program.accounts, account.name = owner ∧ account.seeds.isSome = true

/-- What a default at a target may read: an input of the instruction other than the
    target, and no optional account. -/
structure Input.Readable (instruction : Instruction) (target : InputTarget) (input : Input) :
    Prop where
  taken : instruction.takes input = true
  other : input ≠ target.input
  required : instruction.isOptionalAccount input = false

/-- A default that can stand at a target of an instruction. -/
def DefaultValue.Sound (program : Program) (instruction : Instruction) (target : InputTarget) :
    DefaultValue → Prop
  | .pda owner seeds =>
      target.holdsAddress = true ∧ program.HasRecipe owner
        ∧ ∀ binding ∈ seeds, binding.value.Readable instruction target
  | .account name =>
      target.holdsAddress = true ∧ (Input.account name).Readable instruction target
  | .argument name => (Input.argument name).Readable instruction target
  | .absent => target.canBeAbsent = true
  | .programId => target.holdsAddress = true
  | .literal value => value.fits target = true

/-- Every default of an instruction can stand where it is. -/
structure Instruction.DefaultsSound (program : Program) (instruction : Instruction) : Prop where
  accounts : ∀ a ∈ instruction.accounts, ∀ value, a.defaultValue = some value →
    value.Sound program instruction (.account a)
  arguments : ∀ a ∈ instruction.arguments, ∀ value, a.defaultValue = some value →
    value.Sound program instruction (.argument a)

/-- Every default of a program can stand where it is. -/
def Program.DefaultsSound (program : Program) : Prop :=
  ∀ instruction ∈ program.instructions, instruction.DefaultsSound program

/-- Every default of a tree can stand where it is. -/
def Tree.DefaultsSound (tree : Tree) : Prop :=
  ∀ program ∈ tree.programs, program.DefaultsSound

/-- An instruction takes what its sound defaults read. -/
theorem DefaultValue.Sound.takes {program : Program} {instruction : Instruction}
    {target : InputTarget} {value : DefaultValue} (h : value.Sound program instruction target) :
    ∀ input ∈ value.reads, instruction.takes input = true := by
  cases value with
  | pda owner seeds =>
      intro input hinput
      obtain ⟨binding, hbinding, rfl⟩ := List.mem_map.mp hinput
      exact (h.2.2 binding hbinding).taken
  | account name => exact List.forall_mem_singleton.mpr h.2.taken
  | argument name => exact List.forall_mem_singleton.mpr (Input.Readable.taken h)
  | absent | programId | literal => exact List.forall_mem_nil _

/-! ## More recipes do no harm -/

section Recipes

variable {program program' : Program} {instruction : Instruction}

/-- A default stays sound when the program has the recipes it had. -/
theorem DefaultValue.Sound.mono
    (hrecipes : ∀ owner, program.HasRecipe owner → program'.HasRecipe owner)
    {target : InputTarget} {value : DefaultValue} (h : value.Sound program instruction target) :
    value.Sound program' instruction target := by
  cases value with
  | pda owner seeds => exact ⟨h.1, hrecipes owner h.2.1, h.2.2⟩
  | account name => exact h
  | argument name => exact h
  | absent => exact h
  | programId => exact h
  | literal literal => exact h

/-- The defaults of an instruction stay sound when the program has the recipes it
    had. -/
theorem Instruction.DefaultsSound.mono
    (hrecipes : ∀ owner, program.HasRecipe owner → program'.HasRecipe owner)
    (h : instruction.DefaultsSound program) : instruction.DefaultsSound program' :=
  ⟨fun a hmem value hvalue => (h.accounts a hmem value hvalue).mono hrecipes,
    fun a hmem value hvalue => (h.arguments a hmem value hvalue).mono hrecipes⟩

end Recipes

/-! ## Tags and other defaults do not matter -/

section Views

variable {kept : Attachment → Bool} {program : Program} {instruction : Instruction}

/-- The same target with the attachments of some kinds only. -/
def InputTarget.keeping (kept : Attachment → Bool) : InputTarget → InputTarget
  | .account a => .account (a.keeping kept)
  | .argument a => .argument (a.keeping kept)

/-- A target is an input, whatever is attached to it. -/
theorem InputTarget.input_keeping (target : InputTarget) :
    (target.keeping kept).input = target.input := by
  cases target <;> rfl

/-- An account is found under its name, whatever is attached. -/
theorem Instruction.account?_keeping (name : String) :
    (instruction.keeping kept).account? name
      = (instruction.account? name).map (·.keeping kept) :=
  List.find?_map ..

/-- An argument is found under its name, whatever is attached. -/
theorem Instruction.argument?_keeping (name : String) :
    (instruction.keeping kept).argument? name
      = (instruction.argument? name).map (·.keeping kept) :=
  List.find?_map ..

/-- An instruction takes its inputs, whatever is attached. -/
theorem Instruction.takes_keeping (input : Input) :
    (instruction.keeping kept).takes input = instruction.takes input := by
  cases input with
  | account name => simp only [takes, account?_keeping, Option.isSome_map]
  | argument name => simp only [takes, argument?_keeping, Option.isSome_map]

/-- An account is optional, whatever is attached. -/
theorem Instruction.isOptionalAccount_keeping (input : Input) :
    (instruction.keeping kept).isOptionalAccount input = instruction.isOptionalAccount input := by
  cases input with
  | account name =>
      simp only [isOptionalAccount, account?_keeping, Option.any_map]
      rfl
  | argument name => rfl

/-- A target can hold an address, whatever is attached. -/
theorem InputTarget.holdsAddress_keeping (target : InputTarget) :
    (target.keeping kept).holdsAddress = target.holdsAddress := by
  cases target <;> rfl

/-- What may be read does not depend on attachments. -/
theorem Input.Readable.keeping_iff {target : InputTarget} {input : Input} :
    input.Readable (instruction.keeping kept) (target.keeping kept)
      ↔ input.Readable instruction target := by
  constructor
  · rintro ⟨ht, ho, hr⟩
    rw [Instruction.takes_keeping] at ht
    rw [Instruction.isOptionalAccount_keeping] at hr
    exact ⟨ht, target.input_keeping ▸ ho, hr⟩
  · rintro ⟨ht, ho, hr⟩
    refine ⟨?_, target.input_keeping.symm ▸ ho, ?_⟩
    · rw [Instruction.takes_keeping, ht]
    · rw [Instruction.isOptionalAccount_keeping, hr]

/-- Where recipes are kept, accounts have them as before. -/
theorem Program.HasRecipe.keeping_iff (hkept : kept .recipe = true) {owner : String} :
    (program.keeping kept).HasRecipe owner ↔ program.HasRecipe owner := by
  have hseeds : ∀ account : Account, (account.keeping kept).seeds = account.seeds :=
    fun _ => if_pos hkept
  unfold HasRecipe
  simp only [Program.keeping, List.mem_map, exists_exists_and_eq_and, hseeds]
  rfl

/-- Of the attachments only recipes matter for soundness. -/
theorem DefaultValue.Sound.keeping_iff (hkept : kept .recipe = true) {target : InputTarget}
    {value : DefaultValue} :
    value.Sound (program.keeping kept) (instruction.keeping kept) (target.keeping kept)
      ↔ value.Sound program instruction target := by
  cases value with
  | pda owner seeds =>
      simp only [Sound, InputTarget.holdsAddress_keeping, Program.HasRecipe.keeping_iff hkept,
        Input.Readable.keeping_iff]
  | account name => simp only [Sound, InputTarget.holdsAddress_keeping, Input.Readable.keeping_iff]
  | argument name => exact Input.Readable.keeping_iff
  | absent => cases target <;> exact Iff.rfl
  | programId => simp only [Sound, InputTarget.holdsAddress_keeping]
  | literal value => cases target <;> exact Iff.rfl

/-- Tags do not matter for the defaults of a program. -/
theorem Program.DefaultsSound.keeping_iff (hrecipe : kept .recipe = true)
    (hdefault : kept .default = true) :
    (program.keeping kept).DefaultsSound ↔ program.DefaultsSound := by
  have haccount : ∀ a : InstructionAccount, (a.keeping kept).defaultValue = a.defaultValue :=
    fun _ => if_pos hdefault
  have hargument : ∀ a : InstructionArgument, (a.keeping kept).defaultValue = a.defaultValue :=
    fun _ => if_pos hdefault
  unfold Program.DefaultsSound
  simp only [Program.keeping, List.forall_mem_map]
  refine forall₂_congr fun instruction _ => ?_
  constructor
  · rintro ⟨ha, hg⟩
    refine ⟨fun a hmem value hvalue => ?_, fun a hmem value hvalue => ?_⟩
    · rw [← haccount] at hvalue
      exact (DefaultValue.Sound.keeping_iff hrecipe).mp
        (ha _ (List.mem_map_of_mem hmem) value hvalue)
    · rw [← hargument] at hvalue
      exact (DefaultValue.Sound.keeping_iff hrecipe).mp
        (hg _ (List.mem_map_of_mem hmem) value hvalue)
  · rintro ⟨ha, hg⟩
    refine ⟨List.forall_mem_map.mpr fun a hmem value hvalue => ?_,
      List.forall_mem_map.mpr fun a hmem value hvalue => ?_⟩
    · rw [haccount] at hvalue
      exact (DefaultValue.Sound.keeping_iff hrecipe).mpr (ha a hmem value hvalue)
    · rw [hargument] at hvalue
      exact (DefaultValue.Sound.keeping_iff hrecipe).mpr (hg a hmem value hvalue)

/-- A tree that is the same up to tags has as sound defaults. -/
theorem Tree.DefaultsSound.congr {tree next : Tree} (hrecipe : kept .recipe = true)
    (hdefault : kept .default = true) (h : next.keeping kept = tree.keeping kept)
    (hs : tree.DefaultsSound) : next.DefaultsSound := by
  intro program hmem
  obtain ⟨before, hbefore, hsame⟩ := Tree.exists_of_keeping_eq h hmem
  rw [← Program.DefaultsSound.keeping_iff hrecipe hdefault, ← hsame,
    Program.DefaultsSound.keeping_iff hrecipe hdefault]
  exact hs before hbefore

end Views

/-! ## Admissible renames -/

/-- The same target with its names and references replaced. -/
def InputTarget.substitute (names : NodePath → String) (program : Program)
    (instruction : String) : InputTarget → InputTarget
  | .account a => .account (a.substitute names program.name instruction)
  | .argument a => .argument (a.substitute names program instruction)

section Renames

variable {tree : Tree} {operation : Rename} {p i : Nat} {program : Program}
  {instruction : Instruction} {target : InputTarget} {input other : Input}

/-- A substituted target is the substituted input. -/
theorem InputTarget.input_substitute (names : NodePath → String) (target : InputTarget) :
    (target.substitute names program instruction.name).input
      = target.input.substitute names program.name instruction.name := by
  cases target <;> rfl

/-- An input that an instruction takes is held under its path. -/
theorem Instruction.contains_of_takes (hp : tree.programs[p]? = some program)
    (hi : program.instructions[i]? = some instruction) (h : instruction.takes input = true) :
    (Index.of tree).contains (input.pathIn program.name instruction.name) = true := by
  cases input with
  | account name =>
      obtain ⟨a, ha, rfl⟩ := List.mem_map.mp (isSome_find?_iff.mp h)
      obtain ⟨m, hm⟩ := List.mem_iff_getElem?.mp ha
      exact Index.contains_iff.mpr ⟨_, _, .instructionAccount hp hi hm⟩
  | argument name =>
      obtain ⟨a, ha, rfl⟩ := List.mem_map.mp (isSome_find?_iff.mp h)
      obtain ⟨m, hm⟩ := List.mem_iff_getElem?.mp ha
      exact Index.contains_iff.mpr ⟨_, _, .instructionArgument hp hi hm⟩

/-- A renamed instruction takes what its inputs have become. -/
theorem Instruction.takes_substitute (names : NodePath → String)
    (h : instruction.takes input = true) :
    (instruction.substitute names program).takes
      (input.substitute names program.name instruction.name) = true := by
  cases input with
  | account name =>
      obtain ⟨a, ha, rfl⟩ := List.mem_map.mp (isSome_find?_iff.mp h)
      refine isSome_find?_iff.mpr (List.mem_map.mpr ⟨_, List.mem_map_of_mem ha, rfl⟩)
  | argument name =>
      obtain ⟨a, ha, rfl⟩ := List.mem_map.mp (isSome_find?_iff.mp h)
      refine isSome_find?_iff.mpr (List.mem_map.mpr ⟨_, List.mem_map_of_mem ha, rfl⟩)

/-- Different inputs of an instruction become different inputs. -/
theorem Input.substitute_injective (hadm : operation.Admissible (Index.of tree))
    (hp : tree.programs[p]? = some program) (hi : program.instructions[i]? = some instruction)
    (h : instruction.takes input = true) (h' : instruction.takes other = true)
    (heq : input.substitute operation.nameOf program.name instruction.name
      = other.substitute operation.nameOf program.name instruction.name) : input = other := by
  have hheld := Instruction.contains_of_takes hp hi h
  have hheld' := Instruction.contains_of_takes hp hi h'
  cases input with
  | account name =>
      cases other with
      | account name' =>
          have hscope := NodePath.isScope_instructionAccount program.name instruction.name
          rw [hadm.nameOf_injective hscope hheld hheld' (Input.account.inj heq)]
      | argument name' => exact nomatch heq
  | argument name =>
      cases other with
      | account name' => exact nomatch heq
      | argument name' =>
          have hscope := NodePath.isScope_instructionArgument program.name instruction.name
          rw [hadm.nameOf_injective hscope hheld hheld' (Input.argument.inj heq)]

/-- An input that is no optional account becomes no optional account. -/
theorem Instruction.isOptionalAccount_substitute (hadm : operation.Admissible (Index.of tree))
    (hp : tree.programs[p]? = some program) (hi : program.instructions[i]? = some instruction)
    (h : instruction.takes input = true) :
    (instruction.substitute operation.nameOf program).isOptionalAccount
        (input.substitute operation.nameOf program.name instruction.name)
      = instruction.isOptionalAccount input := by
  cases input with
  | argument name => rfl
  | account name =>
      have hheld := contains_of_takes hp hi h
      have hfound : (instruction.substitute operation.nameOf program).account?
          (operation.nameOf (.instructionAccount program.name instruction.name name))
            = (instruction.account? name).map
                (·.substitute operation.nameOf program.name instruction.name) := by
        refine find?_map_renamed (r := fun name =>
          operation.nameOf (.instructionAccount program.name instruction.name name))
          (fun _ _ => rfl) fun a ha heq => ?_
        obtain ⟨m, hm⟩ := List.mem_iff_getElem?.mp ha
        refine hadm.nameOf_injective
          (NodePath.isScope_instructionAccount program.name instruction.name) ?_ hheld heq
        exact Index.contains_iff.mpr ⟨_, _, .instructionAccount hp hi hm⟩
      show ((instruction.substitute operation.nameOf program).account? _).any (·.isOptional) = _
      rw [hfound, Option.any_map]
      rfl

/-- What may be read may be read after the renames. -/
theorem Input.Readable.substitute (hadm : operation.Admissible (Index.of tree))
    (hp : tree.programs[p]? = some program) (hi : program.instructions[i]? = some instruction)
    (htarget : instruction.takes target.input = true) (h : input.Readable instruction target) :
    (input.substitute operation.nameOf program.name instruction.name).Readable
      (instruction.substitute operation.nameOf program)
      (target.substitute operation.nameOf program instruction.name) where
  taken := instruction.takes_substitute operation.nameOf h.taken
  other := by
    rw [InputTarget.input_substitute]
    intro heq
    exact h.other (Input.substitute_injective hadm hp hi h.taken htarget heq)
  required := by
    rw [Instruction.isOptionalAccount_substitute hadm hp hi h.taken]
    exact h.required

/-- Recipes go with their accounts. -/
theorem Program.HasRecipe.substitute (names : NodePath → String) {owner : String}
    (h : program.HasRecipe owner) :
    (program.substitute names).HasRecipe (names (.account program.name owner)) := by
  obtain ⟨account, hmem, rfl, hseeds⟩ := h
  exact ⟨_, List.mem_map_of_mem hmem, rfl, hseeds⟩

/-- Links have no part in what a literal can stand for. -/
theorem Literal.fitsType_mapLinks (literal : Literal) (rename : String → String)
    (type : TypeNode) : literal.fitsType (type.mapLinks rename) = literal.fitsType type := by
  cases literal <;> cases type <;> rfl

/-- A renamed target can hold an address when the target can. -/
theorem InputTarget.holdsAddress_substitute (names : NodePath → String)
    (target : InputTarget) :
    (target.substitute names program instruction.name).holdsAddress = target.holdsAddress := by
  cases target with
  | account a => rfl
  | argument a =>
      show decide ((a.type.mapLinks _).unwrapOption = .publicKey)
        = decide (a.type.unwrapOption = .publicKey)
      rw [TypeNode.unwrapOption_mapLinks, decide_eq_decide]
      exact TypeNode.mapLinks_eq_publicKey

/-- **RENAMES KEEP DEFAULTS SOUND**: a default and its target, renamed with
    everything else, fit as before. -/
theorem DefaultValue.Sound.substitute (hadm : operation.Admissible (Index.of tree))
    (hp : tree.programs[p]? = some program) (hi : program.instructions[i]? = some instruction)
    (htarget : instruction.takes target.input = true) {value : DefaultValue}
    (h : value.Sound program instruction target) :
    (value.substitute operation.nameOf program.name instruction.name).Sound
      (program.substitute operation.nameOf) (instruction.substitute operation.nameOf program)
      (target.substitute operation.nameOf program instruction.name) := by
  cases value with
  | pda owner seeds =>
      obtain ⟨haddress, hrecipe, hseeds⟩ := h
      refine ⟨?_, hrecipe.substitute _, List.forall_mem_map.mpr fun binding hmem => ?_⟩
      · rw [InputTarget.holdsAddress_substitute]
        exact haddress
      · exact (hseeds binding hmem).substitute hadm hp hi htarget
  | account name =>
      obtain ⟨haddress, hreadable⟩ := h
      refine ⟨?_, hreadable.substitute hadm hp hi htarget⟩
      rw [InputTarget.holdsAddress_substitute]
      exact haddress
  | argument name => exact Input.Readable.substitute hadm hp hi htarget h
  | absent =>
      cases target with
      | account a => exact h
      | argument a =>
          show (a.type.mapLinks _).isOption = true
          rw [TypeNode.isOption_mapLinks]
          exact h
  | programId =>
      show (target.substitute _ _ _).holdsAddress = true
      rw [InputTarget.holdsAddress_substitute]
      exact h
  | literal literal =>
      cases target with
      | account a => exact h
      | argument a =>
          show literal.fitsType (a.type.mapLinks _).unwrapOption = true
          rw [TypeNode.unwrapOption_mapLinks, Literal.fitsType_mapLinks]
          exact h

/-- Renames keep the defaults of an instruction sound. -/
theorem Instruction.DefaultsSound.substitute (hadm : operation.Admissible (Index.of tree))
    (hp : tree.programs[p]? = some program) (hi : program.instructions[i]? = some instruction)
    (h : instruction.DefaultsSound program) :
    (instruction.substitute operation.nameOf program).DefaultsSound
      (program.substitute operation.nameOf) := by
  constructor
  · refine List.forall_mem_map.mpr fun a hmem value hvalue => ?_
    obtain ⟨before, hbefore, rfl⟩ := Option.map_eq_some_iff.mp hvalue
    have htarget : instruction.takes (InputTarget.account a).input = true :=
      isSome_find?_iff.mpr (List.mem_map_of_mem hmem)
    have hsound := h.accounts a hmem before hbefore
    exact DefaultValue.Sound.substitute hadm hp hi htarget hsound
  · refine List.forall_mem_map.mpr fun a hmem value hvalue => ?_
    obtain ⟨before, hbefore, rfl⟩ := Option.map_eq_some_iff.mp hvalue
    have htarget : instruction.takes (InputTarget.argument a).input = true :=
      isSome_find?_iff.mpr (List.mem_map_of_mem hmem)
    have hsound := h.arguments a hmem before hbefore
    exact DefaultValue.Sound.substitute hadm hp hi htarget hsound

/-- Renames keep the defaults of a tree sound. -/
theorem Tree.DefaultsSound.substitute (hadm : operation.Admissible (Index.of tree))
    (h : tree.DefaultsSound) : (tree.substitute operation.nameOf).DefaultsSound := by
  refine List.forall_mem_map.mpr fun program hprogram => ?_
  refine List.forall_mem_map.mpr fun instruction hinstruction => ?_
  obtain ⟨p, hp⟩ := List.mem_iff_getElem?.mp hprogram
  obtain ⟨i, hi⟩ := List.mem_iff_getElem?.mp hinstruction
  exact (h program hprogram instruction hinstruction).substitute hadm hp hi

end Renames

end Bindery
