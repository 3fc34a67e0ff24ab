import Bindery.Proofs.Rename.Capture
import Bindery.Proofs.Resolution

/-! # Call builders — the same up to names

    What a call builder does about an input is a matter of flags and of whether
    there is a default, so the signature of a renamed instruction is the renamed
    signature (`Signature.of_substitute`).  The order of resolution compares
    inputs by name; where no two inputs that it compares get one name, it takes
    the same inputs in the same order (`orderFrom_map`).  Both are
    said of slots in the end: `Tree.builderAt?` is the builder of an instruction
    with every input replaced by its slot, and a rename does not change it
    (`Rename.builderAt?_eq`). -/

namespace Bindery

/-- The same builder input with its name and the references of its default replaced. -/
def BuilderInput.substitute (names : NodePath → String) (program instruction : String)
    (given : BuilderInput) : BuilderInput where
  input := given.input.substitute names program instruction
  defaultValue := given.defaultValue.map (·.substitute names program instruction)

/-- The same signature with all of its inputs replaced. -/
def Signature.substitute (names : NodePath → String) (program instruction : String)
    (signature : Signature) : Signature where
  required := signature.required.map (·.substitute names program instruction)
  defaulted := signature.defaulted.map (·.substitute names program instruction)
  optional := signature.optional.map (·.substitute names program instruction)

/-! ## Signatures -/

section Substitution

variable (names : NodePath → String) (program : Program) (instruction : Instruction)

/-- A substituted default reads what its inputs have become, in order. -/
theorem DefaultValue.reads_substitute (caller : String) (value : DefaultValue) :
    (value.substitute names program.name caller).reads
      = value.reads.map (·.substitute names program.name caller) := by
  cases value with
  | pda owner seeds =>
      show (seeds.map _).map _ = (seeds.map _).map _
      rw [List.map_map, List.map_map]
      rfl
  | account name | argument name => rfl
  | absent | programId | literal _ => rfl

/-- A substituted input reads what its inputs have become, in order. -/
theorem BuilderInput.reads_substitute (caller : String) (given : BuilderInput) :
    (given.substitute names program.name caller).reads
      = given.reads.map (·.substitute names program.name caller) := by
  obtain ⟨input, defaultValue⟩ := given
  cases defaultValue with
  | none => rfl
  | some value => exact value.reads_substitute names program caller

/-- **SIGNATURES GO BY FLAGS**: the signature of a substituted instruction is the substituted
    signature. -/
theorem Signature.of_substitute :
    of (instruction.substitute names program)
      = (of instruction).substitute names program.name instruction.name := by
  have hdemands : demands (instruction.substitute names program)
      = (demands instruction).map fun (demand, given) =>
          (demand, given.substitute names program.name instruction.name) := by
    simp only [demands, Instruction.substitute, List.map_append, List.map_map]
    refine congrArg₂ (· ++ ·) (List.map_congr_left fun a _ => ?_)
      (List.map_congr_left fun a _ => ?_)
    · obtain ⟨name, writable, signer, optional, docs, defaultValue⟩ := a
      cases defaultValue <;> rfl
    · obtain ⟨name, type, docs, defaultValue⟩ := a
      cases defaultValue <;> rfl
  have hinputs : ∀ demand, inputs (instruction.substitute names program) demand
      = (inputs instruction demand).map
          (·.substitute names program.name instruction.name) := by
    intro demand
    rw [inputs, inputs, hdemands, List.filter_map, List.map_map, List.map_map]
    rfl
  simp only [of, substitute, hinputs]

end Substitution

/-! ## The order of resolution -/

/-- Taking the first element that passes commutes with a map that keeps what passes. -/
theorem takeFirst_map {α β : Type} {test : α → Bool} {test' : β → Bool} {image : α → β} :
    ∀ {as : List α}, (∀ a ∈ as, test' (image a) = test a) →
      takeFirst test' (as.map image)
        = (takeFirst test as).map fun (found, others) => (image found, others.map image) := by
  intro as
  induction as with
  | nil => exact fun _ => rfl
  | cons a as ih =>
      intro h
      obtain ⟨ha, has⟩ := List.forall_mem_cons.mp h
      rw [List.map_cons, takeFirst, takeFirst, ha, ih has]
      cases test a with
      | true => rfl
      | false =>
          simp only [Bool.false_eq_true, if_false, Option.map_map]
          rfl

/-- The order of resolution, if there is one: the first input that is ready, and then the order
    of the others. -/
theorem toOption_orderFrom (bound : List Input) (pending : List BuilderInput) :
    (orderFrom bound pending).toOption
      = match takeFirst (·.isReady bound) pending with
        | some (given, rest) =>
            (orderFrom (given.input :: bound) rest).toOption.map (given :: ·)
        | none => if pending.isEmpty then some [] else none := by
  rw [orderFrom]
  split
  · next given rest htaken =>
      simp only [htaken]
      cases orderFrom (given.input :: bound) rest <;> rfl
  · next hnone =>
      simp only [hnone]
      split <;> rfl

/-- **ORDER UP TO NAMES**: where a map of inputs tells those apart that are bound, pending or
    read, the inputs are resolved after it when they were before, and in the same order. -/
theorem orderFrom_map {f : Input → Input} {image : BuilderInput → BuilderInput}
    {known : Input → Prop} (hinjective : ∀ {a b}, known a → known b → f a = f b → a = b)
    (hinput : ∀ given, (image given).input = f given.input)
    (hreads : ∀ given, (image given).reads = given.reads.map f)
    (bound : List Input) (pending : List BuilderInput) (hbound : ∀ input ∈ bound, known input)
    (hpending : ∀ given ∈ pending, known given.input ∧ ∀ input ∈ given.reads, known input) :
    (orderFrom (bound.map f) (pending.map image)).toOption
      = (orderFrom bound pending).toOption.map (·.map image) := by
  have hready : ∀ {bound : List Input}, (∀ input ∈ bound, known input) →
      ∀ {given : BuilderInput}, (∀ input ∈ given.reads, known input) →
        (image given).isReady (bound.map f) = given.isReady bound := by
    intro bound hbound given hgiven
    rw [Bool.eq_iff_iff, BuilderInput.isReady_iff, BuilderInput.isReady_iff, hreads,
      List.forall_mem_map]
    refine forall₂_congr fun input hinput => ?_
    constructor
    · intro hmem
      obtain ⟨other, hother, heq⟩ := List.mem_map.mp hmem
      rw [← hinjective (hbound other hother) (hgiven input hinput) heq]
      exact hother
    · exact List.mem_map_of_mem
  fun_induction orderFrom bound pending with
  | case1 bound pending given rest htaken ih =>
      have hperm := (perm_of_takeFirst htaken).1
      have hgiven := hpending given (hperm.mem_iff.mpr List.mem_cons_self)
      have hrest : ∀ other ∈ rest, known other.input ∧ ∀ input ∈ other.reads, known input :=
        fun other hother => hpending other (hperm.mem_iff.mpr (List.mem_cons_of_mem _ hother))
      have ih := ih (List.forall_mem_cons.mpr ⟨hgiven.1, hbound⟩) hrest
      rw [toOption_orderFrom, takeFirst_map fun other hother =>
        hready hbound (hpending other hother).2, htaken]
      simp only [Option.map_some, hinput, ← List.map_cons, ih]
      cases orderFrom (given.input :: bound) rest <;> rfl
  | case2 bound pending htaken hempty =>
      obtain rfl := List.isEmpty_iff.mp hempty
      rw [toOption_orderFrom]
      rfl
  | case3 bound pending htaken hempty =>
      rw [toOption_orderFrom, takeFirst_map fun other hother =>
        hready hbound (hpending other hother).2, htaken]
      have hsome : (pending.map image).isEmpty = false := by simpa using hempty
      simp only [Option.map_none, hsome]
      rfl

/-! ## Builders as slots -/

/-- A call builder with its inputs replaced by their slots: those in three groups, and the
    defaulted ones in the order of resolution, if there is one. -/
structure BuilderSlots where
  required : List (Option Slot)
  defaulted : List (Option Slot)
  optional : List (Option Slot)
  order : Option (List (Option Slot))
deriving DecidableEq

namespace Tree

/-- The slot of an input of an instruction. -/
def inputSlot? (tree : Tree) (program instruction : String) (given : BuilderInput) :
    Option Slot :=
  (Index.of tree).slot? (given.input.pathIn program instruction)

/-- The call builder of an instruction of a program. -/
def builder (tree : Tree) (program : Program) (instruction : Instruction) (context : String) :
    BuilderSlots :=
  let signature := Signature.of instruction
  let slots := List.map (tree.inputSlot? program.name instruction.name)
  { required := slots signature.required
    defaulted := slots signature.defaulted
    optional := slots signature.optional
    order := (resolutionOrder signature context).toOption.map slots }

/-- The call builder of the instruction in a place. -/
def builderAt? (tree : Tree) (p i : Nat) (context : String) : Option BuilderSlots :=
  tree.programs[p]?.bind fun program =>
    program.instructions[i]?.map fun instruction => tree.builder program instruction context

end Tree

section Slots

variable {tree next : Tree} {operation : Rename} {p i : Nat} {program : Program}
  {instruction : Instruction} {given : BuilderInput}

/-- The inputs of a signature are those of the accounts and arguments, with their defaults. -/
theorem Signature.mem_all (h : given ∈ (of instruction).all) :
    (∃ a ∈ instruction.accounts, given = ⟨.account a.name, a.defaultValue⟩)
      ∨ ∃ a ∈ instruction.arguments, given = ⟨.argument a.name, a.defaultValue⟩ := by
  have hdemanded : ∃ demand, given ∈ inputs instruction demand := by
    rcases List.mem_append.mp h with h | h
    · rcases List.mem_append.mp h with h | h
      · exact ⟨_, h⟩
      · exact ⟨_, h⟩
    · exact ⟨_, h⟩
  obtain ⟨demand, h⟩ := hdemanded
  obtain ⟨⟨_, found⟩, hfound, rfl⟩ := List.mem_map.mp h
  rcases List.mem_append.mp (List.mem_of_mem_filter hfound) with hfound | hfound
  · obtain ⟨a, ha, heq⟩ := List.mem_map.mp hfound
    exact .inl ⟨a, ha, (Prod.mk.inj heq).2.symm⟩
  · obtain ⟨a, ha, heq⟩ := List.mem_map.mp hfound
    exact .inr ⟨a, ha, (Prod.mk.inj heq).2.symm⟩

/-- An instruction takes the inputs of its signature. -/
theorem Signature.takes_of_mem_all (h : given ∈ (of instruction).all) :
    instruction.takes given.input = true := by
  rcases mem_all h with ⟨a, ha, rfl⟩ | ⟨a, ha, rfl⟩
  · exact isSome_find?_iff.mpr (List.mem_map_of_mem ha)
  · exact isSome_find?_iff.mpr (List.mem_map_of_mem ha)

/-- An instruction takes what the inputs of its signature read, where its defaults are
    sound. -/
theorem Signature.takes_of_reads (hsound : instruction.DefaultsSound program)
    (h : given ∈ (of instruction).all) :
    ∀ input ∈ given.reads, instruction.takes input = true := by
  intro input hinput
  obtain ⟨value, hvalue, hread⟩ : ∃ value, given.defaultValue = some value
      ∧ input ∈ value.reads := by
    unfold BuilderInput.reads at hinput
    cases hvalue : given.defaultValue with
    | none => rw [hvalue] at hinput; exact nomatch hinput
    | some value => rw [hvalue] at hinput; exact ⟨value, rfl, hinput⟩
  rcases mem_all h with ⟨a, ha, rfl⟩ | ⟨a, ha, rfl⟩
  · exact (hsound.accounts a ha value hvalue).takes input hread
  · exact (hsound.arguments a ha value hvalue).takes input hread

/-- An input that is taken has the slot that it had. -/
theorem Tree.inputSlot?_substitute {names : NodePath → String} (hd : tree.Distinct)
    (hd' : (tree.substitute names).Distinct) (hp : tree.programs[p]? = some program)
    (hi : program.instructions[i]? = some instruction)
    (h : instruction.takes given.input = true) :
    (tree.substitute names).inputSlot? (program.substitute names).name
        (instruction.substitute names program).name
        (given.substitute names program.name instruction.name)
      = tree.inputSlot? program.name instruction.name given := by
  have hheld := Instruction.contains_of_takes hp hi h
  refine (congrArg _ (Input.pathIn_substitute names program.name instruction.name _)).trans ?_
  refine Index.slot?_substitute hd hd' ?_
  rw [Index.slot?, Option.isSome_map]
  exact hheld

/-- The order of resolution of a substituted signature is the substituted order. -/
theorem resolutionOrder_substitute (hadm : operation.Admissible (Index.of tree))
    (hp : tree.programs[p]? = some program) (hi : program.instructions[i]? = some instruction)
    (hsound : instruction.DefaultsSound program) (context context' : String) :
    (resolutionOrder (Signature.of (instruction.substitute operation.nameOf program))
        context').toOption
      = (resolutionOrder (Signature.of instruction) context).toOption.map
          (·.map (·.substitute operation.nameOf program.name instruction.name)) := by
  have hword : ∀ {signature : Signature} (context : String),
      (resolutionOrder signature context).toOption
        = (orderFrom (signature.given.map (·.input)) signature.defaulted).toOption := by
    intro signature context
    unfold resolutionOrder
    cases orderFrom (signature.given.map (·.input)) signature.defaulted <;> rfl
  have hgiven : (Signature.of (instruction.substitute operation.nameOf program)).given.map (·.input)
      = ((Signature.of instruction).given.map (·.input)).map
          (·.substitute operation.nameOf program.name instruction.name) := by
    rw [Signature.of_substitute, Signature.given, Signature.given, Signature.substitute,
      ← List.map_append, List.map_map, List.map_map]
    rfl
  rw [hword, hword, hgiven, Signature.of_substitute, Signature.substitute]
  let known (input : Input) : Prop := instruction.takes input = true
  have hinjective : ∀ {a b}, known a → known b → a.substitute operation.nameOf program.name
      instruction.name = b.substitute operation.nameOf program.name instruction.name → a = b :=
    Input.substitute_injective hadm hp hi
  refine orderFrom_map hinjective (fun _ => rfl)
    (BuilderInput.reads_substitute operation.nameOf program instruction.name) _ _ ?_ ?_
  · refine List.forall_mem_map.mpr fun given hmem => ?_
    exact Signature.takes_of_mem_all (List.mem_append_left _ hmem)
  · intro given hmem
    have hall := List.mem_append_right (Signature.of instruction).given hmem
    exact ⟨Signature.takes_of_mem_all hall, Signature.takes_of_reads hsound hall⟩

/-- **ONE BUILDER**: the call builder of an instruction whose defaults are sound is the same
    after an admissible rename, slot by slot. -/
theorem Tree.builder_substitute (hd : tree.Distinct) (hadm : operation.Admissible (Index.of tree))
    (hp : tree.programs[p]? = some program) (hi : program.instructions[i]? = some instruction)
    (hsound : instruction.DefaultsSound program) (context context' : String) :
    (tree.substitute operation.nameOf).builder (program.substitute operation.nameOf)
        (instruction.substitute operation.nameOf program) context'
      = tree.builder program instruction context := by
  have hslots : ∀ {l : List BuilderInput}, (∀ given ∈ l, given ∈ (Signature.of instruction).all) →
      (l.map (·.substitute operation.nameOf program.name instruction.name)).map
          ((tree.substitute operation.nameOf).inputSlot? (program.substitute operation.nameOf).name
            (instruction.substitute operation.nameOf program).name)
        = l.map (tree.inputSlot? program.name instruction.name) := by
    intro l hl
    rw [List.map_map]
    refine List.map_congr_left fun given hgiven => ?_
    exact inputSlot?_substitute hd (hd.substitute hadm) hp hi
      (Signature.takes_of_mem_all (hl given hgiven))
  have horder := resolutionOrder_substitute hadm hp hi hsound context context'
  rw [Signature.of_substitute] at horder
  simp only [builder, Signature.of_substitute, horder, BuilderSlots.mk.injEq]
  refine ⟨hslots ?_, hslots ?_, hslots ?_, ?_⟩
  · exact fun given h => List.mem_append_left _ (List.mem_append_left _ h)
  · exact fun given h => List.mem_append_right _ h
  · exact fun given h => List.mem_append_left _ (List.mem_append_right _ h)
  · cases hresolved : resolutionOrder (Signature.of instruction) context with
    | error fault => rfl
    | ok ordered =>
        have hperm := perm_of_orderFrom (mapError_eq_ok.mp hresolved)
        refine congrArg some (hslots fun given h => ?_)
        exact List.mem_append_right _ (hperm.mem_iff.mp h)

/-- The inputs of a builder have slots, no two the same. -/
theorem Tree.exists_inputSlots (hd : tree.Distinct) (hp : tree.programs[p]? = some program)
    (hi : program.instructions[i]? = some instruction) :
    ∃ slots : List Slot, slots.Nodup
      ∧ (Signature.of instruction).all.map (tree.inputSlot? program.name instruction.name)
          = slots.map some := by
  have hslot : ∀ given ∈ (Signature.of instruction).all,
      ∃ slot, tree.inputSlot? program.name instruction.name given = some slot := by
    intro given hgiven
    have hheld := Instruction.contains_of_takes hp hi (Signature.takes_of_mem_all hgiven)
    obtain ⟨slot, node, hheld⟩ := Index.contains_iff.mp hheld
    exact ⟨slot, (Index.slot?_eq_some_iff hd).mpr ⟨node, hheld⟩⟩
  obtain ⟨slots, hslots⟩ := exists_forall₂ hslot
  have hmap := map_eq_map_iff_forall₂.mpr hslots
  refine ⟨slots, List.Nodup.of_map some ?_, hmap⟩
  have hinputs := ((hd.members _ (List.mem_of_getElem? hp)).inputs _
    (List.mem_of_getElem? hi)).inputs
  have hdistinct : (Signature.of instruction).Distinct := Signature.perm_inputs.nodup_iff.mpr hinputs
  rw [← hmap]
  refine (List.nodup_map_iff_inj_on (List.Nodup.of_map _ hdistinct)).mpr ?_
  -- a slot holds one path, and the path of an input tells what the input is
  intro given hgiven other hother heq
  obtain ⟨slot, hslot⟩ := hslot given hgiven
  obtain ⟨node, hheld⟩ := (Index.slot?_eq_some_iff hd).mp hslot
  obtain ⟨node', hheld'⟩ := (Index.slot?_eq_some_iff hd).mp (heq.symm.trans hslot)
  refine hdistinct.eq_of_input hgiven hother ?_
  exact (Input.pathIn_inj.mp (hheld.path_unique hheld')).2.2

/-- **BUILDERS KEEP THEIR SLOTS**: a rename that succeeds on a reachable tree leaves the call
    builder of every instruction as it was, slot by slot: which inputs are required, defaulted
    and optional, whether the defaults can be resolved, and in which order.  Slots tell the
    inputs of a builder apart. -/
theorem Rename.builderAt?_eq (hr : tree.Reachable)
    (h : operation.apply (Index.of tree) = .ok next) :
    (∀ p i context context', next.builderAt? p i context' = tree.builderAt? p i context)
      ∧ ∀ {p i : Nat} {program : Program} {instruction : Instruction},
          tree.programs[p]? = some program → program.instructions[i]? = some instruction →
            ∃ slots : List Slot, slots.Nodup ∧ (Signature.of instruction).all.map
              (tree.inputSlot? program.name instruction.name) = slots.map some := by
  have hd := hr.wellFormed.distinct
  obtain ⟨hadm, rfl⟩ := Rename.apply_eq_ok hd h
  refine ⟨fun p i context context' => ?_, Tree.exists_inputSlots hd⟩
  unfold Tree.builderAt?
  show ((tree.programs.map _)[p]?).bind _ = _
  rw [List.getElem?_map, Option.bind_map]
  refine Option.bind_congr fun program hp => ?_
  show ((program.instructions.map _)[i]?).map _ = _
  rw [List.getElem?_map, Option.map_map]
  refine Option.map_congr fun instruction hi => ?_
  have hsound := hr.defaultsSound program (List.mem_of_getElem? hp) instruction
    (List.mem_of_getElem? hi)
  exact Tree.builder_substitute hd hadm hp hi hsound context context'

end Slots

/-- A run over the bank after which the default of an account reads the account behind it. -/
def payerRun : List NamedOperation := bankRun.take 2 ++ [
  ⟨"payer", .setDefaults ⟨[⟨.instructionAccount "bank" "open" "payer", .argument "payer"⟩]⟩⟩]

/-- The builder of the instruction that opens: the payer is resolved in front of the vault. -/
def openBuilder : BuilderSlots where
  required := [some (.instructionArgument 0 0 0), some (.instructionArgument 0 0 1)]
  defaulted := [some (.instructionAccount 0 0 0), some (.instructionAccount 0 0 1),
    some (.instructionAccount 0 0 2)]
  optional := []
  order := some [some (.instructionAccount 0 0 1), some (.instructionAccount 0 0 0),
    some (.instructionAccount 0 0 2)]

theorem Rename.builderAt?_eq_bank : ∃ tree next : Tree,
    tree.Reachable ∧ bankNames.apply (Index.of tree) = .ok next
      ∧ next.builderAt? 0 0 "start" = some openBuilder := by
  obtain ⟨stages, hrun, hstages⟩ : ∃ stages,
      Pipeline.runDocuments [bank] payerRun = .ok stages
        ∧ (stages.any fun stage => (bankNames.apply (Index.of stage.tree)).toOption.isSome
            && decide (stage.tree.builderAt? 0 0 "open" = some openBuilder)) = true :=
    runDocuments_bank (by decide +kernel)
  obtain ⟨stage, hmem, hstage⟩ := List.any_eq_true.mp hstages
  obtain ⟨hok, hopen⟩ := Bool.and_eq_true_iff.mp hstage
  obtain ⟨next, happly⟩ := exists_ok_of_isSome hok
  have hr := reachable_of_runDocuments hrun stage hmem
  obtain ⟨hsame, -⟩ := Rename.builderAt?_eq hr happly
  refine ⟨stage.tree, next, hr, happly, ?_⟩
  rw [hsame 0 0 "open" "start"]
  exact of_decide_eq_true hopen

end Bindery
