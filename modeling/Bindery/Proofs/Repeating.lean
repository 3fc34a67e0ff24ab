import Bindery.Proofs.Commuting

/-! # Repeated operations — what a second application finds

    An operation that attaches something finds in the tree that it has made what
    it found before: recipes and defaults are set without a look at what was set
    before, and the tags that a source gives depend on the names of siblings only
    (`AssignDiscriminators.assigned_congr`).  Among the tags that take part in the
    search for collisions are now the operation's own, and those come out once
    more.  So it decides on the same edit again (`Tree.Decides.again`).

    An edit that is performed twice is performed once (`Edit.perform_perform`):
    also a list of defaults in which a target occurs more than once, since the
    last value for a target is the last one again.  Hence an operation other than
    a rename that succeeds on any tree succeeds on what it gives, and changes
    nothing there (`Operation.apply_again`). -/

namespace Bindery

/-! ## Edits that are performed twice -/

/-- A change of one item that hides another is all that is seen of both. -/
theorem modify_hides {α : Type} {f g : α → α} (h : ∀ a, f (g a) = f a) (l : List α) (i : Nat) :
    (l.modify i g).modify i f = l.modify i f := by
  rw [List.modify_modify_eq]
  exact congrArg (List.modify l i) (funext h)

/-- What stands in for nothing does so once. -/
theorem orElse_again {α : Type} (a b : Option α) : (a <|> (a <|> b)) = (a <|> b) := by
  cases a <;> rfl

/-- Tags that are given twice are given once. -/
theorem Program.setTags_setTags (program : Program) (siblings : SiblingSet)
    (tagOf? : String → Option Discriminator) :
    (program.setTags siblings tagOf?).setTags siblings tagOf?
      = program.setTags siblings tagOf? := by
  cases siblings with
  | accounts => simp only [setTags, List.map_map, Function.comp_def, orElse_again]
  | instructions => simp only [setTags, List.map_map, Function.comp_def, orElse_again]

namespace Tree

variable (tree : Tree)

/-- A change of a program that hides another is all that is seen of both. -/
theorem modifyProgram_hides {p : Nat} {f g : Program → Program}
    (h : ∀ program, f (g program) = f program) :
    (tree.modifyProgram p g).modifyProgram p f = tree.modifyProgram p f := by
  simp only [modifyProgram, modify_hides h]

/-- A change of an instruction that hides another is all that is seen of both. -/
theorem modifyInstruction_hides {p i : Nat} {f g : Instruction → Instruction}
    (h : ∀ instruction, f (g instruction) = f instruction) :
    (tree.modifyInstruction p i g).modifyInstruction p i f = tree.modifyInstruction p i f := by
  refine modifyProgram_hides tree fun program => ?_
  exact congrArg (fun instructions => { program with instructions := instructions })
    (modify_hides h program.instructions i)

/-- A default hides the one that was stored for the same input. -/
theorem setDefault_hides (slot : Slot) (value hidden : DefaultValue) :
    (tree.setDefault slot hidden).setDefault slot value = tree.setDefault slot value := by
  cases slot with
  | instructionAccount p i m =>
      refine modifyInstruction_hides tree fun instruction => ?_
      refine congrArg (fun accounts => { instruction with accounts := accounts }) ?_
      exact modify_hides (fun _ => by rfl) instruction.accounts m
  | instructionArgument p i m =>
      refine modifyInstruction_hides tree fun instruction => ?_
      refine congrArg (fun arguments => { instruction with arguments := arguments }) ?_
      exact modify_hides (fun _ => by rfl) instruction.arguments m
  | _ => rfl

/-- Defaults hide what was stored for one of their inputs. -/
theorem setDefaults_hides {stored : List (Slot × DefaultValue)} {slot : Slot}
    (h : slot ∈ stored.map (·.1)) (hidden : DefaultValue) :
    (tree.setDefault slot hidden).setDefaults stored = tree.setDefaults stored := by
  induction stored generalizing tree with
  | nil => exact absurd h List.not_mem_nil
  | cons one stored ih =>
      show ((tree.setDefault slot hidden).setDefault one.1 one.2).setDefaults stored
        = (tree.setDefault one.1 one.2).setDefaults stored
      by_cases hone : one.1 = slot
      · rw [hone, setDefault_hides]
      · -- the default for another input leaves the hidden one to those behind it
        have hstored : slot ∈ stored.map (·.1) :=
          (List.mem_cons.mp h).resolve_left (Ne.symm hone)
        rw [tree.setDefault_comm hone, ih _ hstored]

/-- Defaults hide defaults for inputs of theirs. -/
theorem setDefaults_setDefaults {stored hidden : List (Slot × DefaultValue)}
    (h : hidden.map (·.1) ⊆ stored.map (·.1)) :
    (tree.setDefaults hidden).setDefaults stored = tree.setDefaults stored := by
  induction hidden generalizing tree with
  | nil => rfl
  | cons one hidden ih =>
      obtain ⟨hone, hhidden⟩ := List.cons_subset.mp h
      show ((tree.setDefault one.1 one.2).setDefaults hidden).setDefaults stored = _
      rw [ih _ hhidden, setDefaults_hides tree hone]

end Tree

/-- **TWICE IS ONCE**: an edit of a tree that has it changes nothing. -/
theorem Edit.perform_perform (edit : Edit) (tree : Tree) :
    edit.perform (edit.perform tree) = edit.perform tree := by
  cases edit with
  | recipe p i seeds =>
      refine tree.modifyProgram_hides fun program => ?_
      refine congrArg (fun accounts => { program with accounts := accounts }) ?_
      exact modify_hides (fun _ => by rfl) program.accounts i
  | tags p siblings tagOf? =>
      exact tree.modifyProgram_hides fun program => program.setTags_setTags siblings tagOf?
  | defaults stored => exact tree.setDefaults_setDefaults (List.Subset.refl _)

/-! ## Decisions that are taken again -/

namespace AssignDiscriminators

variable {operation : AssignDiscriminators} {variants : List EnumVariant}

/-- The tag that an operation has for a name at a place among those that take part. -/
def tagFor (operation : AssignDiscriminators) (variants : List EnumVariant) :
    String × Nat → Except TransformError (String × Discriminator)
  | (name, ordinal) =>
      match operation.valueFor variants name ordinal with
      | .ok tag => .ok (name, tag)
      | .error fault => .error (.discriminatorMissing operation.scope name fault)

/-- The tags that an operation has for siblings are told by their names. -/
theorem assigned_eq (siblings : List Sibling) : operation.assigned variants siblings
    = ((siblings.map (·.name)).filter operation.selects).zipIdx.mapM
        (operation.tagFor variants) := by
  rw [List.filter_map, List.zipIdx_map, List.mapM_map]
  rfl

/-- Siblings of the same names get the same tags. -/
theorem assigned_congr {siblings siblings' : List Sibling}
    (h : siblings'.map (·.name) = siblings.map (·.name)) :
    operation.assigned variants siblings' = operation.assigned variants siblings := by
  rw [assigned_eq, h, assigned_eq]

/-- In the tree with its tags an operation finds the siblings with these tags. -/
theorem collection_tagged {tree : Tree} {siblings : List Sibling} {p : Nat}
    {tagOf? : String → Option Discriminator}
    (h : operation.collection (Index.of tree) = .ok (siblings, .program p)) :
    operation.collection (Index.of (Edit.perform (.tags p operation.siblings tagOf?) tree))
      = .ok (siblings.map fun s => ⟨s.name, tagOf? s.name <|> s.tag⟩, .program p) := by
  obtain ⟨⟨program, slot⟩, hprogram, heq⟩ := map_eq_ok.mp h
  obtain ⟨rfl, rfl⟩ := Prod.mk.inj heq
  refine map_eq_ok.mpr ⟨(program.setTags operation.siblings tagOf?, .program p), ?_, ?_⟩
  · rw [Index.program_tagged, hprogram]
    exact congrArg (fun program => Except.ok (program, Slot.program p)) (if_pos rfl)
  · show ((program.setTags operation.siblings tagOf?).siblings operation.siblings, _) = _
    rw [Program.siblings_setTags]

end AssignDiscriminators

section Decisions

variable {tree next : Tree} {operation : Operation} {edit : Edit}

/-- **THE SAME DECISION**: in the tree with its edit an operation decides on that edit again. -/
theorem Tree.Decides.again (h : tree.Decides operation edit) :
    (edit.perform tree).Decides operation edit := by
  cases h with
  | recipe hslot hcheck =>
      exact (Tree.Decides.recipe hslot hcheck).of_seesSame (Edit.seesSame _ nofun)
  | defaults hstored => exact (Tree.Decides.defaults hstored).of_seesSame (Edit.seesSame _ nofun)
  | @tags op p siblings variants assigned hcollection hnames hvariants hassigned hcollision =>
      set tagOf? := AssignDiscriminators.tagOf? assigned with htagOf
      set retag : Sibling → Sibling := fun s => ⟨s.name, tagOf? s.name <|> s.tag⟩ with hretag
      have hsame : (siblings.map retag).map (·.name) = siblings.map (·.name) := by
        rw [List.map_map]
        rfl
      have htwice : (siblings.map retag).map retag = siblings.map retag := by
        rw [List.map_map]
        refine List.map_congr_left fun s _ => ?_
        exact congrArg (Sibling.mk s.name) (orElse_again ..)
      have hvariants' := (op.source.variants_keeping _).symm.trans
        ((congrArg (fun tree => op.source.variants (Index.of tree))
          (Edit.frame (.tags p op.siblings tagOf?) tree)).trans (op.source.variants_keeping tree))
      exact .tags (op.collection_tagged hcollection) (hsame ▸ hnames) (hvariants'.trans hvariants)
        ((AssignDiscriminators.assigned_congr hsame).trans hassigned) (htwice.symm ▸ hcollision)

/-- **AGAIN CHANGES NOTHING**: setting a recipe, assigning tags or setting defaults, where it
    succeeds, succeeds on the tree that it gives, and gives that tree. -/
theorem Operation.apply_again (hop : ∀ op, operation ≠ .rename op)
    (h : operation.apply (Index.of tree) = .ok next) :
    operation.apply (Index.of next) = .ok next := by
  obtain ⟨edit, hedit, rfl⟩ := exists_decides hop h
  have hagain := hedit.again.apply
  rwa [edit.perform_perform] at hagain

end Decisions

/-- Operations over the bank: a recipe, tags by count for one of two instructions, a tag by
    name for one of two accounts, and two rules for one input with one for another between. -/
def bankRepeats : List Operation := [
  .setSeeds ⟨.account "bank" "Vault", [.variable ⟨"payer", .publicKey, []⟩]⟩,
  .assignDiscriminators ⟨.program "bank", .instructions, ["close"], .sequential 7 .u8, 0⟩,
  .assignDiscriminators
    ⟨.program "bank", .accounts, ["Pool"], .explicit (SortedMap.ofList [("Pool", 3)]) .u16, 4⟩,
  .setDefaults ⟨[⟨.instructionAccount "bank" "open" "guest", .absent⟩,
    ⟨.instructionAccount "bank" "open" "vault", .account "payer"⟩,
    ⟨.instructionAccount "bank" "open" "guest", .programId⟩]⟩]

theorem Operation.apply_again_bank : bankRepeats.Forall fun operation => ∃ next : Tree,
    next ≠ bankTree ∧ operation.apply (Index.of bankTree) = .ok next
      ∧ operation.apply (Index.of next) = .ok next := by
  have happly : ∀ operation ∈ bankRepeats, (operation.apply (Index.of bankTree)).toOption.any
      (fun next => decide (next ≠ bankTree)) = true := by
    decide +kernel
  have hrename : ∀ operation ∈ bankRepeats, ∀ op, operation ≠ .rename op := by
    refine List.forall_mem_cons.mpr ⟨nofun, List.forall_mem_cons.mpr ⟨nofun,
      List.forall_mem_cons.mpr ⟨nofun, List.forall_mem_singleton.mpr nofun⟩⟩⟩
  refine List.forall_iff_forall_mem.mpr fun operation hop => ?_
  obtain ⟨next, hnext, hchanged⟩ := exists_ok_of_any (happly operation hop)
  exact ⟨next, of_decide_eq_true hchanged, hnext,
    Operation.apply_again (hrename operation hop) hnext⟩

end Bindery
