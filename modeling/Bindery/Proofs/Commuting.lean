import Bindery.Pipeline
import Bindery.Proofs.Loading
import Bindery.Proofs.Tags
import Bindery.Proofs.Views

/-! # Commuting operations — disjoint writes in either order

    An operation that attaches something first decides, from what it reads of
    the tree, on an edit, and then performs it (`Tree.Decides.apply`).  What it
    reads is one kind of attachment at most: tags are assigned in sight of the
    tags that are there, defaults are set in sight of recipes, and recipes are
    set in sight of nothing.  So an operation decides on the same edit in front
    of an edit and behind it when that writes another kind
    (`Tree.Decides.of_seesSame`), and tags of one collection are assigned
    without a look at another (`AssignDiscriminators.collection_perform`).

    Edits of different places commute (`Edit.perform_comm`).  Both together
    make the order of operations that write disjoint things immaterial
    (`Operation.apply_comm`). -/

namespace Bindery

/-! ## Edits -/

/-- What an operation that attaches something does to a tree, once it has been decided: give
    an account a recipe, a collection its tags, or inputs their defaults. -/
inductive Edit where
  | recipe (p i : Nat) (seeds : List Seed)
  | tags (p : Nat) (siblings : SiblingSet) (tagOf? : String → Option Discriminator)
  | defaults (stored : List (Slot × DefaultValue))

namespace Edit

/-- The tree with an edit. -/
def perform : Edit → Tree → Tree
  | .recipe p i seeds, tree => tree.modifyAccount p i ({ · with seeds := some seeds })
  | .tags p siblings tagOf?, tree => tree.modifyProgram p (·.setTags siblings tagOf?)
  | .defaults stored, tree => tree.setDefaults stored

/-- The kind of attachments that an edit writes. -/
def writes : Edit → Attachment
  | .recipe _ _ _ => .recipe
  | .tags _ _ _ => .tag
  | .defaults _ => .default

/-- Edits of different places. -/
inductive Apart : Edit → Edit → Prop
  | recipes {p i q j : Nat} {seeds seeds' : List Seed} (h : ¬ (p = q ∧ i = j)) :
      Apart (.recipe p i seeds) (.recipe q j seeds')
  | recipeTags {p i q : Nat} {seeds : List Seed} {siblings : SiblingSet}
      {tagOf? : String → Option Discriminator} :
      Apart (.recipe p i seeds) (.tags q siblings tagOf?)
  | tagsRecipe {p q j : Nat} {seeds : List Seed} {siblings : SiblingSet}
      {tagOf? : String → Option Discriminator} :
      Apart (.tags p siblings tagOf?) (.recipe q j seeds)
  | tags {p q : Nat} {siblings siblings' : SiblingSet}
      {tagOf? tagOf?' : String → Option Discriminator} (h : p = q → siblings ≠ siblings') :
      Apart (.tags p siblings tagOf?) (.tags q siblings' tagOf?')
  | tagsDefaults {p : Nat} {siblings : SiblingSet} {tagOf? : String → Option Discriminator}
      {stored : List (Slot × DefaultValue)} : Apart (.tags p siblings tagOf?) (.defaults stored)
  | defaultsTags {p : Nat} {siblings : SiblingSet} {tagOf? : String → Option Discriminator}
      {stored : List (Slot × DefaultValue)} : Apart (.defaults stored) (.tags p siblings tagOf?)
  | defaults {stored stored' : List (Slot × DefaultValue)}
      (h : ∀ one ∈ stored, ∀ other ∈ stored', one.1 ≠ other.1) :
      Apart (.defaults stored) (.defaults stored')

end Edit

/-! ## Changes of lists, programs and trees -/

/-- Changes of items that are in different places, or do not mind each other, commute. -/
theorem modify_comm {α : Type} {f g : α → α} {i j : Nat}
    (h : i = j → ∀ a, f (g a) = g (f a)) (l : List α) :
    (l.modify j g).modify i f = (l.modify i f).modify j g := by
  by_cases hij : i = j
  · subst hij
    rw [List.modify_modify_eq, List.modify_modify_eq]
    exact congrArg (List.modify l i) (funext (h rfl))
  · exact (List.modify_modify_ne f g l hij).symm

namespace Program

variable (program : Program) (siblings : SiblingSet) (tagOf? : String → Option Discriminator)

/-- Tags and a recipe are given in either order. -/
theorem setTags_setRecipe (i : Nat) (seeds : List Seed) :
    ({ program with
        accounts := program.accounts.modify i ({ · with seeds := some seeds }) } :
          Program).setTags siblings tagOf?
      = { program.setTags siblings tagOf? with
          accounts := (program.setTags siblings tagOf?).accounts.modify i
            ({ · with seeds := some seeds }) } := by
  cases siblings with
  | accounts =>
      refine congrArg (fun accounts => { program with accounts := accounts }) ?_
      refine map_modify (l := program.accounts) fun a _ => ?_
      rfl
  | instructions => rfl

/-- Tags are given before or after a change of an instruction that minds neither its name nor
    its tag. -/
theorem setTags_modifyInstruction {change : Instruction → Instruction}
    (h : ∀ instruction : Instruction,
      { change instruction with
        discriminator := tagOf? (change instruction).name <|> (change instruction).discriminator }
      = change { instruction with
          discriminator := tagOf? instruction.name <|> instruction.discriminator }) (i : Nat) :
    ({ program with instructions := program.instructions.modify i change } :
        Program).setTags siblings tagOf?
      = { program.setTags siblings tagOf? with
          instructions := (program.setTags siblings tagOf?).instructions.modify i change } := by
  cases siblings with
  | accounts => rfl
  | instructions =>
      refine congrArg (fun instructions => { program with instructions := instructions }) ?_
      exact map_modify fun instruction _ => h instruction

/-- Tags of two collections are given in either order. -/
theorem setTags_comm {siblings siblings' : SiblingSet} (h : siblings ≠ siblings')
    (tagOf? tagOf?' : String → Option Discriminator) :
    (program.setTags siblings' tagOf?').setTags siblings tagOf?
      = (program.setTags siblings tagOf?).setTags siblings' tagOf?' := by
  cases siblings with
  | accounts =>
      cases siblings' with
      | accounts => exact absurd rfl h
      | instructions => rfl
  | instructions =>
      cases siblings' with
      | accounts => rfl
      | instructions => exact absurd rfl h

end Program

namespace Tree

variable {p q : Nat} (tree : Tree)

/-- Changes of programs that are in different places, or do not mind each other, commute. -/
theorem modifyProgram_comm {f g : Program → Program}
    (h : p = q → ∀ program, f (g program) = g (f program)) :
    (tree.modifyProgram q g).modifyProgram p f = (tree.modifyProgram p f).modifyProgram q g := by
  simp only [modifyProgram, modify_comm h]

/-- Changes of accounts that are in different places commute. -/
theorem modifyAccount_comm {i j : Nat} {f g : Account → Account} (h : ¬ (p = q ∧ i = j)) :
    (tree.modifyAccount q j g).modifyAccount p i f
      = (tree.modifyAccount p i f).modifyAccount q j g := by
  refine modifyProgram_comm tree fun hp program => ?_
  refine congrArg (fun accounts => { program with accounts := accounts }) ?_
  exact modify_comm (fun hi => absurd ⟨hp, hi⟩ h) program.accounts

/-- Changes of instructions that are in different places, or do not mind each other,
    commute. -/
theorem modifyInstruction_comm {i j : Nat} {f g : Instruction → Instruction}
    (h : p = q → i = j → ∀ instruction, f (g instruction) = g (f instruction)) :
    (tree.modifyInstruction q j g).modifyInstruction p i f
      = (tree.modifyInstruction p i f).modifyInstruction q j g := by
  refine modifyProgram_comm tree fun hp program => ?_
  refine congrArg (fun instructions => { program with instructions := instructions }) ?_
  exact modify_comm (h hp) program.instructions

/-- Defaults of different inputs are stored in either order. -/
theorem setDefault_comm {slot slot' : Slot} (h : slot ≠ slot') (value value' : DefaultValue) :
    (tree.setDefault slot' value').setDefault slot value
      = (tree.setDefault slot value).setDefault slot' value' := by
  cases slot with
  | instructionAccount p i m =>
      cases slot' with
      | instructionAccount q j n =>
          refine modifyInstruction_comm tree fun hp hi instruction => ?_
          refine congrArg (fun accounts => { instruction with accounts := accounts }) ?_
          exact modify_comm (fun hm => absurd (by rw [hp, hi, hm]) h) instruction.accounts
      | instructionArgument q j n => exact modifyInstruction_comm tree fun _ _ _ => rfl
      | _ => rfl
  | instructionArgument p i m =>
      cases slot' with
      | instructionAccount q j n => exact modifyInstruction_comm tree fun _ _ _ => rfl
      | instructionArgument q j n =>
          refine modifyInstruction_comm tree fun hp hi instruction => ?_
          refine congrArg (fun arguments => { instruction with arguments := arguments }) ?_
          exact modify_comm (fun hm => absurd (by rw [hp, hi, hm]) h) instruction.arguments
      | _ => rfl
  | _ => cases slot' <;> rfl

/-- Tags and a default are given in either order. -/
theorem setTags_setDefault (slot : Slot) (value : DefaultValue) (siblings : SiblingSet)
    (tagOf? : String → Option Discriminator) :
    (tree.setDefault slot value).modifyProgram p (·.setTags siblings tagOf?)
      = (tree.modifyProgram p (·.setTags siblings tagOf?)).setDefault slot value := by
  cases slot with
  | instructionAccount q i m =>
      refine modifyProgram_comm tree fun _ program => ?_
      exact program.setTags_modifyInstruction siblings tagOf? (fun _ => rfl) i
  | instructionArgument q i m =>
      refine modifyProgram_comm tree fun _ program => ?_
      exact program.setTags_modifyInstruction siblings tagOf? (fun _ => rfl) i
  | _ => rfl

/-- What commutes with the storing of each default commutes with the storing of all. -/
theorem setDefaults_comm {change : Tree → Tree} {stored : List (Slot × DefaultValue)}
    (h : ∀ one ∈ stored, ∀ tree : Tree,
      change (tree.setDefault one.1 one.2) = (change tree).setDefault one.1 one.2) :
    change (tree.setDefaults stored) = (change tree).setDefaults stored := by
  induction stored generalizing tree with
  | nil => rfl
  | cons one stored ih =>
      obtain ⟨hone, hstored⟩ := List.forall_mem_cons.mp h
      show change ((tree.setDefault one.1 one.2).setDefaults stored)
        = ((change tree).setDefault one.1 one.2).setDefaults stored
      rw [ih _ hstored, hone]

end Tree

/-- **EDITS COMMUTE**: edits of different places are performed in either order. -/
theorem Edit.perform_comm {edit edit' : Edit} (h : edit.Apart edit') (tree : Tree) :
    edit.perform (edit'.perform tree) = edit'.perform (edit.perform tree) := by
  cases h with
  | recipes h => exact tree.modifyAccount_comm h
  | recipeTags =>
      refine (tree.modifyProgram_comm fun _ program => ?_).symm
      exact program.setTags_setRecipe ..
  | tagsRecipe =>
      refine tree.modifyProgram_comm fun _ program => ?_
      exact program.setTags_setRecipe ..
  | tags h => exact tree.modifyProgram_comm fun hp program => program.setTags_comm (h hp) ..
  | tagsDefaults =>
      exact tree.setDefaults_comm fun one _ tree => tree.setTags_setDefault one.1 one.2 ..
  | defaultsTags =>
      exact (tree.setDefaults_comm fun one _ tree => tree.setTags_setDefault one.1 one.2 ..).symm
  | @defaults stored stored' h =>
      have hother : ∀ other ∈ stored', ∀ tree : Tree,
          (tree.setDefault other.1 other.2).setDefaults stored
            = (tree.setDefaults stored).setDefault other.1 other.2 := by
        intro other hother tree
        let change (tree : Tree) : Tree := tree.setDefault other.1 other.2
        have hone : ∀ one ∈ stored, ∀ tree : Tree,
            change (tree.setDefault one.1 one.2) = (change tree).setDefault one.1 one.2 :=
          fun one hone tree => tree.setDefault_comm (h one hone other hother).symm ..
        exact (tree.setDefaults_comm hone).symm
      exact tree.setDefaults_comm hother

/-! ## Decisions -/

/-- The kind of attachments that an operation reads, if any. -/
def Operation.reads : Operation → Option Attachment
  | .assignDiscriminators _ => some .tag
  | .setDefaults _ => some .recipe
  | .setSeeds _ | .rename _ => none

/-- The collection that an operation gives tags, and the slot of its program. -/
def AssignDiscriminators.collection (operation : AssignDiscriminators) (index : Index) :
    Except TransformError (List Sibling × Slot) :=
  (index.program operation.program).map fun (program, slot) =>
    (program.siblings operation.siblings, slot)

/-- The slot of the account that an operation gives a recipe. -/
def SetSeeds.slot (operation : SetSeeds) (index : Index) : Except TransformError Slot :=
  (index.account operation.account).map (·.2)

/-- The edit on which an operation decides in a tree. -/
inductive Tree.Decides (tree : Tree) : Operation → Edit → Prop
  | recipe {op : SetSeeds} {p i : Nat} (hslot : op.slot (Index.of tree) = .ok (.account p i))
      (hcheck : Seed.check op.seeds = .ok ()) :
      tree.Decides (.setSeeds op) (.recipe p i op.seeds)
  | tags {op : AssignDiscriminators} {p : Nat} {siblings : List Sibling}
      {variants : List EnumVariant} {assigned : List (String × Discriminator)}
      (hcollection : op.collection (Index.of tree) = .ok (siblings, .program p))
      (hnames : ∀ name ∈ op.only, name ∈ siblings.map (·.name))
      (hvariants : op.source.variants (Index.of tree) = .ok variants)
      (hassigned : op.assigned variants siblings = .ok assigned)
      (hcollision : Sibling.collision? [] (siblings.map fun s =>
        ⟨s.name, AssignDiscriminators.tagOf? assigned s.name <|> s.tag⟩) = none) :
      tree.Decides (.assignDiscriminators op)
        (.tags p op.siblings (AssignDiscriminators.tagOf? assigned))
  | defaults {op : SetDefaults} {stored : List (Slot × DefaultValue)}
      (hstored : op.rules.mapM (·.settle (Index.of tree)) = .ok stored) :
      tree.Decides (.setDefaults op) (.defaults stored)

section Decisions

variable {tree next : Tree} {operation other : Operation} {edit edit' : Edit}

/-- An operation that decides on an edit succeeds with it. -/
theorem Tree.Decides.apply (h : tree.Decides operation edit) :
    operation.apply (Index.of tree) = .ok (edit.perform tree) := by
  cases h with
  | recipe hslot hcheck =>
      obtain ⟨⟨account, slot⟩, haccount, rfl⟩ := map_eq_ok.mp hslot
      refine bind_eq_ok.mpr ⟨_, haccount, ?_⟩
      exact check_bind_eq_ok.mpr ⟨mapError_eq_ok.mpr hcheck, rfl⟩
  | tags hcollection hnames hvariants hassigned hcollision =>
      obtain ⟨⟨program, slot⟩, hprogram, heq⟩ := map_eq_ok.mp hcollection
      obtain ⟨rfl, rfl⟩ := Prod.mk.inj heq
      exact AssignDiscriminators.apply_eq_ok_iff.mpr
        ⟨_, program, _, _, hprogram, hnames, hvariants, hassigned, hcollision, rfl⟩
  | defaults hstored => exact SetDefaults.apply_eq_ok_iff.mpr ⟨_, hstored, rfl⟩

/-- An operation other than a rename that succeeds has decided on an edit. -/
theorem exists_decides (hop : ∀ op, operation ≠ .rename op)
    (h : operation.apply (Index.of tree) = .ok next) :
    ∃ edit, tree.Decides operation edit ∧ next = edit.perform tree := by
  cases operation with
  | rename op => exact absurd rfl (hop op)
  | setSeeds op =>
      obtain ⟨⟨account, slot⟩, haccount, h⟩ := bind_eq_ok.mp h
      obtain ⟨hcheck, h⟩ := check_bind_eq_ok.mp h
      obtain ⟨p, i, program, rfl, -⟩ := (Index.holds_of_account haccount).account_inv
      refine ⟨_, .recipe (map_eq_ok.mpr ⟨_, haccount, rfl⟩) (mapError_eq_ok.mp hcheck), ?_⟩
      exact (pure_eq_ok.mp h).symm
  | assignDiscriminators op =>
      obtain ⟨p, program, variants, assigned, hprogram, hnames, hvariants, hassigned, hcollision,
        rfl⟩ := AssignDiscriminators.apply_eq_ok_iff.mp h
      exact ⟨_, .tags (map_eq_ok.mpr ⟨_, hprogram, rfl⟩) hnames hvariants hassigned hcollision, rfl⟩
  | setDefaults op =>
      obtain ⟨stored, hstored, rfl⟩ := SetDefaults.apply_eq_ok_iff.mp h
      exact ⟨_, .defaults hstored, rfl⟩

/-! ### What an operation sees -/

/-- Two trees look the same to an operation: what it reads of them is the same. -/
def Operation.SeesSame (operation : Operation) (tree next : Tree) : Prop :=
  match operation with
  | .rename _ => True
  | .setSeeds op => op.slot (Index.of next) = op.slot (Index.of tree)
  | .assignDiscriminators op => op.collection (Index.of next) = op.collection (Index.of tree)
      ∧ op.source.variants (Index.of next) = op.source.variants (Index.of tree)
  | .setDefaults _ =>
      ∀ rule : DefaultRule, rule.settle (Index.of next) = rule.settle (Index.of tree)

/-- In trees that look the same an operation decides on the same edits. -/
theorem Tree.Decides.of_seesSame (hsame : operation.SeesSame tree next)
    (h : tree.Decides operation edit) : next.Decides operation edit := by
  cases h with
  | recipe hslot hcheck => exact .recipe (hsame.trans hslot) hcheck
  | tags hcollection hnames hvariants hassigned hcollision =>
      exact .tags (hsame.1.trans hcollection) hnames (hsame.2.trans hvariants) hassigned hcollision
  | defaults hstored =>
      have hsettle : (fun rule : DefaultRule => rule.settle (Index.of next))
          = fun rule => rule.settle (Index.of tree) := funext hsame
      exact .defaults (hsettle ▸ hstored)

/-- Trees look the same either way round. -/
theorem Operation.SeesSame.symm (h : operation.SeesSame tree next) :
    operation.SeesSame next tree := by
  cases operation with
  | rename op => trivial
  | setSeeds op => exact Eq.symm h
  | assignDiscriminators op => exact ⟨h.1.symm, h.2.symm⟩
  | setDefaults op => exact fun rule => (h rule).symm

/-- The tags of a collection are what a view shows that keeps tags. -/
theorem AssignDiscriminators.collection_keeping {kept : Attachment → Bool}
    (hkept : kept .tag = true) (op : AssignDiscriminators) (tree : Tree) :
    op.collection (Index.of (tree.keeping kept)) = op.collection (Index.of tree) := by
  have hsiblings : ∀ program : Program,
      (program.keeping kept).siblings op.siblings = program.siblings op.siblings := by
    intro program
    cases op.siblings with
    | accounts =>
        simp only [Program.siblings, Program.keeping, List.map_map]
        refine List.map_congr_left fun a _ => ?_
        exact congrArg (Sibling.mk a.name) (if_pos hkept)
    | instructions =>
        simp only [Program.siblings, Program.keeping, List.map_map]
        refine List.map_congr_left fun i _ => ?_
        exact congrArg (Sibling.mk i.name) (if_pos hkept)
  unfold collection
  rw [Index.program_keeping]
  cases (Index.of tree).program op.program with
  | error fault => rfl
  | ok found =>
      show Except.ok ((found.1.keeping kept).siblings op.siblings, found.2) = _
      rw [hsiblings]
      rfl

/-- The variants of a source are no attachments. -/
theorem DiscriminatorSource.variants_keeping {kept : Attachment → Bool}
    (source : DiscriminatorSource) (tree : Tree) :
    source.variants (Index.of (tree.keeping kept)) = source.variants (Index.of tree) := by
  cases source with
  | enumVariants enumType size => exact Index.enumVariants_keeping enumType
  | _ => rfl

/-- **AN OPERATION SEES WHAT IT READS**: trees look the same to an operation when they are the
    same in a view that keeps what the operation reads. -/
theorem Operation.seesSame_of_keeping_eq {kept : Attachment → Bool}
    (hkept : ∀ kind, operation.reads = some kind → kept kind = true)
    (h : next.keeping kept = tree.keeping kept) : operation.SeesSame tree next := by
  cases operation with
  | rename op => trivial
  | setSeeds op =>
      have hslot : ∀ tree : Tree, op.slot (Index.of (tree.keeping kept)) = op.slot (Index.of tree) := by
        intro tree
        unfold SetSeeds.slot
        rw [Index.account_keeping]
        cases (Index.of tree).account op.account <;> rfl
      show op.slot (Index.of next) = op.slot (Index.of tree)
      rw [← hslot next, h, hslot tree]
  | assignDiscriminators op =>
      constructor
      · rw [← op.collection_keeping (hkept _ rfl) next, h, op.collection_keeping (hkept _ rfl) tree]
      · rw [← op.source.variants_keeping next, h, op.source.variants_keeping tree]
  | setDefaults op =>
      intro rule
      have hview : rule.settle (Index.of (next.keeping kept)) = rule.settle (Index.of next) :=
        rule.settle_keeping (hkept _ rfl)
      rw [← hview, h, rule.settle_keeping (hkept _ rfl)]

/-- The trees in front of an edit and behind it are the same up to what it writes. -/
theorem Edit.frame (edit : Edit) (tree : Tree) :
    (edit.perform tree).keeping (Attachment.allBut edit.writes)
      = tree.keeping (Attachment.allBut edit.writes) := by
  cases edit with
  | recipe p i seeds => exact Tree.keeping_modifyAccount fun _ => rfl
  | tags p siblings tagOf? =>
      exact Tree.keeping_modifyProgram (Program.setTags_frame siblings tagOf?)
  | defaults stored => exact Tree.setDefaults_frame stored tree

/-- An edit is not seen by an operation that does not read what it writes. -/
theorem Edit.seesSame (edit : Edit) (hreads : operation.reads ≠ some edit.writes) :
    operation.SeesSame tree (edit.perform tree) := by
  refine Operation.seesSame_of_keeping_eq (fun kind hkind => ?_) (edit.frame tree)
  refine decide_eq_true fun heq => hreads ?_
  rw [hkind, heq]

/-- A program is found as it was in a tree of which one program has got tags, with its tags if
    it is that one. -/
theorem Index.program_tagged {p : Nat} {siblings : SiblingSet}
    {tagOf? : String → Option Discriminator} (path : NodePath) :
    (Index.of (Edit.perform (.tags p siblings tagOf?) tree)).program path
      = ((Index.of tree).program path).map fun (program, slot) =>
          (if slot = .program p then program.setTags siblings tagOf? else program, slot) := by
  set next := Edit.perform (.tags p siblings tagOf?) tree with hnext
  -- the program is in the same slot, and in that slot it has the same members
  have hview : ((Index.of next).program path).map
        (fun (program, slot) => (program.keeping (Attachment.allBut .tag), slot))
      = ((Index.of tree).program path).map
        (fun (program, slot) => (program.keeping (Attachment.allBut .tag), slot)) := by
    rw [← Index.program_keeping, ← Index.program_keeping]
    exact congrArg (fun tree => (Index.of tree).program path)
      (Edit.frame (.tags p siblings tagOf?) tree)
  cases hbefore : (Index.of tree).program path with
  | error fault =>
      rw [hbefore] at hview
      cases hafter : (Index.of next).program path with
      | error fault' =>
          rw [hafter] at hview
          exact congrArg Except.error (Except.error.inj hview)
      | ok found => rw [hafter] at hview; exact nomatch hview
  | ok found =>
      obtain ⟨program, slot⟩ := found
      rw [hbefore] at hview
      cases hafter : (Index.of next).program path with
      | error fault => rw [hafter] at hview; exact nomatch hview
      | ok found' =>
          obtain ⟨program', slot'⟩ := found'
          rw [hafter] at hview
          obtain ⟨-, rfl⟩ := Prod.mk.inj (Except.ok.inj hview)
          obtain ⟨q, rfl, -, hq⟩ := (Index.holds_of_program hbefore).program_inv
          obtain ⟨_, hslot, -, hq'⟩ := (Index.holds_of_program hafter).program_inv
          obtain rfl := Slot.program.inj hslot
          have hchanged : next.programs[q]? = some (if p = q then
              program.setTags siblings tagOf? else program) := by
            show (tree.programs.modify p _)[q]? = _
            rw [List.getElem?_modify, hq]
            rfl
          obtain rfl := Option.some.inj (hq'.symm.trans hchanged)
          refine congrArg (fun program => Except.ok (program, Slot.program q)) ?_
          exact ite_congr (propext ⟨fun h => congrArg _ h.symm, fun h => (Slot.program.inj h).symm⟩)
            (fun _ => rfl) (fun _ => rfl)

/-- Tags of one collection leave the members of another as they were. -/
theorem AssignDiscriminators.collection_perform {op : AssignDiscriminators} {p : Nat}
    {siblings : SiblingSet} {tagOf? : String → Option Discriminator}
    (h : ∀ program, tree.programs[p]? = some program → op.program = .program program.name →
      op.siblings ≠ siblings) :
    op.collection (Index.of (Edit.perform (.tags p siblings tagOf?) tree))
      = op.collection (Index.of tree) := by
  unfold collection
  rw [Index.program_tagged]
  cases hfound : (Index.of tree).program op.program with
  | error fault => rfl
  | ok found =>
      obtain ⟨program, slot⟩ := found
      obtain ⟨q, rfl, hpath, hq⟩ := (Index.holds_of_program hfound).program_inv
      refine congrArg (fun members => Except.ok (members, Slot.program q)) ?_
      by_cases hslot : Slot.program q = .program p
      · obtain rfl := Slot.program.inj hslot
        show (if Slot.program q = .program q then _ else _ : Program).siblings op.siblings = _
        rw [if_pos rfl]
        exact Program.siblings_setTags_of_ne (h program hq hpath)
      · show (if Slot.program q = .program p then _ else _ : Program).siblings op.siblings = _
        rw [if_neg hslot]

end Decisions

/-! ## Operations that write disjoint things -/

/-- Operations that write different things: tags and recipes or defaults, tags of different
    programs or collections, recipes of different accounts, defaults of different targets. -/
inductive Operation.Apart : Operation → Operation → Prop
  | tagsSeeds (op : AssignDiscriminators) (op' : SetSeeds) :
      Apart (.assignDiscriminators op) (.setSeeds op')
  | seedsTags (op : SetSeeds) (op' : AssignDiscriminators) :
      Apart (.setSeeds op) (.assignDiscriminators op')
  | tagsDefaults (op : AssignDiscriminators) (op' : SetDefaults) :
      Apart (.assignDiscriminators op) (.setDefaults op')
  | defaultsTags (op : SetDefaults) (op' : AssignDiscriminators) :
      Apart (.setDefaults op) (.assignDiscriminators op')
  | tags {op op' : AssignDiscriminators}
      (h : op.program ≠ op'.program ∨ op.siblings ≠ op'.siblings) :
      Apart (.assignDiscriminators op) (.assignDiscriminators op')
  | seeds {op op' : SetSeeds} (h : op.account ≠ op'.account) :
      Apart (.setSeeds op) (.setSeeds op')
  | defaults {op op' : SetDefaults}
      (h : ∀ rule ∈ op.rules, ∀ rule' ∈ op'.rules, rule.target ≠ rule'.target) :
      Apart (.setDefaults op) (.setDefaults op')

section Operations

variable {tree middle next : Tree} {operation other : Operation} {edit edit' : Edit}

/-- Operations are apart either way round. -/
theorem Operation.Apart.symm (h : operation.Apart other) : other.Apart operation := by
  cases h with
  | tagsSeeds op op' => exact .seedsTags op' op
  | seedsTags op op' => exact .tagsSeeds op' op
  | tagsDefaults op op' => exact .defaultsTags op' op
  | defaultsTags op op' => exact .tagsDefaults op' op
  | tags h => exact .tags (h.imp Ne.symm Ne.symm)
  | seeds h => exact .seeds h.symm
  | defaults h => exact .defaults fun rule' hrule' rule hrule => (h rule hrule rule' hrule').symm

/-- None of two operations that are apart is a rename. -/
theorem Operation.Apart.not_rename (h : operation.Apart other) :
    ∀ op, operation ≠ .rename op := by
  cases h <;> exact fun _ hop => nomatch hop

/-- **WHAT IS WRITTEN IS NOT READ**: the edit of an operation is not seen by one that is apart
    from it. -/
theorem Operation.Apart.seesSame (h : operation.Apart other) (ha : tree.Decides operation edit) :
    other.SeesSame tree (edit.perform tree) := by
  cases h with
  | tagsSeeds | seedsTags | tagsDefaults | defaultsTags | seeds | defaults =>
      cases ha
      exact Edit.seesSame _ nofun
  | @tags op op' h =>
      cases ha with
      | @tags _ p siblings variants assigned hcollection =>
          obtain ⟨⟨program, slot⟩, hprogram, heq⟩ := map_eq_ok.mp hcollection
          obtain ⟨-, rfl⟩ := Prod.mk.inj heq
          obtain ⟨_, hslot, hpath, hp⟩ := (Index.holds_of_program hprogram).program_inv
          obtain rfl := Slot.program.inj hslot
          constructor
          · refine AssignDiscriminators.collection_perform fun program' hp' hpath' => ?_
            obtain rfl := Option.some.inj (hp.symm.trans hp')
            exact (h.resolve_left (not_not.mpr (hpath.trans hpath'.symm))).symm
          · have hview : ∀ tree : Tree, op'.source.variants (Index.of tree)
                = op'.source.variants (Index.of (tree.keeping (Attachment.allBut .tag))) :=
              fun tree => (op'.source.variants_keeping tree).symm
            rw [hview, hview tree]
            exact congrArg (fun tree => op'.source.variants (Index.of tree))
              (Edit.frame (.tags p op.siblings _) tree)

/-- What operations that are apart decide on in one tree are edits of different places. -/
theorem Operation.Apart.edits (h : operation.Apart other) (ha : tree.Decides operation edit)
    (hb : tree.Decides other edit') : edit.Apart edit' := by
  cases h with
  | tagsSeeds op op' => cases ha; cases hb; exact .tagsRecipe
  | seedsTags op op' => cases ha; cases hb; exact .recipeTags
  | tagsDefaults op op' => cases ha; cases hb; exact .tagsDefaults
  | defaultsTags op op' => cases ha; cases hb; exact .defaultsTags
  | @tags op op' h =>
      cases ha with
      | @tags _ p _ _ _ hcollection =>
          cases hb with
          | @tags _ q _ _ _ hcollection' =>
              refine .tags fun hslot => h.resolve_left (not_not.mpr ?_)
              obtain ⟨⟨program, _⟩, hprogram, heq⟩ := map_eq_ok.mp hcollection
              obtain ⟨⟨program', _⟩, hprogram', heq'⟩ := map_eq_ok.mp hcollection'
              obtain ⟨-, rfl⟩ := Prod.mk.inj heq
              obtain ⟨-, rfl⟩ := Prod.mk.inj heq'
              have hheld := Index.holds_of_program hprogram
              exact hheld.path_unique (hslot ▸ Index.holds_of_program hprogram')
  | @seeds op op' h =>
      cases ha with
      | @recipe _ p i hslot =>
          cases hb with
          | @recipe _ q j hslot' =>
              refine .recipes fun ⟨hp, hi⟩ => h ?_
              subst hp hi
              obtain ⟨⟨account, _⟩, haccount, rfl⟩ := map_eq_ok.mp hslot
              obtain ⟨⟨account', _⟩, haccount', rfl⟩ := map_eq_ok.mp hslot'
              have hheld := Index.holds_of_account haccount
              exact hheld.path_unique (Index.holds_of_account haccount')
  | @defaults op op' h =>
      cases ha with
      | defaults hstored =>
          cases hb with
          | defaults hstored' =>
              refine .defaults fun one hone one' hone' hslot => ?_
              obtain ⟨rule, hrule, hsettle⟩ := exists_of_mapM_eq_ok hstored hone
              obtain ⟨rule', hrule', hsettle'⟩ := exists_of_mapM_eq_ok hstored' hone'
              obtain ⟨node, hheld⟩ := DefaultRule.holds_of_settle hsettle
              obtain ⟨node', hheld'⟩ := DefaultRule.holds_of_settle hsettle'
              exact h rule hrule rule' hrule' (hheld.path_unique (hslot ▸ hheld'))

/-- **DISJOINT WRITES COMMUTE**: two operations that write different things, one of them applied
    to a tree and the other to the result, both succeed the other way round as well, with the
    same tree in the end. -/
theorem Operation.apply_comm (h : operation.Apart other)
    (ha : operation.apply (Index.of tree) = .ok middle)
    (hb : other.apply (Index.of middle) = .ok next) :
    ∃ middle', other.apply (Index.of tree) = .ok middle'
      ∧ operation.apply (Index.of middle') = .ok next := by
  obtain ⟨edit, hedit, rfl⟩ := exists_decides h.not_rename ha
  obtain ⟨edit', hedit', rfl⟩ := exists_decides h.symm.not_rename hb
  -- neither operation sees the edit of the other
  have hfirst := hedit'.of_seesSame (h.seesSame hedit).symm
  have hsecond := hedit.of_seesSame (h.symm.seesSame hfirst)
  refine ⟨_, hfirst.apply, ?_⟩
  rw [hsecond.apply, Edit.perform_comm (h.edits hedit hfirst)]

end Operations

/-- Pairs of operations on the bank that write different things, one for each way to. -/
def bankPairs : List (Operation × Operation) :=
  let tags : Operation := .assignDiscriminators
    ⟨.program "bank", .instructions, [], .enumVariants (.definedType "bank" "Side") .u8, 0⟩
  let seeds : Operation :=
    .setSeeds ⟨.account "bank" "Vault", [.variable ⟨"payer", .publicKey, []⟩]⟩
  let defaults : Operation := .setDefaults
    ⟨[⟨.instructionAccount "bank" "open" "payer", .argument "payer"⟩]⟩
  [(tags, seeds), (defaults, tags),
    (tags, .assignDiscriminators ⟨.program "bank", .accounts, ["Pool"], .sequential 0 .u8, 0⟩),
    (seeds, .setSeeds ⟨.account "bank" "Pool", [.constant .programId]⟩),
    (defaults, .setDefaults ⟨[⟨.instructionAccount "bank" "open" "guest", .absent⟩,
      ⟨.instructionArgument "bank" "open" "payer", .account "payer"⟩]⟩)]

theorem Operation.apply_comm_bank : bankPairs.Forall fun pair => ∃ middle middle' next : Tree,
    pair.1.apply (Index.of bankTree) = .ok middle ∧ pair.2.apply (Index.of middle) = .ok next
      ∧ pair.2.apply (Index.of bankTree) = .ok middle'
      ∧ pair.1.apply (Index.of middle') = .ok next := by
  have happly : ∀ pair ∈ bankPairs, (pair.1.apply (Index.of bankTree)).toOption.any
      (fun middle => (pair.2.apply (Index.of middle)).toOption.isSome) = true := by
    decide +kernel
  have hapart : ∀ pair ∈ bankPairs, pair.1.Apart pair.2 := by
    refine List.forall_mem_cons.mpr ⟨.tagsSeeds _ _, List.forall_mem_cons.mpr ⟨.defaultsTags _ _,
      List.forall_mem_cons.mpr ⟨.tags (.inr nofun), List.forall_mem_cons.mpr ⟨.seeds (by decide),
        List.forall_mem_singleton.mpr (.defaults (by decide))⟩⟩⟩⟩
  refine List.forall_iff_forall_mem.mpr fun pair hpair => ?_
  obtain ⟨middle, hmiddle, hsome⟩ := exists_ok_of_any (happly pair hpair)
  obtain ⟨next, hnext⟩ := exists_ok_of_isSome hsome
  obtain ⟨middle', hmiddle', hnext'⟩ :=
    Operation.apply_comm (hapart pair hpair) hmiddle hnext
  exact ⟨middle, middle', next, hmiddle, hnext, hmiddle', hnext'⟩

end Bindery
