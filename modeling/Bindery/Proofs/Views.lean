import Bindery.Proofs.Attachments
import Bindery.Proofs.Defaults.Sound

/-! # Views — what look-ups and rules see

    A look-up goes by names, and names are no attachments: the index of a tree
    with some kinds of attachments forgotten finds the nodes of the tree, with
    the same kinds forgotten (`Index.find?_keeping`).  The rules for default
    values look up what they need and read flags, types and recipes there, so
    where recipes are kept a rule is settled as in the tree itself
    (`DefaultRule.settle_keeping`): tags and the defaults that are there
    already are not seen. -/

namespace Bindery

/-- The same node with the attachments of some kinds only. -/
def Node.keeping (kept : Attachment → Bool) : Node → Node
  | .program node => .program (node.keeping kept)
  | .account node => .account (node.keeping kept)
  | .instruction node => .instruction (node.keeping kept)
  | .instructionAccount node => .instructionAccount (node.keeping kept)
  | .instructionArgument node => .instructionArgument (node.keeping kept)
  | .definedType node => .definedType node

/-- The same entry with the attachments of some kinds only. -/
def Entry.keeping (kept : Attachment → Bool) (entry : Entry) : Entry :=
  { entry with node := entry.node.keeping kept }

variable {kept : Attachment → Bool} {tree : Tree}

/-! ## Entries -/

/-- What is attached to an instruction and its inputs is seen or not in their entries. -/
theorem Instruction.entries_keeping (instruction : Instruction) (program : String) (p i : Nat) :
    (instruction.keeping kept).entries program p i
      = (instruction.entries program p i).map (·.keeping kept) := by
  simp only [entries, keeping, List.zipIdx_map, List.map_map, List.map_cons, List.map_append]
  rfl

/-- What is attached to the nodes of a program is seen or not in their entries. -/
theorem Program.entries_keeping (program : Program) (p : Nat) :
    (program.keeping kept).entries p = (program.entries p).map (·.keeping kept) := by
  simp only [entries, keeping, List.zipIdx_map, List.map_map, List.map_cons, List.map_append,
    List.flatMap_map, List.map_flatMap]
  refine congrArg (_ :: _ ++ _ ++ ·) (List.flatMap_congr fun place _ => ?_)
  exact place.1.entries_keeping program.name p place.2

/-- **THE SAME ENTRIES**: a view of a tree has the entries of the tree, each seen through it. -/
theorem Tree.entries_keeping (tree : Tree) :
    (tree.keeping kept).entries = tree.entries.map (·.keeping kept) := by
  simp only [entries, keeping, List.zipIdx_map, List.map_map, List.map_append, List.flatMap_map,
    List.map_flatMap]
  refine congrArg (_ ++ ·) (List.flatMap_congr fun place _ => ?_)
  exact place.1.entries_keeping place.2

/-! ## Look-ups -/

namespace Index

/-- A path selects in a view what it selects in the tree, seen through the view. -/
theorem find?_keeping (path : NodePath) :
    (of (tree.keeping kept)).find? path = ((of tree).find? path).map (·.keeping kept) := by
  show (tree.keeping kept).entries.find? _ = _
  rw [tree.entries_keeping, List.find?_map]
  rfl

/-- A path selects something in a view when it does in the tree. -/
theorem contains_keeping (path : NodePath) :
    (of (tree.keeping kept)).contains path = (of tree).contains path := by
  rw [contains, find?_keeping, Option.isSome_map]
  rfl

/-- A path resolves in a view as in the tree. -/
theorem resolve_keeping (path : NodePath) :
    (of (tree.keeping kept)).resolve path = ((of tree).resolve path).map (·.keeping kept) := by
  unfold resolve
  rw [find?_keeping]
  cases (of tree).find? path <;> rfl

/-- A path of a kind resolves in a view as in the tree. -/
theorem resolveKind_keeping (path : NodePath) (kind : NodeKind) :
    (of (tree.keeping kept)).resolveKind path kind
      = ((of tree).resolveKind path kind).map (·.keeping kept) := by
  unfold resolveKind
  split
  · exact resolve_keeping path
  · rfl

/-- The program that a path selects in a view. -/
theorem program_keeping (path : NodePath) :
    (of (tree.keeping kept)).program path
      = ((of tree).program path).map fun (program, slot) => (program.keeping kept, slot) := by
  unfold program
  rw [resolveKind_keeping]
  cases (of tree).resolveKind path .program with
  | error fault => rfl
  | ok entry => obtain ⟨_, slot, node⟩ := entry; cases node <;> rfl

/-- The account that a path selects in a view. -/
theorem account_keeping (path : NodePath) :
    (of (tree.keeping kept)).account path
      = ((of tree).account path).map fun (account, slot) => (account.keeping kept, slot) := by
  unfold account
  rw [resolveKind_keeping]
  cases (of tree).resolveKind path .account with
  | error fault => rfl
  | ok entry => obtain ⟨_, slot, node⟩ := entry; cases node <;> rfl

/-- The instruction that a path selects in a view. -/
theorem instruction_keeping (path : NodePath) :
    (of (tree.keeping kept)).instruction path
      = ((of tree).instruction path).map fun (instruction, slot) =>
          (instruction.keeping kept, slot) := by
  unfold instruction
  rw [resolveKind_keeping]
  cases (of tree).resolveKind path .instruction with
  | error fault => rfl
  | ok entry => obtain ⟨_, slot, node⟩ := entry; cases node <;> rfl

/-- A view shows the types of a tree as they are. -/
theorem definedType_keeping (path : NodePath) :
    (of (tree.keeping kept)).definedType path = (of tree).definedType path := by
  unfold definedType
  rw [resolveKind_keeping]
  cases (of tree).resolveKind path .definedType with
  | error fault => rfl
  | ok entry => obtain ⟨_, slot, node⟩ := entry; cases node <;> rfl

/-- A view shows the variants of an enum as they are. -/
theorem enumVariants_keeping (path : NodePath) :
    (of (tree.keeping kept)).enumVariants path = (of tree).enumVariants path := by
  unfold enumVariants
  rw [definedType_keeping]

end Index

/-! ## Rules -/

namespace DefaultRule

variable {instruction : Instruction} {of : InputTarget}

/-- Checking a reference sees no attachments. -/
theorem checkReference_keeping (target : NodePath) (input : Input) :
    checkReference target (instruction.keeping kept) (of.keeping kept) input
      = checkReference target instruction of input := by
  simp only [checkReference, Instruction.takes_keeping, InputTarget.input_keeping,
    InputTarget.holdsAddress_keeping, Instruction.isOptionalAccount_keeping]

/-- Checking a binding sees no attachments. -/
theorem checkBinding_keeping (target : NodePath) (binding : SeedBinding) :
    checkBinding target (instruction.keeping kept) (of.keeping kept) binding
      = checkBinding target instruction of binding := by
  simp only [checkBinding, Instruction.takes_keeping, InputTarget.input_keeping,
    Instruction.isOptionalAccount_keeping]

/-- Binding a seed sees no attachments. -/
theorem bindSeed_keeping (target : NodePath) (given : List SeedBinding) (seed : VariableSeed) :
    bindSeed target (instruction.keeping kept) given seed
      = bindSeed target instruction given seed := by
  have htakes : (instruction.keeping kept).takes = instruction.takes :=
    funext instruction.takes_keeping
  unfold bindSeed
  rw [htakes]

/-- Binding the seeds of a derived address sees recipes only. -/
theorem bindSeeds_keeping (hkept : kept .recipe = true) (target : NodePath) (owner : String)
    (given : List SeedBinding) :
    bindSeeds (Index.of (tree.keeping kept)) target (instruction.keeping kept) (of.keeping kept)
        owner given
      = bindSeeds (Index.of tree) target instruction of owner given := by
  have hseeds : ∀ account : Account, (account.keeping kept).seeds = account.seeds :=
    fun _ => if_pos hkept
  unfold bindSeeds
  rw [InputTarget.holdsAddress_keeping]
  cases target.programName? with
  | none => rfl
  | some program =>
      simp only [Index.account_keeping, bindSeed_keeping, checkBinding_keeping]
      cases (Index.of tree).account (.account program owner) with
      | error fault => rfl
      | ok found =>
          obtain ⟨account, slot⟩ := found
          have hinputs : (account.keeping kept).seedInputs = account.seedInputs := by
            rw [Account.seedInputs, hseeds, Account.seedInputs]
          simp only [Except.map, pure_bind, hseeds, hinputs]

/-- The value that a rule stores depends on recipes only. -/
theorem resolve_keeping (hkept : kept .recipe = true) (rule : DefaultRule) :
    rule.resolve (Index.of (tree.keeping kept)) (instruction.keeping kept) (of.keeping kept)
      = rule.resolve (Index.of tree) instruction of := by
  have hliteral : ∀ literal : Literal, literal.fits (of.keeping kept) = literal.fits of := by
    intro literal
    cases of <;> rfl
  have habsent : (of.keeping kept).canBeAbsent = of.canBeAbsent := by cases of <;> rfl
  simp only [resolve, habsent, InputTarget.holdsAddress_keeping, hliteral, checkReference_keeping,
    bindSeeds_keeping hkept]

/-- The target of a rule is seen through a view. -/
theorem targetOf_keeping (rule : DefaultRule) (entry : Entry) :
    rule.targetOf (entry.keeping kept) = (rule.targetOf entry).map (·.keeping kept) := by
  obtain ⟨path, slot, node⟩ := entry
  cases node <;> rfl

/-- **RULES SEE RECIPES ONLY**: where recipes are kept, a rule is settled in a view of a tree
    as in the tree, with the same value or the same failure. -/
theorem settle_keeping (hkept : kept .recipe = true) (rule : DefaultRule) :
    rule.settle (Index.of (tree.keeping kept)) = rule.settle (Index.of tree) := by
  unfold settle
  rw [Index.resolve_keeping]
  cases (Index.of tree).resolve rule.target with
  | error fault => rfl
  | ok entry =>
      show (rule.targetOf (entry.keeping kept) >>= _) = (rule.targetOf entry >>= _)
      rw [targetOf_keeping]
      cases rule.targetOf entry with
      | error fault => rfl
      | ok of =>
          cases rule.target.parent? with
          | none => rfl
          | some parent =>
              simp only [Index.instruction_keeping]
              cases (Index.of tree).instruction parent with
              | error fault => rfl
              | ok found =>
                  obtain ⟨instruction, slot⟩ := found
                  show (rule.resolve (Index.of (tree.keeping kept)) (instruction.keeping kept)
                    (of.keeping kept) >>= _) = _
                  rw [resolve_keeping hkept]
                  rfl

/-- A rule is for an input of an instruction: its path leads to the input, and the path of the
    owner to the instruction. -/
structure IsFor (rule : DefaultRule) (tree : Tree) (slot : Slot)
    (instruction : Instruction) (of : InputTarget) : Prop where
  input : ∃ entry, (Index.of tree).resolve rule.target = .ok entry ∧ entry.slot = slot
    ∧ rule.targetOf entry = .ok of
  caller : ∃ path place, rule.target.parent? = some path
    ∧ (Index.of tree).instruction path = .ok (instruction, place)

/-- **WHERE RULES ARE SETTLED**: a rule is settled for the input that it is for, with the value
    that it resolves to there. -/
theorem settle_eq_ok_iff_isFor {rule : DefaultRule} {slot : Slot} {value : DefaultValue} :
    rule.settle (Index.of tree) = .ok (slot, value) ↔ ∃ instruction of,
      rule.IsFor tree slot instruction of
        ∧ rule.resolve (Index.of tree) instruction of = .ok value := by
  constructor
  · intro h
    obtain ⟨entry, hentry, h⟩ := bind_eq_ok.mp h
    obtain ⟨of, hof, h⟩ := bind_eq_ok.mp h
    cases hparent : rule.target.parent? with
    | none => simp only [hparent] at h; exact nomatch h
    | some path =>
        simp only [hparent] at h
        obtain ⟨⟨instruction, place⟩, hinstruction, h⟩ := bind_eq_ok.mp h
        obtain ⟨resolved, hresolved, h⟩ := bind_eq_ok.mp h
        obtain ⟨rfl, rfl⟩ := Prod.mk.inj (pure_eq_ok.mp h)
        exact ⟨instruction, of, ⟨⟨entry, hentry, rfl, hof⟩, path, place, hparent, hinstruction⟩,
          hresolved⟩
  · rintro ⟨instruction, of, ⟨⟨entry, hentry, rfl, hof⟩, path, place, hparent, hinstruction⟩,
      hresolved⟩
    refine bind_eq_ok.mpr ⟨entry, hentry, bind_eq_ok.mpr ⟨of, hof, ?_⟩⟩
    simp only [hparent]
    exact bind_eq_ok.mpr ⟨_, hinstruction, bind_eq_ok.mpr ⟨value, hresolved, rfl⟩⟩

/-- The slot of an input holds it under the path of the rules that are for it. -/
theorem IsFor.holds {rule : DefaultRule} {slot : Slot} {instruction : Instruction}
    {of : InputTarget} (h : rule.IsFor tree slot instruction of) :
    ∃ node, tree.Holds slot rule.target node := by
  obtain ⟨entry, hentry, rfl, -⟩ := h.input
  exact ⟨entry.node, (Index.holds_of_find? (Index.resolve_eq_ok.mp hentry)).2⟩

/-- A rule that is settled has the slot that its target is held in. -/
theorem holds_of_settle {rule : DefaultRule} {stored : Slot × DefaultValue}
    (h : rule.settle (Index.of tree) = .ok stored) :
    ∃ node, tree.Holds stored.1 rule.target node := by
  obtain ⟨slot, value⟩ := stored
  obtain ⟨instruction, of, hfor, -⟩ := settle_eq_ok_iff_isFor.mp h
  exact hfor.holds

end DefaultRule

/-- The same tree with default values for the inputs in some slots, stored one after another. -/
def Tree.setDefaults (tree : Tree) (stored : List (Slot × DefaultValue)) : Tree :=
  stored.foldl (fun tree (slot, value) => tree.setDefault slot value) tree

/-- Storing defaults leaves all but defaults alone. -/
theorem Tree.setDefaults_frame (stored : List (Slot × DefaultValue)) (tree : Tree) :
    (tree.setDefaults stored).keeping (Attachment.allBut .default)
      = tree.keeping (Attachment.allBut .default) := by
  induction stored generalizing tree with
  | nil => rfl
  | cons one stored ih => exact (ih _).trans (Tree.setDefault_frame one.1 one.2)

/-- **SETTLE, THEN STORE**: setting defaults succeeds exactly when every rule is settled in the
    tree as it was, and stores the values in order. -/
theorem SetDefaults.apply_eq_ok_iff {operation : SetDefaults} {next : Tree} :
    operation.apply (Index.of tree) = .ok next ↔
      ∃ stored, operation.rules.mapM (·.settle (Index.of tree)) = .ok stored
        ∧ next = tree.setDefaults stored := by
  -- `t` is the tree that the rules so far gave; the index stays that of `tree`
  have hwalk : ∀ (rules : List DefaultRule) (t : Tree),
      rules.foldlM (fun t rule => rule.settle (Index.of tree) >>= fun stored =>
        pure (t.setDefault stored.1 stored.2)) t = .ok next ↔
        ∃ stored, rules.mapM (·.settle (Index.of tree)) = .ok stored ∧ next = t.setDefaults stored := by
    intro rules
    induction rules with
    | nil =>
        intro t
        rw [List.foldlM_nil, List.mapM_nil, pure_eq_ok]
        constructor
        · rintro rfl
          exact ⟨[], rfl, rfl⟩
        · rintro ⟨stored, hstored, rfl⟩
          rw [← pure_eq_ok.mp hstored]
          rfl
    | cons rule rules ih =>
        intro t
        rw [List.foldlM_cons, List.mapM_cons, bind_eq_ok]
        constructor
        · rintro ⟨t', hstep, h⟩
          obtain ⟨first, hfirst, hstep⟩ := bind_eq_ok.mp hstep
          obtain rfl := pure_eq_ok.mp hstep
          obtain ⟨stored, hstored, rfl⟩ := (ih _).mp h
          exact ⟨first :: stored,
            bind_eq_ok.mpr ⟨first, hfirst, bind_eq_ok.mpr ⟨stored, hstored, rfl⟩⟩, rfl⟩
        · rintro ⟨all, hall, rfl⟩
          obtain ⟨first, hfirst, h⟩ := bind_eq_ok.mp hall
          obtain ⟨stored, hstored, h⟩ := bind_eq_ok.mp h
          obtain rfl := pure_eq_ok.mp h
          exact ⟨_, bind_eq_ok.mpr ⟨first, hfirst, rfl⟩, (ih _).mpr ⟨stored, hstored, rfl⟩⟩
  exact hwalk operation.rules tree

end Bindery
