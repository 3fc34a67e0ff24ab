import Bindery.Index
import Bindery.Proofs.Except
import Bindery.Proofs.Names

/-! # Slots and paths — what the index of a tree resolves

    A slot is a position, a path is a list of names; `Tree.Holds` relates a slot
    to the path and the node in it.  The entries of a tree are exactly the
    triples of this relation (`mem_entries`), and where names are distinct per
    scope (`Tree.Distinct`) a path belongs to one slot (`slot_unique`), so that
    resolving a path is the inverse of reading the names on the way to a slot. -/

namespace Bindery

/-- A slot of a tree with the path and the node that it holds. -/
inductive Tree.Holds (tree : Tree) : Slot → NodePath → Node → Prop
  | program {p : Nat} {program : Program} (hp : tree.programs[p]? = some program) :
      tree.Holds (.program p) (.program program.name) (.program program)
  | account {p i : Nat} {program : Program} {account : Account}
      (hp : tree.programs[p]? = some program) (hi : program.accounts[i]? = some account) :
      tree.Holds (.account p i) (.account program.name account.name) (.account account)
  | definedType {p i : Nat} {program : Program} {defined : DefinedType}
      (hp : tree.programs[p]? = some program)
      (hi : program.definedTypes[i]? = some defined) :
      tree.Holds (.definedType p i) (.definedType program.name defined.name)
        (.definedType defined)
  | instruction {p i : Nat} {program : Program} {instruction : Instruction}
      (hp : tree.programs[p]? = some program)
      (hi : program.instructions[i]? = some instruction) :
      tree.Holds (.instruction p i) (.instruction program.name instruction.name)
        (.instruction instruction)
  | instructionAccount {p i m : Nat} {program : Program} {instruction : Instruction}
      {account : InstructionAccount} (hp : tree.programs[p]? = some program)
      (hi : program.instructions[i]? = some instruction)
      (hm : instruction.accounts[m]? = some account) :
      tree.Holds (.instructionAccount p i m)
        (.instructionAccount program.name instruction.name account.name)
        (.instructionAccount account)
  | instructionArgument {p i m : Nat} {program : Program} {instruction : Instruction}
      {argument : InstructionArgument} (hp : tree.programs[p]? = some program)
      (hi : program.instructions[i]? = some instruction)
      (hm : instruction.arguments[m]? = some argument) :
      tree.Holds (.instructionArgument p i m)
        (.instructionArgument program.name instruction.name argument.name)
        (.instructionArgument argument)
  | sharedType {i : Nat} {defined : DefinedType} (hi : tree.sharedTypes[i]? = some defined) :
      tree.Holds (.sharedType i) (.sharedType defined.name) (.definedType defined)

/-- Names are distinct among the accounts and among the arguments of an
    instruction. -/
structure Instruction.Distinct (instruction : Instruction) : Prop where
  accounts : (instruction.accounts.map (·.name)).Nodup
  arguments : (instruction.arguments.map (·.name)).Nodup

/-- Names are distinct in every scope of a program that paths reach. -/
structure Program.Distinct (program : Program) : Prop where
  accounts : (program.accounts.map (·.name)).Nodup
  definedTypes : (program.definedTypes.map (·.name)).Nodup
  instructions : (program.instructions.map (·.name)).Nodup
  inputs : ∀ instruction ∈ program.instructions, instruction.Distinct

/-- Names are distinct in every scope of a tree that paths reach. -/
structure Tree.Distinct (tree : Tree) : Prop where
  programs : (tree.programs.map (·.name)).Nodup
  sharedTypes : (tree.sharedTypes.map (·.name)).Nodup
  members : ∀ program ∈ tree.programs, program.Distinct

namespace Tree

variable {tree : Tree} {slot slot' : Slot} {path path' : NodePath} {node node' : Node}

/-- A slot holds one path. -/
theorem Holds.path_unique (h : tree.Holds slot path node) (h' : tree.Holds slot path' node') :
    path = path' := by
  cases h <;> cases h' <;> simp_all

/-- The node that a slot holds is the node that following its positions
    reaches. -/
theorem Holds.nodeAt? (h : tree.Holds slot path node) : tree.nodeAt? slot = some node := by
  cases h <;> simp_all [Tree.nodeAt?]

/-- A program sits in the list of programs. -/
theorem Holds.program_inv {program : Program} (h : tree.Holds slot path (.program program)) :
    ∃ p, slot = .program p ∧ path = .program program.name ∧ tree.programs[p]? = some program := by
  cases h with
  | program hp => exact ⟨_, rfl, rfl, hp⟩

/-- An account sits in the list of accounts of a program. -/
theorem Holds.account_inv {account : Account} (h : tree.Holds slot path (.account account)) :
    ∃ p i program, slot = .account p i ∧ path = .account program.name account.name
      ∧ tree.programs[p]? = some program ∧ program.accounts[i]? = some account := by
  cases h with
  | account hp hi => exact ⟨_, _, _, rfl, rfl, hp, hi⟩

/-- Programs of one name sit in one place. -/
theorem Distinct.program_unique (hd : tree.Distinct) {p q : Nat} {program program' : Program}
    (hp : tree.programs[p]? = some program) (hq : tree.programs[q]? = some program')
    (hname : program.name = program'.name) : p = q ∧ program = program' := by
  obtain rfl := position_unique hd.programs hp hq hname
  exact ⟨rfl, Option.some.inj (hp.symm.trans hq)⟩

/-- Instructions of one name sit in one place. -/
theorem Distinct.instruction_unique (hd : tree.Distinct) {p i j : Nat} {program : Program}
    {instruction instruction' : Instruction} (hp : tree.programs[p]? = some program)
    (hi : program.instructions[i]? = some instruction)
    (hj : program.instructions[j]? = some instruction')
    (hname : instruction.name = instruction'.name) : i = j ∧ instruction = instruction' := by
  obtain rfl := position_unique
    (hd.members program (List.mem_of_getElem? hp)).instructions hi hj hname
  exact ⟨rfl, Option.some.inj (hi.symm.trans hj)⟩

/-- Programs have one name when they sit in one place. -/
theorem Distinct.program_position_iff (hd : tree.Distinct) {p q : Nat}
    {program program' : Program} (hp : tree.programs[p]? = some program)
    (hq : tree.programs[q]? = some program') : q = p ↔ program'.name = program.name := by
  constructor
  · rintro rfl
    rw [Option.some.inj (hp.symm.trans hq)]
  · intro hname
    exact (hd.program_unique hq hp hname).1

/-- Instructions have one name, in programs of one name, when they sit in one
    place. -/
theorem Distinct.instruction_position_iff (hd : tree.Distinct) {p q i j : Nat}
    {program program' : Program} {instruction instruction' : Instruction}
    (hp : tree.programs[p]? = some program) (hq : tree.programs[q]? = some program')
    (hi : program.instructions[i]? = some instruction)
    (hj : program'.instructions[j]? = some instruction') :
    q = p ∧ j = i ↔ program'.name = program.name ∧ instruction'.name = instruction.name := by
  rw [hd.program_position_iff hp hq]
  refine and_congr_right fun hP => ?_
  obtain ⟨rfl, rfl⟩ := hd.program_unique hp hq hP.symm
  constructor
  · rintro rfl
    rw [Option.some.inj (hi.symm.trans hj)]
  · intro hI
    exact (hd.instruction_unique hq hj hi hI).1

/-- **ONE SLOT FOR A PATH**: where names are distinct per scope, a path is held
    by one slot. -/
theorem Distinct.slot_unique (hd : tree.Distinct) (h : tree.Holds slot path node)
    (h' : tree.Holds slot' path' node') (hpath : path = path') : slot = slot' := by
  cases h with
  | program hp =>
      cases h' with
      | program hq =>
          obtain ⟨rfl, -⟩ := hd.program_unique hp hq (NodePath.program.inj hpath)
          rfl
      | _ => exact nomatch hpath
  | sharedType hi =>
      cases h' with
      | sharedType hj =>
          rw [position_unique hd.sharedTypes hi hj (NodePath.sharedType.inj hpath)]
      | _ => exact nomatch hpath
  | account hp hi =>
      cases h' with
      | account hq hj =>
          obtain ⟨hP, hA⟩ := NodePath.account.inj hpath
          obtain ⟨rfl, rfl⟩ := hd.program_unique hp hq hP
          rw [position_unique (hd.members _ (List.mem_of_getElem? hp)).accounts hi hj hA]
      | _ => exact nomatch hpath
  | definedType hp hi =>
      cases h' with
      | definedType hq hj =>
          obtain ⟨hP, hT⟩ := NodePath.definedType.inj hpath
          obtain ⟨rfl, rfl⟩ := hd.program_unique hp hq hP
          rw [position_unique (hd.members _ (List.mem_of_getElem? hp)).definedTypes hi hj hT]
      | _ => exact nomatch hpath
  | instruction hp hi =>
      cases h' with
      | instruction hq hj =>
          obtain ⟨hP, hI⟩ := NodePath.instruction.inj hpath
          obtain ⟨rfl, rfl⟩ := hd.program_unique hp hq hP
          obtain ⟨rfl, -⟩ := hd.instruction_unique hp hi hj hI
          rfl
      | _ => exact nomatch hpath
  | instructionAccount hp hi hm =>
      cases h' with
      | instructionAccount hq hj hn =>
          obtain ⟨hP, hI, hA⟩ := NodePath.instructionAccount.inj hpath
          obtain ⟨rfl, rfl⟩ := hd.program_unique hp hq hP
          obtain ⟨rfl, rfl⟩ := hd.instruction_unique hp hi hj hI
          have hinputs :=
            (hd.members _ (List.mem_of_getElem? hp)).inputs _ (List.mem_of_getElem? hi)
          rw [position_unique hinputs.accounts hm hn hA]
      | _ => exact nomatch hpath
  | instructionArgument hp hi hm =>
      cases h' with
      | instructionArgument hq hj hn =>
          obtain ⟨hP, hI, hA⟩ := NodePath.instructionArgument.inj hpath
          obtain ⟨rfl, rfl⟩ := hd.program_unique hp hq hP
          obtain ⟨rfl, rfl⟩ := hd.instruction_unique hp hi hj hI
          have hinputs :=
            (hd.members _ (List.mem_of_getElem? hp)).inputs _ (List.mem_of_getElem? hi)
          rw [position_unique hinputs.arguments hm hn hA]
      | _ => exact nomatch hpath

/-- Where names are distinct per scope, a path is held with one node. -/
theorem Distinct.node_unique (hd : tree.Distinct) (h : tree.Holds slot path node)
    (h' : tree.Holds slot' path node') : node = node' := by
  obtain rfl := hd.slot_unique h h' rfl
  exact Option.some.inj (h.nodeAt?.symm.trans h'.nodeAt?)

end Tree

/-! ## The entries of a tree -/

/-- The entries of a tree are its slots with what they hold. -/
theorem mem_entries {tree : Tree} {entry : Entry} :
    entry ∈ tree.entries ↔ tree.Holds entry.slot entry.path entry.node := by
  simp only [Tree.entries, Program.entries, Instruction.entries, List.mem_append, List.mem_map,
    List.mem_flatMap, List.cons_append, List.mem_cons, List.mem_zipIdx_iff_getElem?,
    Prod.exists]
  constructor
  · rintro (⟨defined, i, hi, rfl⟩ | ⟨program, p, hp, rfl | (⟨account, i, hi, rfl⟩
      | ⟨defined, i, hi, rfl⟩) | ⟨instruction, i, hi, rfl | ⟨account, m, hm, rfl⟩
      | ⟨argument, m, hm, rfl⟩⟩⟩)
    · exact .sharedType hi
    · exact .program hp
    · exact .account hp hi
    · exact .definedType hp hi
    · exact .instruction hp hi
    · exact .instructionAccount hp hi hm
    · exact .instructionArgument hp hi hm
  · obtain ⟨path, slot, node⟩ := entry
    intro h
    cases h with
    | sharedType hi => exact .inl ⟨_, _, hi, rfl⟩
    | program hp => exact .inr ⟨_, _, hp, .inl rfl⟩
    | account hp hi => exact .inr ⟨_, _, hp, .inr (.inl (.inl ⟨_, _, hi, rfl⟩))⟩
    | definedType hp hi => exact .inr ⟨_, _, hp, .inr (.inl (.inr ⟨_, _, hi, rfl⟩))⟩
    | instruction hp hi => exact .inr ⟨_, _, hp, .inr (.inr ⟨_, _, hi, .inl rfl⟩)⟩
    | instructionAccount hp hi hm =>
        exact .inr ⟨_, _, hp, .inr (.inr ⟨_, _, hi, .inr (.inl ⟨_, _, hm, rfl⟩)⟩)⟩
    | instructionArgument hp hi hm =>
        exact .inr ⟨_, _, hp, .inr (.inr ⟨_, _, hi, .inr (.inr ⟨_, _, hm, rfl⟩)⟩)⟩

namespace Index

variable {tree : Tree} {path : NodePath} {entry : Entry}

/-- What a path resolves to is held under that path. -/
theorem holds_of_find? (h : (Index.of tree).find? path = some entry) :
    entry.path = path ∧ tree.Holds entry.slot path entry.node := by
  have hpath : entry.path = path := by
    have := List.find?_some h
    exact of_decide_eq_true this
  have hmem := mem_entries.mp (List.mem_of_find?_eq_some h)
  exact ⟨hpath, hpath ▸ hmem⟩

/-- A path selects something when a slot holds it. -/
theorem contains_iff :
    (Index.of tree).contains path = true ↔ ∃ slot node, tree.Holds slot path node := by
  show ((Index.of tree).find? path).isSome = true ↔ _
  constructor
  · intro h
    obtain ⟨entry, hentry⟩ := Option.isSome_iff_exists.mp h
    exact ⟨entry.slot, entry.node, (holds_of_find? hentry).2⟩
  · rintro ⟨slot, node, h⟩
    refine List.find?_isSome.mpr ⟨⟨path, slot, node⟩, mem_entries.mpr h, ?_⟩
    exact decide_eq_true rfl

/-- **EXACT RESOLUTION**: where names are distinct per scope, a path resolves to
    the one slot that holds it. -/
theorem find?_eq_some_iff (hd : tree.Distinct) :
    (Index.of tree).find? path = some entry ↔
      entry.path = path ∧ tree.Holds entry.slot path entry.node := by
  constructor
  · exact holds_of_find?
  · rintro ⟨rfl, h⟩
    obtain ⟨found, hfound⟩ := Option.isSome_iff_exists.mp (contains_iff.mpr ⟨_, _, h⟩)
    obtain ⟨hpath, hheld⟩ := holds_of_find? hfound
    have hslot := hd.slot_unique hheld h rfl
    have hnode := hd.node_unique hheld h
    rw [hfound]
    cases found
    cases entry
    simp_all

/-- There a path that a slot holds is found. -/
theorem find?_of_holds {slot : Slot} {node : Node} (hd : tree.Distinct)
    (h : tree.Holds slot path node) : (Index.of tree).find? path = some ⟨path, slot, node⟩ :=
  (find?_eq_some_iff hd).mpr ⟨rfl, h⟩

/-- A resolved path is found. -/
theorem resolve_eq_ok {index : Index} : index.resolve path = .ok entry ↔
    index.find? path = some entry := by
  unfold Index.resolve
  cases h : index.find? path with
  | none => exact ⟨fun h => (nomatch h), fun h => (nomatch h)⟩
  | some found =>
      constructor
      · intro h; exact congrArg some (Except.ok.inj h)
      · intro h; exact congrArg _ (Option.some.inj h)

/-- A path that does not resolve is not found. -/
theorem resolve_eq_error {index : Index} {fault : TransformError}
    (h : index.resolve path = .error fault) :
    index.find? path = none ∧ fault = .unresolved path := by
  unfold Index.resolve at h
  cases hfound : index.find? path with
  | none => rw [hfound] at h; exact ⟨rfl, (Except.error.inj h).symm⟩
  | some found => rw [hfound] at h; exact nomatch h

/-- A path of another kind than asked for is not even resolved. -/
theorem resolveKind_eq_ok {index : Index} {kind : NodeKind} :
    index.resolveKind path kind = .ok entry ↔ path.kind = kind ∧ index.find? path = some entry := by
  unfold resolveKind
  by_cases hkind : path.kind = kind
  · rw [if_pos hkind, resolve_eq_ok, and_iff_right hkind]
  · rw [if_neg hkind]
    exact ⟨fun h => (nomatch h), fun h => absurd h.1 hkind⟩

/-- What is looked up under a path is held under it, whatever kind is asked for. -/
theorem holds_of_resolveKind {kind : NodeKind}
    (h : (Index.of tree).resolveKind path kind = .ok entry) :
    tree.Holds entry.slot path entry.node :=
  (holds_of_find? (resolveKind_eq_ok.mp h).2).2

/-- What is held under a path is looked up there, when its kind is asked for. -/
theorem resolveKind_of_holds (hd : tree.Distinct) {kind : NodeKind} {slot : Slot} {node : Node}
    (hkind : path.kind = kind) (h : tree.Holds slot path node) :
    (Index.of tree).resolveKind path kind = .ok ⟨path, slot, node⟩ :=
  resolveKind_eq_ok.mpr ⟨hkind, find?_of_holds hd h⟩

section Selecting

variable {slot : Slot}

/-- The program that a path selects is held under it. -/
theorem holds_of_program {program : Program}
    (h : (Index.of tree).program path = .ok (program, slot)) :
    tree.Holds slot path (.program program) := by
  obtain ⟨⟨_, found, node⟩, hentry, h⟩ := bind_eq_ok.mp h
  have hheld := holds_of_resolveKind hentry
  cases node with
  | program node =>
      obtain ⟨rfl, rfl⟩ := Prod.mk.inj (pure_eq_ok.mp h)
      exact hheld
  | _ => exact nomatch h

/-- The account that a path selects is held under it. -/
theorem holds_of_account {account : Account}
    (h : (Index.of tree).account path = .ok (account, slot)) :
    tree.Holds slot path (.account account) := by
  obtain ⟨⟨_, found, node⟩, hentry, h⟩ := bind_eq_ok.mp h
  have hheld := holds_of_resolveKind hentry
  cases node with
  | account node =>
      obtain ⟨rfl, rfl⟩ := Prod.mk.inj (pure_eq_ok.mp h)
      exact hheld
  | _ => exact nomatch h

/-- The instruction that a path selects is held under it. -/
theorem holds_of_instruction {instruction : Instruction}
    (h : (Index.of tree).instruction path = .ok (instruction, slot)) :
    tree.Holds slot path (.instruction instruction) := by
  obtain ⟨⟨_, found, node⟩, hentry, h⟩ := bind_eq_ok.mp h
  have hheld := holds_of_resolveKind hentry
  cases node with
  | instruction node =>
      obtain ⟨rfl, rfl⟩ := Prod.mk.inj (pure_eq_ok.mp h)
      exact hheld
  | _ => exact nomatch h

/-- The type that a path selects is held under it. -/
theorem holds_of_definedType {defined : DefinedType}
    (h : (Index.of tree).definedType path = .ok (defined, slot)) :
    tree.Holds slot path (.definedType defined) := by
  obtain ⟨⟨_, found, node⟩, hentry, h⟩ := bind_eq_ok.mp h
  have hheld := holds_of_resolveKind hentry
  cases node with
  | definedType node =>
      obtain ⟨rfl, rfl⟩ := Prod.mk.inj (pure_eq_ok.mp h)
      exact hheld
  | _ => exact nomatch h

/-- Where names are distinct, a path selects the program that is held under it, -/
theorem program_eq_ok_iff (hd : tree.Distinct) {program : Program} :
    (Index.of tree).program path = .ok (program, slot) ↔
      tree.Holds slot path (.program program) := by
  refine ⟨holds_of_program, fun h => ?_⟩
  have hkind : path.kind = .program := by cases h; rfl
  exact bind_eq_ok.mpr ⟨_, resolveKind_of_holds hd hkind h, rfl⟩

/-- the account, -/
theorem account_eq_ok_iff (hd : tree.Distinct) {account : Account} :
    (Index.of tree).account path = .ok (account, slot) ↔
      tree.Holds slot path (.account account) := by
  refine ⟨holds_of_account, fun h => ?_⟩
  have hkind : path.kind = .account := by cases h; rfl
  exact bind_eq_ok.mpr ⟨_, resolveKind_of_holds hd hkind h, rfl⟩

/-- the instruction, -/
theorem instruction_eq_ok_iff (hd : tree.Distinct) {instruction : Instruction} :
    (Index.of tree).instruction path = .ok (instruction, slot) ↔
      tree.Holds slot path (.instruction instruction) := by
  refine ⟨holds_of_instruction, fun h => ?_⟩
  have hkind : path.kind = .instruction := by cases h; rfl
  exact bind_eq_ok.mpr ⟨_, resolveKind_of_holds hd hkind h, rfl⟩

/-- and the type, of a program or shared. -/
theorem definedType_eq_ok_iff (hd : tree.Distinct) {defined : DefinedType} :
    (Index.of tree).definedType path = .ok (defined, slot) ↔
      tree.Holds slot path (.definedType defined) := by
  refine ⟨holds_of_definedType, fun h => ?_⟩
  have hkind : path.kind = .definedType := by cases h <;> rfl
  exact bind_eq_ok.mpr ⟨_, resolveKind_of_holds hd hkind h, rfl⟩

end Selecting

end Index

end Bindery
