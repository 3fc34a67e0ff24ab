import Bindery.Proofs.Exports.Modules
import Mathlib.Data.List.Flatten
import Mathlib.Data.List.Nodup

/-! # Stems of exports — when exports are distinct

    Exports are looked at kind by kind: they are distinct exactly when the stems of
    each kind are (`nodup_iff_stemsOf`).  If the nodes of a program are told apart
    within their collections, so are codecs, functions for accounts and call
    builders.  What is left are clashes across collections: a tag of an account and
    one of an instruction, two errors, an account and a type, and one of these and a
    type that is declared beside an instruction or for the errors
    (`Tree.nodup_exports_iff`). -/

namespace Bindery

open Package (Export)

/-! ## Stems of one kind -/

namespace Package.Export

variable {kind : Kind} {stem : String} {exports : List Export}

/-- The stems of the exports of a kind. -/
def stemsOf (kind : Kind) (exports : List Export) : List String :=
  exports.filterMap fun e => if e.kind = kind then some e.stem else none

/-- An export is there exactly when its stem is among those of its kind. -/
theorem mem_stemsOf : stem ∈ stemsOf kind exports ↔ ⟨kind, stem⟩ ∈ exports := by
  rw [stemsOf, List.mem_filterMap]
  constructor
  · rintro ⟨⟨kind', stem'⟩, hmem, h⟩
    obtain ⟨hkind, hstem⟩ := Option.ite_none_right_eq_some.mp h
    obtain rfl : kind' = kind := hkind
    obtain rfl : stem' = stem := Option.some.inj hstem
    exact hmem
  · intro hmem
    exact ⟨_, hmem, if_pos rfl⟩

theorem stemsOf_nil : stemsOf kind [] = [] := rfl

/-- An export stands in front of those of its kind, and not among those of another. -/
theorem stemsOf_cons {e : Export} : stemsOf kind (e :: exports)
    = if e.kind = kind then e.stem :: stemsOf kind exports else stemsOf kind exports := by
  split
  · next h => exact List.filterMap_cons_some (if_pos h)
  · next h => exact List.filterMap_cons_none (if_neg h)

/-- **KIND BY KIND**: exports are distinct exactly when, for every kind, their stems are. -/
theorem nodup_iff_stemsOf : ∀ {exports : List Export},
    exports.Nodup ↔ ∀ kind, (stemsOf kind exports).Nodup := by
  intro exports
  induction exports with
  | nil => exact iff_of_true .nil fun _ => .nil
  | cons e exports ih =>
      rw [List.nodup_cons, ih]
      constructor
      · rintro ⟨hnew, hnodup⟩ kind
        rw [stemsOf_cons]
        split
        · next hkind =>
            obtain rfl : e.kind = kind := hkind
            exact .cons (fun hmem => hnew (mem_stemsOf.mp hmem)) (hnodup _)
        · exact hnodup kind
      · intro h
        have hself := h e.kind
        rw [stemsOf_cons, if_pos rfl, List.nodup_cons] at hself
        refine ⟨fun hmem => hself.1 (mem_stemsOf.mpr hmem), fun kind => ?_⟩
        have hkind := h kind
        rw [stemsOf_cons] at hkind
        split at hkind
        · exact (List.nodup_cons.mp hkind).2
        · exact hkind

theorem stemsOf_append {exports' : List Export} :
    stemsOf kind (exports ++ exports') = stemsOf kind exports ++ stemsOf kind exports' :=
  List.filterMap_append

theorem stemsOf_flatMap {α : Type} {nodes : List α} {f : α → List Export} :
    stemsOf kind (nodes.flatMap f) = nodes.flatMap fun a => stemsOf kind (f a) := by
  induction nodes with
  | nil => rfl
  | cons a nodes ih => rw [List.flatMap_cons, stemsOf_append, ih, List.flatMap_cons]

theorem stemsOf_map {α : Type} {nodes : List α} {kind' : Kind} {f : α → String} :
    stemsOf kind (nodes.map fun a => ⟨kind', f a⟩) = if kind' = kind then nodes.map f else [] := by
  rw [stemsOf, List.filterMap_map]
  split
  · next h =>
      exact (List.filterMap_congr fun a _ => if_pos h).trans (congrFun List.filterMap_eq_map _)
  · next h => exact (List.filterMap_congr fun a _ => if_neg h).trans (List.filterMap_none _)

theorem stemsOf_ifAny {α : Type} {nodes : List α} :
    stemsOf kind (Modules.ifAny nodes exports) = Modules.ifAny nodes (stemsOf kind exports) := by
  cases nodes <;> rfl

/-- The stems of an account, kind by kind. -/
theorem stemsOf_account (account : Account) : stemsOf kind account.exports
    = match kind with
      | .tag => account.discriminator.toList.map fun _ => Text.shoutyCase account.name
      | .type | .codec | .decoder => [Text.upperCamelCase account.name]
      | .finder => account.seeds.toList.map fun _ => Text.upperCamelCase account.name
      | .address | .error | .builder | .messages => [] := by
  simp only [Account.exports, stemsOf_append, stemsOf_map, stemsOf_cons, stemsOf_nil]
  cases kind <;> simp only [reduceCtorEq, if_true, if_false, List.append_nil, List.nil_append]

/-- The stems of an instruction, kind by kind. -/
theorem stemsOf_instruction (instruction : Instruction) : stemsOf kind instruction.exports
    = match kind with
      | .tag => instruction.discriminator.toList.map fun _ => Text.shoutyCase instruction.name
      | .type => [Text.upperCamelCase instruction.name ++ "InstructionData",
          Text.upperCamelCase instruction.name ++ "Input"]
      | .codec => [Text.upperCamelCase instruction.name ++ "InstructionData"]
      | .builder => [Text.upperCamelCase instruction.name]
      | .address | .error | .decoder | .finder | .messages => [] := by
  simp only [Instruction.exports, stemsOf_append, stemsOf_map, stemsOf_cons, stemsOf_nil]
  cases kind <;> simp only [reduceCtorEq, if_true, if_false, List.append_nil, List.nil_append]

/-- The stems of a defined type, kind by kind. -/
theorem stemsOf_definedType (defined : DefinedType) : stemsOf kind defined.exports
    = match kind with
      | .type | .codec => [Text.upperCamelCase defined.name]
      | .address | .tag | .error | .decoder | .finder | .builder | .messages => [] := by
  simp only [DefinedType.exports, stemsOf_cons, stemsOf_nil]
  cases kind <;> simp only [reduceCtorEq, if_true, if_false]

/-- The stems for the errors of a program, kind by kind. -/
theorem stemsOf_errors (program : Program) : stemsOf kind program.errorExports
    = match kind with
      | .error => program.errors.map fun error => Text.shoutyCase error.name
      | .type | .messages => [Text.upperCamelCase program.name ++ "Error"]
      | .address | .tag | .codec | .decoder | .finder | .builder => [] := by
  simp only [Program.errorExports, stemsOf_append, stemsOf_map, stemsOf_cons, stemsOf_nil]
  cases kind <;> simp only [reduceCtorEq, if_true, if_false, List.append_nil, List.nil_append]

end Package.Export

/-! ## Stems of a program -/

/-- Names are told apart by their cased forms, in upper camel case and in shouty case. -/
structure Text.CasedApart (names : List String) : Prop where
  upperCamel : (names.map Text.upperCamelCase).Nodup
  shouty : (names.map Text.shoutyCase).Nodup

/-- Nodes that are told apart are so in upper camel case, -/
theorem Text.CasedApart.nodup_upperCamel {α : Type} {nodes : List α} {nameOf : α → String}
    (h : Text.CasedApart (nodes.map nameOf)) :
    (nodes.map fun a => Text.upperCamelCase (nameOf a)).Nodup := by
  have hnodup := h.upperCamel
  rwa [List.map_map] at hnodup

/-- and in shouty case. -/
theorem Text.CasedApart.nodup_shouty {α : Type} {nodes : List α} {nameOf : α → String}
    (h : Text.CasedApart (nodes.map nameOf)) :
    (nodes.map fun a => Text.shoutyCase (nameOf a)).Nodup := by
  have hnodup := h.shouty
  rwa [List.map_map] at hnodup

namespace Tree

variable (tree : Tree) (program : Program)

/-- The accounts, the instructions and the types of a program are each told apart by their cased
    names. -/
structure NamesApart : Prop where
  accounts : Text.CasedApart (program.accounts.map (·.name))
  instructions : Text.CasedApart (program.instructions.map (·.name))
  definedTypes : Text.CasedApart ((tree.typesOf program).map (·.name))

/-- The types that are declared for accounts and defined types, under their own names. -/
def nodeTypes : List String :=
  program.accounts.map (fun account => Text.upperCamelCase account.name)
    ++ (tree.typesOf program).map fun defined => Text.upperCamelCase defined.name

end Tree

/-- The types that are declared beside them: for the data and the inputs of an instruction, and
    for the errors of the program. -/
def Program.derivedTypes (program : Program) : List String :=
  program.instructions.flatMap (fun instruction =>
      [Text.upperCamelCase instruction.name ++ "InstructionData",
        Text.upperCamelCase instruction.name ++ "Input"])
    ++ Modules.ifAny program.errors [Text.upperCamelCase program.name ++ "Error"]

/-- The exports of a program are apart across its collections: tags of accounts and of
    instructions, errors, accounts and types, and these and the types that are declared beside. -/
structure Tree.ExportsApart (tree : Tree) (program : Program) : Prop where
  tags : ∀ account ∈ program.accounts, account.discriminator.isSome = true →
    ∀ instruction ∈ program.instructions, instruction.discriminator.isSome = true →
      Text.shoutyCase account.name ≠ Text.shoutyCase instruction.name
  errors : (program.errors.map fun error => Text.shoutyCase error.name).Nodup
  types : ∀ account ∈ program.accounts, ∀ defined ∈ tree.typesOf program,
    Text.upperCamelCase account.name ≠ Text.upperCamelCase defined.name
  derived : ∀ name ∈ tree.nodeTypes program, name ∉ program.derivedTypes

namespace Tree

open Package.Export (stemsOf stemsOf_append stemsOf_flatMap stemsOf_ifAny stemsOf_account
  stemsOf_instruction stemsOf_definedType stemsOf_errors stemsOf_cons stemsOf_nil)

variable {tree : Tree} {program : Program} {kind : Export.Kind}

/-- What is there for each node with something of its own is there for the nodes that have it. -/
theorem flatMap_toList {α β γ : Type} {o : α → Option β} {f : α → γ} {nodes : List α} :
    nodes.flatMap (fun a => (o a).toList.map fun _ => f a)
      = (nodes.filter fun a => (o a).isSome).map f := by
  induction nodes with
  | nil => rfl
  | cons a nodes ih =>
      rw [List.flatMap_cons, ih, List.filter_cons]
      cases o a <;> rfl

/-- What no node has is not there. -/
theorem flatMap_none {α β : Type} {nodes : List α} :
    nodes.flatMap (fun _ => ([] : List β)) = [] :=
  List.flatMap_eq_nil_iff.mpr fun _ _ => rfl

/-- **THE STEMS OF A PROGRAM**, kind by kind. -/
theorem stemsOf_exports : stemsOf kind (tree.exports program)
    = match kind with
      | .address => [""]
      | .tag => (program.accounts.filter fun account => account.discriminator.isSome).map
            (fun account => Text.shoutyCase account.name)
          ++ (program.instructions.filter fun instruction => instruction.discriminator.isSome).map
            fun instruction => Text.shoutyCase instruction.name
      | .error => program.errors.map fun error => Text.shoutyCase error.name
      | .type => program.accounts.map (fun account => Text.upperCamelCase account.name)
          ++ program.derivedTypes
          ++ (tree.typesOf program).map fun defined => Text.upperCamelCase defined.name
      | .codec => program.accounts.map (fun account => Text.upperCamelCase account.name)
          ++ program.instructions.map (fun instruction =>
            Text.upperCamelCase instruction.name ++ "InstructionData")
          ++ (tree.typesOf program).map fun defined => Text.upperCamelCase defined.name
      | .decoder => program.accounts.map fun account => Text.upperCamelCase account.name
      | .finder => (program.accounts.filter fun account => account.seeds.isSome).map
          fun account => Text.upperCamelCase account.name
      | .builder => program.instructions.map fun instruction =>
          Text.upperCamelCase instruction.name
      | .messages =>
          Modules.ifAny program.errors [Text.upperCamelCase program.name ++ "Error"] := by
  have herrors : Modules.ifAny program.errors
      (program.errors.map fun error => Text.shoutyCase error.name)
        = program.errors.map fun error => Text.shoutyCase error.name := by
    cases program.errors <;> rfl
  have hnone : Modules.ifAny program.errors ([] : List String) = [] := ite_self []
  simp only [Tree.exports, stemsOf_append, stemsOf_flatMap, stemsOf_ifAny, stemsOf_account,
    stemsOf_instruction, stemsOf_definedType, stemsOf_errors, stemsOf_cons, stemsOf_nil]
  cases kind <;>
    simp only [reduceCtorEq, if_true, if_false, flatMap_toList, flatMap_none, herrors, hnone,
      Program.derivedTypes, ← List.map_eq_flatMap, List.nil_append, List.append_nil,
      List.append_assoc]

end Tree

/-! ## Exports that are apart -/

/-- Mapped lists are disjoint where no two items have one image. -/
theorem disjoint_map_iff {α β γ : Type} {f : α → γ} {g : β → γ} {as : List α} {bs : List β} :
    (as.map f).Disjoint (bs.map g) ↔ ∀ a ∈ as, ∀ b ∈ bs, f a ≠ g b := by
  constructor
  · intro h a ha b hb heq
    exact h (List.mem_map_of_mem ha) (heq ▸ List.mem_map_of_mem hb)
  · intro h c hc hc'
    obtain ⟨a, ha, rfl⟩ := List.mem_map.mp hc
    obtain ⟨b, hb, heq⟩ := List.mem_map.mp hc'
    exact h a ha b hb heq.symm

/-- Texts are different if their endings have different last characters. -/
theorem append_ne_append {ending ending' : String} {c d : Char}
    (hc : ending.toList.getLast? = some c) (hd : ending'.toList.getLast? = some d) (hne : c ≠ d)
    (text text' : String) : text ++ ending ≠ text' ++ ending' := by
  intro h
  have hlast := congrArg (fun text : String => text.toList.getLast?) h
  simp only [String.toList_append, List.getLast?_append, hc, hd, Option.some_or] at hlast
  exact hne (Option.some.inj hlast)

/-- Types that are declared beside nodes are distinct where the instructions are told apart. -/
theorem Program.nodup_derivedTypes {program : Program}
    (h : (program.instructions.map fun i => Text.upperCamelCase i.name).Nodup) :
    program.derivedTypes.Nodup := by
  have hdata : ∀ text text' : String, text ++ "InstructionData" ≠ text' ++ "Input" :=
    append_ne_append rfl rfl (by decide)
  have hdataError : ∀ text text' : String, text ++ "InstructionData" ≠ text' ++ "Error" :=
    append_ne_append rfl rfl (by decide)
  have hinputError : ∀ text text' : String, text ++ "Input" ≠ text' ++ "Error" :=
    append_ne_append rfl rfl (by decide)
  rw [derivedTypes, List.nodup_append', List.nodup_flatMap]
  refine ⟨⟨fun i _ => ?_, (List.pairwise_map.mp h).imp fun {i j} hne name hi hj => ?_⟩, ?_, ?_⟩
  · exact List.nodup_cons.mpr ⟨fun hmem => hdata _ _ (List.mem_singleton.mp hmem),
      List.nodup_singleton _⟩
  · simp only [List.mem_cons, List.not_mem_nil, or_false] at hi hj
    rcases hi with rfl | rfl <;> rcases hj with hj | hj
    · exact hne ((String.append_left_inj _).mp hj)
    · exact hdata _ _ hj
    · exact hdata _ _ hj.symm
    · exact hne ((String.append_left_inj _).mp hj)
  · exact (Modules.ifAny_sublist _ _).nodup (List.nodup_singleton _)
  · intro name hname herror
    obtain ⟨i, -, hname⟩ := List.mem_flatMap.mp hname
    obtain rfl := List.mem_singleton.mp (Modules.mem_ifAny.mp herror).2
    simp only [List.mem_cons, List.not_mem_nil, or_false] at hname
    rcases hname with hname | hname
    · exact hdataError _ _ hname.symm
    · exact hinputError _ _ hname.symm

namespace Tree

open Package.Export (stemsOf nodup_iff_stemsOf)

variable {tree : Tree} {program : Program}

/-- The types of a program are distinct exactly when accounts, types and those beside are. -/
theorem nodup_stemsOf_type_iff (hnames : tree.NamesApart program) :
    (stemsOf .type (tree.exports program)).Nodup
      ↔ (∀ account ∈ program.accounts, ∀ defined ∈ tree.typesOf program,
          Text.upperCamelCase account.name ≠ Text.upperCamelCase defined.name)
        ∧ ∀ name ∈ tree.nodeTypes program, name ∉ program.derivedTypes := by
  have hderived : program.derivedTypes.Nodup :=
    Program.nodup_derivedTypes hnames.instructions.nodup_upperCamel
  rw [stemsOf_exports, List.append_assoc, (List.perm_append_comm.append_left _).nodup_iff,
    ← List.append_assoc, List.nodup_append', List.nodup_append', disjoint_map_iff,
    and_iff_right hnames.accounts.nodup_upperCamel,
    and_iff_right hnames.definedTypes.nodup_upperCamel, and_iff_right hderived]
  rfl

/-- Tags of a program are distinct exactly when no account and instruction with one have the same
    shouty name. -/
theorem nodup_stemsOf_tag_iff (hnames : tree.NamesApart program) :
    (stemsOf .tag (tree.exports program)).Nodup
      ↔ ∀ account ∈ program.accounts, account.discriminator.isSome = true →
          ∀ instruction ∈ program.instructions, instruction.discriminator.isSome = true →
            Text.shoutyCase account.name ≠ Text.shoutyCase instruction.name := by
  have haccounts : ((program.accounts.filter fun account => account.discriminator.isSome).map
      fun account => Text.shoutyCase account.name).Nodup :=
    hnames.accounts.nodup_shouty.sublist (List.filter_sublist.map _)
  have hinstructions : ((program.instructions.filter fun i => i.discriminator.isSome).map
      fun i => Text.shoutyCase i.name).Nodup :=
    hnames.instructions.nodup_shouty.sublist (List.filter_sublist.map _)
  rw [stemsOf_exports, List.nodup_append', disjoint_map_iff, and_iff_right haccounts,
    and_iff_right hinstructions]
  simp only [List.mem_filter, and_imp]

/-- **EXPORTS THAT ARE APART**: where the nodes of a program are told apart in their collections,
    its exports are distinct exactly when they are apart across them. -/
theorem nodup_exports_iff (hnames : tree.NamesApart program) :
    (tree.exports program).Nodup ↔ tree.ExportsApart program := by
  rw [nodup_iff_stemsOf]
  constructor
  · intro h
    have herrors := h .error
    rw [stemsOf_exports] at herrors
    obtain ⟨htypes, hderived⟩ := (nodup_stemsOf_type_iff hnames).mp (h .type)
    exact ⟨(nodup_stemsOf_tag_iff hnames).mp (h .tag), herrors, htypes, hderived⟩
  · intro h kind
    have htypes := (nodup_stemsOf_type_iff hnames).mpr ⟨h.types, h.derived⟩
    rw [stemsOf_exports] at htypes
    cases kind with
    | address =>
        rw [stemsOf_exports]
        exact List.nodup_singleton _
    | tag => exact (nodup_stemsOf_tag_iff hnames).mpr h.tags
    | error =>
        rw [stemsOf_exports]
        exact h.errors
    | type =>
        rw [stemsOf_exports]
        exact htypes
    | codec =>
        -- the codecs are those of types that are declared
        rw [stemsOf_exports]
        refine htypes.sublist (.append (.append (.refl _) ?_) (.refl _))
        rw [List.map_eq_flatMap]
        exact (List.Sublist.flatMap_right _ fun i _ => .cons_cons _ (List.nil_sublist _)).trans
          (List.sublist_append_left _ _)
    | decoder =>
        rw [stemsOf_exports]
        exact hnames.accounts.nodup_upperCamel
    | finder =>
        rw [stemsOf_exports]
        exact hnames.accounts.nodup_upperCamel.sublist (List.filter_sublist.map _)
    | builder =>
        rw [stemsOf_exports]
        exact hnames.instructions.nodup_upperCamel
    | messages =>
        rw [stemsOf_exports]
        exact (Modules.ifAny_sublist _ _).nodup (List.nodup_singleton _)

end Tree

end Bindery
