import Bindery.Proofs.Description.Conversion

/-! # Acceptance — exactly which documents describe a program

    What a document has to have is put in its own terms (`Description.Acceptable`):
    a name and an address, proper names in every scope, known types, struct
    layouts for its accounts, no groups, tags that fit and differ, and links that
    it defines.  The conversion asks for exactly this
    (`Description.toProgram_gives`).

    The checks of the declarations come with their conversions already (`Gives`);
    those of the finished program are about the program (`validate_eq_ok`), and have
    to be read back as conditions on the document.  The types that an account
    borrows from a definition are those of the definition, so that only the layouts
    an account states itself count (`Description.forall_expressions_iff`). -/

namespace Bindery

/-! ## Checks of the program -/

/-- No item is found where nothing is repeated. -/
theorem firstRepeated_eq_none {α : Type} [DecidableEq α] : ∀ {l seen : List α},
    firstRepeated seen l = none ↔ RepeatsNothing seen l := by
  intro l
  induction l with
  | nil => exact fun {_} => ⟨fun _ => repeatsNothing_nil, fun _ => rfl⟩
  | cons a l ih =>
      intro seen
      rw [firstRepeated, repeatsNothing_cons, ← ih]
      by_cases ha : a ∈ seen
      · rw [if_pos ha]
        exact ⟨fun h => (nomatch h), fun h => absurd ha h.1⟩
      · rw [if_neg ha]
        exact ⟨fun h => ⟨ha, h⟩, fun h => h.2⟩

/-- The names of a scope pass when they are distinct. -/
theorem checkDistinct_eq_ok {scope : NameScope} {names : List String} :
    Program.checkDistinct scope names = .ok () ↔ names.Nodup := by
  rw [← repeatsNothing_iff_nodup, ← firstRepeated_eq_none, Program.checkDistinct]
  cases firstRepeated [] names with
  | none => exact ⟨fun _ => rfl, fun _ => rfl⟩
  | some name => exact ⟨fun h => (nomatch h), fun h => (nomatch h)⟩

/-- Instructions pass when their tags differ from each other and from those seen. -/
theorem checkTags_eq_ok : ∀ {instructions : List Instruction}
    {seen : List (UInt64 × List UInt8 × String)},
    Program.checkTags seen instructions = .ok () ↔
      RepeatsNothing (seen.map fun s => (s.1, s.2.1))
        ((instructions.filterMap (·.discriminator)).map (·.key)) := by
  intro instructions
  induction instructions with
  | nil => exact fun {_} => ⟨fun _ => repeatsNothing_nil, fun _ => rfl⟩
  | cons instruction instructions ih =>
      intro seen
      cases htag : instruction.discriminator with
      | none =>
          simp only [Program.checkTags, htag, List.filterMap_cons_none htag]
          exact ih
      | some tag =>
          simp only [Program.checkTags, htag, List.filterMap_cons_some htag, List.map_cons,
            repeatsNothing_cons]
          -- place and bytes are compared as one key
          have hkey : ∀ s : UInt64 × List UInt8 × String,
              (s.1 = tag.offset ∧ s.2.1 = tag.encoded) = ((s.1, s.2.1) = tag.key) :=
            fun s => (Prod.mk.injEq ..).symm
          simp only [hkey]
          cases hfound : seen.find? fun s => (s.1, s.2.1) = tag.key with
          | some s =>
              exact ⟨fun h => (nomatch h), fun h => absurd (mem_names_of_find? hfound) h.1⟩
          | none =>
              have hnew := notMem_names_of_find? hfound
              exact ⟨fun h => ⟨hnew, ih.mp h⟩, fun h => ih.mpr h.2⟩

/-- **EXACT VALIDATION**: a program passes when names are distinct per scope, tags
    tell the instructions apart and every link names a type of the program. -/
theorem validate_eq_ok {program : Program} :
    program.validate = .ok () ↔
      (program.accounts.map (·.name)).Nodup ∧ (program.instructions.map (·.name)).Nodup
        ∧ (program.definedTypes.map (·.name)).Nodup ∧ (program.errors.map (·.name)).Nodup
        ∧ (∀ instruction ∈ program.instructions, instruction.Distinct)
        ∧ ((program.instructions.filterMap (·.discriminator)).map (·.key)).Nodup
        ∧ ∀ name ∈ program.links, program.defines name = true := by
  have hinputs : ∀ instruction : Instruction,
      (instruction.accounts.map (·.name)).Nodup ∧ (instruction.arguments.map (·.name)).Nodup
        ↔ instruction.Distinct :=
    fun _ => ⟨fun h => ⟨h.1, h.2⟩, fun h => ⟨h.accounts, h.arguments⟩⟩
  unfold Program.validate
  simp only [check_bind_eq_ok, checkDistinct_eq_ok, forM_eq_ok, checkTags_eq_ok, List.map_nil,
    repeatsNothing_iff_nodup, hinputs]
  refine and_congr_right' (and_congr_right' (and_congr_right' (and_congr_right'
    (and_congr_right' (and_congr_right' ?_)))))
  cases hfound : program.links.find? fun name => !program.defines name with
  | some name =>
      have hundefined := List.find?_some hfound
      refine ⟨fun h => (nomatch h), fun h => ?_⟩
      rw [h name (List.mem_of_find?_eq_some hfound)] at hundefined
      exact nomatch hundefined
  | none =>
      refine ⟨fun _ name hname => ?_, fun _ => rfl⟩
      have := List.find?_eq_none.mp hfound name hname
      simpa using this

namespace Description

/-! ## Acceptable documents -/

/-- The name that a document gives its program. -/
def givenName (description : Description) : Option String :=
  description.name <|> description.metadata.name

/-- The address that a document gives its program. -/
def givenAddress (description : Description) : Option String :=
  description.address <|> description.metadata.address

/-- The program that a document means. -/
def meaning (description : Description) : Program where
  name := description.givenName.getD ""
  publicKey := description.givenAddress.getD ""
  version := (description.version <|> description.metadata.version).getD ""
  docs := description.docs
  accounts := description.accounts.map (·.meaning description.types)
  instructions := description.instructions.map (·.meaning)
  definedTypes := description.types.map (·.meaning)
  errors := description.errors.map (·.meaning)

/-- The type expressions that a document states: in the layouts of accounts, for arguments, and
    in definitions. -/
def expressions (description : Description) : List TypeExpr :=
  description.accounts.flatMap (fun account => (account.layout.map (·.types)).getD [])
    ++ description.instructions.flatMap (·.arguments.map (·.type))
    ++ description.types.flatMap (·.layout.types)

/-- The inputs of an instruction have proper names, its accounts are no groups, and the number
    of its tag, if it has one, fits. -/
structure InstructionDef.Acceptable (instruction : InstructionDef) : Prop where
  accounts : ProperNames (instruction.accounts.map (·.name))
  arguments : ProperNames (instruction.arguments.map (·.name))
  flat : ∀ item ∈ instruction.accounts, item.isGroup = false
  discriminant : ∀ discriminant ∈ instruction.discriminant, discriminant.Fits

/-- What a document has to have to be loaded. -/
structure Acceptable (description : Description) : Prop where
  name : ∃ name, description.givenName = some name ∧ NodePath.ValidName name
  address : ∃ address, description.givenAddress = some address
  types : ProperNames (description.types.map (·.name))
  accounts : ProperNames (description.accounts.map (·.name))
  instructions : ProperNames (description.instructions.map (·.name))
  errors : ProperNames (description.errors.map (·.name))
  known : ∀ expr ∈ description.expressions, expr.Known
  layouts : ∀ account ∈ description.accounts, account.LaidOut description.types
  inputs : ∀ instruction ∈ description.instructions, instruction.Acceptable
  tags : ((description.instructions.filterMap (·.meantTag)).map (·.encoded)).Nodup
  links : ∀ expr ∈ description.expressions, ∀ name ∈ expr.names,
    name ∈ description.types.map (·.name)

/-! ## Conditions on the program, read back -/

section Reading

variable {description : Description}

/-- The accounts of the program have the names that are declared, -/
theorem accountNames_meaning (description : Description) :
    description.meaning.accounts.map (·.name) = description.accounts.map (·.name) :=
  List.map_map

/-- and so have its instructions, -/
theorem instructionNames_meaning (description : Description) :
    description.meaning.instructions.map (·.name) = description.instructions.map (·.name) :=
  List.map_map

/-- its types, -/
theorem typeNames_meaning (description : Description) :
    description.meaning.definedTypes.map (·.name) = description.types.map (·.name) :=
  List.map_map

/-- its errors, -/
theorem errorNames_meaning (description : Description) :
    description.meaning.errors.map (·.name) = description.errors.map (·.name) :=
  List.map_map

/-- the accounts of an instruction -/
theorem accountNames_instruction (instruction : InstructionDef) :
    instruction.meaning.accounts.map (·.name) = instruction.accounts.map (·.name) :=
  List.map_map

/-- and its arguments. -/
theorem argumentNames_instruction (instruction : InstructionDef) :
    instruction.meaning.arguments.map (·.name) = instruction.arguments.map (·.name) :=
  List.map_map

/-- The program defines the names of the definitions. -/
theorem defines_meaning_iff {name : String} :
    description.meaning.defines name = true ↔ name ∈ description.types.map (·.name) := by
  rw [← typeNames_meaning]
  exact isSome_find?_iff

/-- The layout of an account is its own or that of a definition. -/
theorem of_layoutIn {types : List TypeDef} {account : AccountDef} {layout : Layout}
    (h : account.layoutIn types = some layout) :
    account.layout = some layout ∨ ∃ definition ∈ types, definition.layout = layout := by
  unfold AccountDef.layoutIn at h
  cases hown : account.layout with
  | some own => rw [hown] at h; exact .inl h
  | none =>
      rw [hown] at h
      obtain ⟨definition, hfound, hlayout⟩ := Option.map_eq_some_iff.mp h
      exact .inr ⟨definition, List.mem_of_find?_eq_some hfound, hlayout⟩

/-- What holds of all type expressions of a document holds of the layout of every account, of
    every argument and of every definition. -/
theorem forall_expressions_iff {P : TypeExpr → Prop} :
    (∀ expr ∈ description.expressions, P expr) ↔
      (∀ account ∈ description.accounts, ∀ layout,
          account.layoutIn description.types = some layout → ∀ expr ∈ layout.types, P expr)
        ∧ (∀ instruction ∈ description.instructions, ∀ field ∈ instruction.arguments,
            P field.type)
        ∧ ∀ definition ∈ description.types, ∀ expr ∈ definition.layout.types, P expr := by
  unfold expressions
  simp only [List.forall_mem_append, List.forall_mem_flatMap, List.forall_mem_map, and_assoc]
  constructor
  · rintro ⟨haccounts, harguments, htypes⟩
    refine ⟨fun account hmem layout hlayout expr hexpr => ?_, harguments, htypes⟩
    rcases of_layoutIn hlayout with hown | ⟨definition, hdefinition, rfl⟩
    · exact haccounts account hmem expr (by rw [hown]; exact hexpr)
    · exact htypes definition hdefinition expr hexpr
  · rintro ⟨haccounts, harguments, htypes⟩
    refine ⟨fun account hmem expr hexpr => ?_, harguments, htypes⟩
    cases hown : account.layout with
    | none => rw [hown] at hexpr; exact nomatch hexpr
    | some layout =>
        rw [hown] at hexpr
        refine haccounts account hmem layout ?_ expr hexpr
        rw [AccountDef.layoutIn, hown]
        rfl

/-- The fields that an account means link to the names in the types of its layout. -/
theorem links_account {types : List TypeDef} {account : AccountDef} {fields : List Field}
    (h : account.layoutIn types = some (.struct fields)) :
    (account.meaning types).fields.flatMap (·.type.links)
      = (Layout.struct fields).types.flatMap (·.names) := by
  unfold AccountDef.meaning
  rw [h]
  exact links_fields fields

/-- What holds of the links of the program holds of the names in all type expressions. -/
theorem forall_links_iff {P : String → Prop}
    (hlayouts : ∀ account ∈ description.accounts, account.LaidOut description.types) :
    (∀ name ∈ description.meaning.links, P name)
      ↔ ∀ expr ∈ description.expressions, ∀ name ∈ expr.names, P name := by
  rw [forall_expressions_iff, Program.links, List.forall_mem_append, List.forall_mem_append,
    and_assoc]
  refine and_congr ?accounts (and_congr ?arguments ?types)
  case accounts =>
    show (∀ name ∈ (description.accounts.map _).flatMap _, _) ↔ _
    rw [List.flatMap_map, List.forall_mem_flatMap]
    refine forall₂_congr fun account hmem => ?_
    obtain ⟨fields, hlayout⟩ := hlayouts account hmem
    rw [links_account hlayout, List.forall_mem_flatMap]
    simp only [hlayout, Option.some.injEq, forall_eq']
  case arguments =>
    show (∀ name ∈ (description.instructions.map _).flatMap _, _) ↔ _
    rw [List.flatMap_map, List.forall_mem_flatMap]
    refine forall₂_congr fun instruction _ => ?_
    show (∀ name ∈ (instruction.arguments.map _).flatMap _, _) ↔ _
    rw [List.flatMap_map, List.forall_mem_flatMap]
    refine forall₂_congr fun field _ => ?_
    rw [show (Field.argument field).type.links = field.type.names from links_expr field.type]
  case types =>
    show (∀ name ∈ (description.types.map _).flatMap _, _) ↔ _
    rw [List.flatMap_map, List.forall_mem_flatMap]
    refine forall₂_congr fun definition _ => ?_
    rw [show (TypeDef.meaning definition).type.links = _ from links_layout definition.layout,
      List.forall_mem_flatMap]

/-- A tag that an instruction means stands at the start of its data. -/
theorem offset_of_meantTag {instruction : InstructionDef} {tag : Discriminator}
    (h : instruction.meantTag = some tag) : tag.offset = 0 := by
  unfold InstructionDef.meantTag at h
  cases hdiscriminant : instruction.discriminant with
  | some discriminant =>
      rw [hdiscriminant] at h
      obtain ⟨format, -, rfl⟩ := Option.map_eq_some_iff.mp h
      rfl
  | none =>
      rw [hdiscriminant] at h
      obtain ⟨raw, -, rfl⟩ := Option.map_eq_some_iff.mp h
      rfl

/-- Tags that all stand at the start differ as soon as their bytes do. -/
theorem nodup_keys_iff :
    ((description.meaning.instructions.filterMap (·.discriminator)).map (·.key)).Nodup
      ↔ ((description.instructions.filterMap (·.meantTag)).map (·.encoded)).Nodup := by
  have htags : description.meaning.instructions.filterMap (·.discriminator)
      = description.instructions.filterMap (·.meantTag) := by
    show (description.instructions.map _).filterMap _ = _
    rw [List.filterMap_map]
    rfl
  have hkeys : (description.instructions.filterMap (·.meantTag)).map (·.key)
      = ((description.instructions.filterMap (·.meantTag)).map (·.encoded)).map ((0, ·)) := by
    rw [List.map_map]
    refine List.map_congr_left fun tag hmem => ?_
    obtain ⟨instruction, -, htag⟩ := List.mem_filterMap.mp hmem
    exact Prod.ext (offset_of_meantTag htag) rfl
  rw [htags, hkeys]
  exact List.nodup_map_iff fun _ _ h => (Prod.mk.inj h).2

/-- The program that a document means passes when names are distinct in every scope of the
    document, tags differ in their bytes, and every name in a type is that of a definition. -/
theorem validate_meaning_iff
    (hlayouts : ∀ account ∈ description.accounts, account.LaidOut description.types) :
    description.meaning.validate = .ok () ↔
      (description.accounts.map (·.name)).Nodup
        ∧ (description.instructions.map (·.name)).Nodup
        ∧ (description.types.map (·.name)).Nodup
        ∧ (description.errors.map (·.name)).Nodup
        ∧ (∀ instruction ∈ description.instructions,
            (instruction.accounts.map (·.name)).Nodup ∧ (instruction.arguments.map (·.name)).Nodup)
        ∧ ((description.instructions.filterMap (·.meantTag)).map (·.encoded)).Nodup
        ∧ ∀ expr ∈ description.expressions, ∀ name ∈ expr.names,
            name ∈ description.types.map (·.name) := by
  have hinputs : ∀ instruction : InstructionDef, instruction.meaning.Distinct
      ↔ (instruction.accounts.map (·.name)).Nodup ∧ (instruction.arguments.map (·.name)).Nodup := by
    intro instruction
    rw [← accountNames_instruction, ← argumentNames_instruction]
    exact ⟨fun h => ⟨h.accounts, h.arguments⟩, fun h => ⟨h.1, h.2⟩⟩
  rw [validate_eq_ok, accountNames_meaning, instructionNames_meaning, typeNames_meaning,
    errorNames_meaning, nodup_keys_iff, forall_links_iff hlayouts]
  simp only [defines_meaning_iff]
  refine and_congr_right' (and_congr_right' (and_congr_right' (and_congr_right'
    (and_congr_left' ?_))))
  show (∀ instruction ∈ description.instructions.map _, _) ↔ _
  rw [List.forall_mem_map]
  exact forall₂_congr fun instruction _ => hinputs instruction

end Reading

/-! ## Converting a document -/

/-- Every declaration of a document is converted. -/
structure Convertible (description : Description) : Prop where
  types : ∀ definition ∈ description.types, NodePath.ValidName definition.name
    ∧ ∀ expr ∈ definition.layout.types, expr.Known
  accounts : ∀ account ∈ description.accounts, NodePath.ValidName account.name
    ∧ account.LaidOut description.types
    ∧ ∀ layout, account.layoutIn description.types = some layout →
        ∀ expr ∈ layout.types, expr.Known
  instructions : ∀ instruction ∈ description.instructions, NodePath.ValidName instruction.name
    ∧ (∀ item ∈ instruction.accounts, NodePath.ValidName item.name ∧ item.isGroup = false)
    ∧ (∀ field ∈ instruction.arguments, NodePath.ValidName field.name ∧ field.type.Known)
    ∧ ∀ discriminant ∈ instruction.discriminant, discriminant.Fits
  errors : ∀ error ∈ description.errors, NodePath.ValidName error.name

section Converting

variable {description : Description} {name address : String}

/-- A document with a name and an address is converted where the name is valid, its declarations
    are converted, and the program that it means passes. -/
theorem toProgram_gives_of (hname : description.givenName = some name)
    (haddress : description.givenAddress = some address) :
    Gives description.toProgram
      (NodePath.ValidName name ∧ description.Convertible ∧ description.meaning.validate = .ok ())
      description.meaning := by
  have hconvertible : (∀ definition ∈ description.types, _) ∧ (∀ account ∈ description.accounts, _)
      ∧ (∀ instruction ∈ description.instructions, _)
      ∧ (∀ error ∈ description.errors, _) ↔ description.Convertible :=
    ⟨fun ⟨types, accounts, instructions, errors⟩ => ⟨types, accounts, instructions, errors⟩,
      fun h => ⟨h.types, h.accounts, h.instructions, h.errors⟩⟩
  have htypes := Gives.mapM toDefinedType_gives description.types
  have haccounts := Gives.mapM (toAccount_gives description.types) description.accounts
  have hinstructions := Gives.mapM toInstruction_gives description.instructions
  have herrors := Gives.mapM toError_gives description.errors
  rw [← hconvertible]
  simp only [and_assoc]
  unfold meaning toProgram
  rw [hname, haddress]
  rw [givenName] at hname
  rw [givenAddress] at haddress
  simp only [hname, haddress]
  refine .check checkName_eq_ok (htypes.bind (haccounts.bind (hinstructions.bind
    (herrors.bind ?_))))
  exact (Gives.check Iff.rfl (.ok _)).congr (and_iff_left trivial)

/-- A document is acceptable when its declarations are converted and the program that it means
    passes. -/
theorem acceptable_of (hname : description.givenName = some name)
    (haddress : description.givenAddress = some address) (hvalid : NodePath.ValidName name)
    (h : description.Convertible) (hvalidate : description.meaning.validate = .ok ()) :
    description.Acceptable := by
  have hlayouts := fun account hmem => (h.accounts account hmem).2.1
  obtain ⟨ha, hi, ht, he, hin, htags, hlinks⟩ := (validate_meaning_iff hlayouts).mp hvalidate
  exact {
    name := ⟨name, hname, hvalid⟩
    address := ⟨address, haddress⟩
    types := ⟨ht, List.forall_mem_map.mpr fun d hmem => (h.types d hmem).1⟩
    accounts := ⟨ha, List.forall_mem_map.mpr fun a hmem => (h.accounts a hmem).1⟩
    instructions := ⟨hi, List.forall_mem_map.mpr fun i hmem => (h.instructions i hmem).1⟩
    errors := ⟨he, List.forall_mem_map.mpr h.errors⟩
    known := forall_expressions_iff.mpr ⟨fun a hmem => (h.accounts a hmem).2.2,
      fun i hmem field hfield => ((h.instructions i hmem).2.2.1 field hfield).2,
      fun d hmem => (h.types d hmem).2⟩
    layouts := hlayouts
    inputs := fun i hmem =>
      { accounts := ⟨(hin i hmem).1, List.forall_mem_map.mpr fun item hitem =>
          ((h.instructions i hmem).2.1 item hitem).1⟩
        arguments := ⟨(hin i hmem).2, List.forall_mem_map.mpr fun field hfield =>
          ((h.instructions i hmem).2.2.1 field hfield).1⟩
        flat := fun item hitem => ((h.instructions i hmem).2.1 item hitem).2
        discriminant := (h.instructions i hmem).2.2.2 }
    tags := htags
    links := hlinks }

/-- The declarations of an acceptable document are converted. -/
theorem Acceptable.convertible (h : description.Acceptable) : description.Convertible := by
  obtain ⟨haccounts, harguments, htypes⟩ := forall_expressions_iff.mp h.known
  refine ⟨fun d hmem => ⟨h.types.valid _ (List.mem_map_of_mem hmem), htypes d hmem⟩,
    fun a hmem => ⟨h.accounts.valid _ (List.mem_map_of_mem hmem), h.layouts a hmem,
      haccounts a hmem⟩, fun i hmem => ?_,
    fun e hmem => h.errors.valid _ (List.mem_map_of_mem hmem)⟩
  have hinputs := h.inputs i hmem
  refine ⟨h.instructions.valid _ (List.mem_map_of_mem hmem), fun item hitem => ?_,
    fun field hfield => ?_, hinputs.discriminant⟩
  · exact ⟨hinputs.accounts.valid _ (List.mem_map_of_mem hitem), hinputs.flat item hitem⟩
  · exact ⟨hinputs.arguments.valid _ (List.mem_map_of_mem hfield),
      harguments i hmem field hfield⟩

/-- The program that an acceptable document means passes. -/
theorem Acceptable.validate (h : description.Acceptable) :
    description.meaning.validate = .ok () :=
  (validate_meaning_iff h.layouts).mpr ⟨h.accounts.distinct, h.instructions.distinct,
    h.types.distinct, h.errors.distinct,
    fun i hmem => ⟨(h.inputs i hmem).accounts.distinct, (h.inputs i hmem).arguments.distinct⟩,
    h.tags, h.links⟩

end Converting

/-- **WHAT A DOCUMENT GIVES**: a document is converted exactly where it is acceptable, to the
    program that it means. -/
theorem toProgram_gives (description : Description) :
    Gives description.toProgram description.Acceptable description.meaning := by
  cases hname : description.givenName with
  | none =>
      have hfail : description.toProgram = .error .missingName := by
        unfold toProgram
        rw [givenName] at hname
        simp only [hname]
        rfl
      rw [hfail]
      refine .error fun h => ?_
      obtain ⟨name, h, -⟩ := h.name
      exact nomatch hname.symm.trans h
  | some name =>
      cases haddress : description.givenAddress with
      | none =>
          have hfail : description.toProgram = .error .missingAddress := by
            unfold toProgram
            rw [givenName] at hname
            rw [givenAddress] at haddress
            simp only [hname, haddress]
            rfl
          rw [hfail]
          refine .error fun h => ?_
          obtain ⟨address, h⟩ := h.address
          exact nomatch haddress.symm.trans h
      | some address =>
          refine (toProgram_gives_of hname haddress).congr ?_
          constructor
          · rintro ⟨hvalid, h, hvalidate⟩
            exact acceptable_of hname haddress hvalid h hvalidate
          · intro h
            obtain ⟨given, hgiven, hvalid⟩ := h.name
            rw [← Option.some.inj (hname.symm.trans hgiven)] at hvalid
            exact ⟨hvalid, h.convertible, h.validate⟩

end Description

end Bindery
