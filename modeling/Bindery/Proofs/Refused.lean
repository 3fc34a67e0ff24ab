import Bindery.Proofs.Bindings
import Bindery.Proofs.Identifiers
import Bindery.Proofs.Inline
import Bindery.Proofs.TypeLinks.Places
import Bindery.Proofs.Words

/-! # Refused enums — what has no source in a tree as it is loaded

    A tree that is loaded has no recipes and no defaults, and its structs and enums
    are at the top of defined types.  All that a target can refuse there is an enum
    that says a discriminant: the package refuses those with data, the crate also
    those with a tag of more than a byte (`Package.Refuses`, `Crate.Refuses`).

    The argument is one for both targets.  A target refuses just some enums where it
    has a module for everything else that can be loaded (`Modules.RefusesJust`); the
    files of a loaded tree then fail exactly when one of its enums is refused, and
    with the failure of such an enum (`Modules.RefusesJust.failsBy`).  With default
    options nothing else of rendering can fail (`load_failsBy`). -/

namespace Bindery

variable {M α β : Type} {tree : Tree} {Refused : List EnumVariant → Prop}

/-- Variants that the package has no source for: some have data, and some say a discriminant. -/
def Package.Refuses (variants : List EnumVariant) : Prop :=
  (∃ variant ∈ variants, variant.fields.isSome = true)
    ∧ ∃ variant ∈ variants, variant.discriminant.isSome = true

/-- Variants that the crate has no source for: some say a discriminant, and some have data or a
    tag of more than a byte. -/
def Crate.Refuses (variants : List EnumVariant) : Prop :=
  (∃ variant ∈ variants, variant.discriminant.isSome = true)
    ∧ ((∃ variant ∈ variants, variant.fields.isSome = true)
      ∨ ∃ (position : Nat) (variant : EnumVariant),
          variants[position]? = some variant ∧ 255 < variant.tag position)

/-- A defined type of a program of a tree that is an enum of some variants. -/
def Tree.HasEnum (tree : Tree) (defined : DefinedType) (variants : List EnumVariant) : Prop :=
  defined.type = .enum variants ∧ ∃ program ∈ tree.programs, defined ∈ program.definedTypes

/-- A failure that says that the kind of a defined type has no source. -/
def DefinedType.SaysUnsupported (defined : DefinedType) (e : RenderError) : Prop :=
  ∃ cause : Unsupported, e = .unsupported s!"types/{defined.name}" cause
    ∧ cause.kind = defined.type.kind

/-- A result that fails by the enums of a tree that are refused: it fails exactly when there is
    one, and says so of one of them. -/
structure FailsBy (result : Except RenderError α) (tree : Tree)
    (Refused : List EnumVariant → Prop) : Prop where
  exact : (∃ e, result = .error e)
    ↔ ∃ defined variants, tree.HasEnum defined variants ∧ Refused variants
  cause : ∀ e, result = .error e →
    ∃ defined variants, tree.HasEnum defined variants ∧ Refused variants
      ∧ defined.SaysUnsupported e

/-- Results with the same failures fail by the same enums. -/
theorem FailsBy.congr {result : Except RenderError α} {result' : Except RenderError β}
    (h : FailsBy result tree Refused) (hsame : ∀ e, result' = .error e ↔ result = .error e) :
    FailsBy result' tree Refused :=
  ⟨(exists_congr hsame).trans h.exact, fun e he => h.cause e ((hsame e).mp he)⟩

/-! ## Targets that refuse just some enums -/

/-- A target that refuses just some enums: it has a module for every account with inline fields
    and no recipe, for every instruction with inline arguments and no defaults, for the errors of
    every program of a simple name, and for every struct with inline fields.  An enum with inline
    data has none exactly when it is refused. -/
structure Modules.RefusesJust (target : Modules M) (Refused : List EnumVariant → Prop) :
    Prop where
  account : ∀ program account, InlineFields account.fields → account.seeds = none →
    ∃ module, target.account program account = .ok module
  instruction : ∀ program instruction,
    (∀ argument ∈ instruction.arguments, argument.type.isInline = true) →
      instruction.defaults = [] → ∃ module, target.instruction program instruction = .ok module
  errors : ∀ program, Text.Simple program.name → ∃ module, target.errors program = .ok module
  struct : ∀ scope defined fields, defined.type = .struct fields → InlineFields fields →
    ∃ module, target.definedType scope defined = .ok module
  refused : ∀ scope defined variants, defined.type = .enum variants → InlineData variants →
    Refused variants → ∃ e, target.definedType scope defined = .error e
  cause : ∀ scope defined variants, defined.type = .enum variants → InlineData variants →
    ∀ e, target.definedType scope defined = .error e →
      Refused variants ∧ defined.SaysUnsupported e

/-- Without shared types a place has the types of its program. -/
theorem Tree.typesOf_of_sharedTypes (h : tree.sharedTypes = []) (program : Program) :
    tree.typesOf program = program.definedTypes := by
  unfold Tree.typesOf
  rw [h, List.filter_nil, List.append_nil, ite_self]

/-- A declaration that has no module is of an enum that is refused. -/
theorem Modules.RefusesJust.cause_of_layout {target : Modules M}
    (hjust : target.RefusesJust Refused) {scope : Option Program} {defined : DefinedType}
    (hlayout : defined.type.IsLayout) {e : RenderError}
    (he : target.definedType scope defined = .error e) :
    ∃ variants, defined.type = .enum variants ∧ Refused variants ∧ defined.SaysUnsupported e := by
  cases htype : defined.type with
  | struct fields =>
      rw [htype] at hlayout
      obtain ⟨module, hmodule⟩ := hjust.struct scope defined fields htype hlayout
      exact absurd (hmodule.symm.trans he) nofun
  | enum variants =>
      rw [htype] at hlayout
      exact ⟨variants, rfl, hjust.cause scope defined variants htype hlayout e he⟩
  | _ => rw [htype] at hlayout; exact hlayout.elim

section Loaded

variable {target : Modules M} {documents : List Document}

/-- In a loaded tree a site that has no module is such an enum. -/
theorem Modules.RefusesJust.cause_of_site (hjust : target.RefusesJust Refused)
    (hload : Tree.load documents = .ok tree) {site : Site} (hsite : tree.Renders site)
    {e : RenderError} (he : target.build site = .error e) :
    ∃ defined variants, tree.HasEnum defined variants ∧ Refused variants
      ∧ defined.SaysUnsupported e := by
  obtain ⟨hloaded, hshared⟩ := load_eq_ok hload
  cases site with
  | account program account =>
      obtain ⟨hp, hmem⟩ := hsite
      have hfresh := (hloaded.members program hp).2.2.recipes account hmem
      have hfields := (load_flat hload program hp).accounts account hmem
      obtain ⟨module, hmodule⟩ := hjust.account program account hfields hfresh
      exact absurd (hmodule.symm.trans he) nofun
  | instruction program instruction =>
      obtain ⟨hp, hmem⟩ := hsite
      have hfresh := (hloaded.members program hp).2.2.defaults instruction hmem
      have harguments := (load_flat hload program hp).arguments instruction hmem
      obtain ⟨module, hmodule⟩ := hjust.instruction program instruction harguments hfresh
      exact absurd (hmodule.symm.trans he) nofun
  | definedType scope defined =>
      obtain ⟨hplace, hmem⟩ := hsite
      cases scope with
      | none =>
          have hnone : defined ∈ tree.sharedTypes := hmem
          rw [hshared] at hnone
          exact absurd hnone List.not_mem_nil
      | some program =>
          have hown : defined ∈ program.definedTypes :=
            Tree.typesOf_of_sharedTypes hshared program ▸ hmem
          obtain ⟨variants, htype, hrefused⟩ := hjust.cause_of_layout
            ((load_flat hload program hplace).definedTypes defined hown) he
          exact ⟨defined, variants, ⟨htype, program, hplace, hown⟩, hrefused⟩

/-- Where an enum is refused, its file fails. -/
theorem Modules.RefusesJust.fails_of_refused (hjust : target.RefusesJust Refused)
    (hr : target.Regular) (hload : Tree.load documents = .ok tree) {defined : DefinedType}
    {variants : List EnumVariant} (henum : tree.HasEnum defined variants)
    (hrefused : Refused variants) : ∃ e, target.files tree = .error e := by
  obtain ⟨htype, program, hp, hmem⟩ := henum
  have hlayout := (load_flat hload program hp).definedTypes defined hmem
  rw [htype] at hlayout
  obtain ⟨e, he⟩ := hjust.refused (some program) defined variants htype hlayout hrefused
  have hplace : tree.HasPlace (some program) := hp
  have hplaced : defined ∈ tree.typesAt (some program) := by
    show defined ∈ tree.typesOf program
    rwa [Tree.typesOf_of_sharedTypes (load_eq_ok hload).2 program]
  exact (files_fail_iff hr).mpr ⟨e, _, mem_plan_type hplace hplaced, he⟩

/-- **FAILURES OF A LOADED TREE**: its files fail by the enums that are refused. -/
theorem Modules.RefusesJust.failsBy (hjust : target.RefusesJust Refused) (hr : target.Regular)
    (hload : Tree.load documents = .ok tree)
    (hnames : ∀ program ∈ tree.programs, Text.Simple program.name) :
    FailsBy (target.files tree) tree Refused := by
  have hcause : ∀ e, target.files tree = .error e → ∃ defined variants,
      tree.HasEnum defined variants ∧ Refused variants ∧ defined.SaysUnsupported e := by
    intro e he
    rcases exists_site_of_files_eq_error he with ⟨site, hsite, he⟩ | ⟨program, hp, he⟩
    · exact hjust.cause_of_site hload hsite he
    · -- the errors of every program have a module
      obtain ⟨module, hmodule⟩ := hjust.errors program (hnames program hp)
      exact absurd (hmodule.symm.trans he) nofun
  refine ⟨⟨fun ⟨e, he⟩ => ?_, ?_⟩, hcause⟩
  · obtain ⟨defined, variants, henum, hrefused, -⟩ := hcause e he
    exact ⟨defined, variants, henum, hrefused⟩
  · rintro ⟨defined, variants, henum, hrefused⟩
    exact hjust.fails_of_refused hr hload henum hrefused

end Loaded

/-- Without defaults nothing is worked out, so that all inputs are bound. -/
theorem exists_bindings {instruction : Instruction} (h : instruction.defaults = [])
    (program : Program) (context : String) :
    ∃ bound, bindings program (Signature.of instruction) context = .ok bound := by
  have hnone : (Signature.of instruction).defaulted = [] := by
    obtain ⟨haccounts, harguments⟩ := List.append_eq_nil_iff.mp h
    refine List.eq_nil_iff_forall_not_mem.mpr fun given hgiven => ?_
    have hsome := Signature.isSome_default hgiven
    obtain ⟨⟨demand, found⟩, hfound, rfl⟩ := List.mem_map.mp hgiven
    rcases List.mem_append.mp (List.mem_filter.mp hfound).1 with hmem | hmem
    · obtain ⟨account, haccount, heq⟩ := List.mem_map.mp hmem
      obtain ⟨-, rfl⟩ := Prod.mk.inj heq
      rw [List.filterMap_eq_nil_iff.mp haccounts account haccount] at hsome
      exact nomatch hsome
    · obtain ⟨argument, hargument, heq⟩ := List.mem_map.mp hmem
      obtain ⟨-, rfl⟩ := Prod.mk.inj heq
      rw [List.filterMap_eq_nil_iff.mp harguments argument hargument] at hsome
      exact nomatch hsome
  have horder : resolutionOrder (Signature.of instruction) context = .ok [] := by
    rw [resolutionOrder, hnone, orderFrom]
    rfl
  refine ⟨_, bind_eq_ok.mpr ⟨[], ?_, rfl⟩⟩
  exact bind_eq_ok.mpr ⟨[], horder, rfl⟩

/-! ## The crate -/

namespace Crate

/-- A simple name is an identifier. -/
theorem isIdentifier_of_simple {name : String} (h : Text.Simple name) :
    isIdentifier name = true := by
  have hkept : Kept name := fun c hc =>
    (Bool.or_eq_true _ _).mpr ((h.characters c hc).imp_right decide_eq_true)
  refine hkept.isIdentifier ?_
  obtain ⟨c, hhead, hletter⟩ := (Option.any_eq_true _ _).mp h.starts
  rw [hhead, Option.any_some, Text.isAsciiDigit_of_isAsciiLetter hletter]
  rfl

/-- A program of a simple name has a module for its errors. -/
theorem exists_ofErrors {program : Program} (h : Text.Simple program.name) :
    ∃ module, Module.ofErrors program = .ok module := by
  have hsimple := Text.simple_upperCamelCase h
  have hname : Text.Simple (Text.upperCamelCase program.name ++ "Error") := by
    have herror : Text.Simple "Error" := by decide
    constructor
    · obtain ⟨c, hhead, hletter⟩ := (Option.any_eq_true _ _).mp hsimple.starts
      obtain ⟨cs, hcs⟩ := List.head?_eq_some_iff.mp hhead
      rw [String.toList_append, hcs]
      exact hletter
    · rw [String.toList_append]
      exact List.forall_mem_append.mpr ⟨hsimple.characters, herror.characters⟩
  rw [Module.ofErrors, if_pos (isIdentifier_of_simple hname)]
  exact ⟨_, rfl⟩

variable {scope : Scope} {context : String}

/-- A variant with inline fields fails only without data, for a tag of more than a byte. -/
theorem VariantBody.of_eq_error {explicit : Bool} {position : Nat} {variant : EnumVariant}
    {e : RenderError} (hdata : ∀ fields ∈ variant.fields, InlineFields fields) :
    VariantBody.of scope context explicit position variant = .error e
      ↔ variant.fields = none ∧ explicit = true ∧ 255 < variant.tag position
        ∧ .unsupported context (.wideDiscriminant variant.name) = e := by
  have hbyte : ¬ variant.tag position < 256 ↔ 255 < variant.tag position := by
    rw [UInt64.lt_iff_toNat_lt, UInt64.lt_iff_toNat_lt]
    show ¬ (variant.tag position).toNat < 256 ↔ 255 < (variant.tag position).toNat
    omega
  unfold VariantBody.of
  cases hfields : variant.fields with
  | some fields =>
      obtain ⟨found, hfound⟩ := exists_fieldsOf (hdata fields hfields) scope
        s!"{context}/{variant.name}"
      simp only [hfound]
      exact ⟨fun h => (nomatch h), fun h => (nomatch h.1)⟩
  | none =>
      cases explicit with
      | false => exact ⟨fun h => (nomatch h), fun h => (nomatch h.2.1)⟩
      | true =>
          dsimp only
          rw [if_pos rfl]
          by_cases hwide : variant.tag position < 256
          · rw [if_pos hwide]
            exact ⟨fun h => (nomatch h), fun h => absurd hwide (hbyte.mpr h.2.2.1)⟩
          · rw [if_neg hwide]
            exact ⟨fun h => ⟨rfl, rfl, hbyte.mp hwide, Except.error.inj h⟩,
              fun h => congrArg _ h.2.2.2⟩

/-- What is known of variants that cannot be built: they are refused, and the failure says so. -/
theorem Shape.ofVariants_eq_error {variants : List EnumVariant} {e : RenderError}
    (hdata : InlineData variants) (h : ofVariants scope context variants = .error e) :
    Refuses variants
      ∧ ∃ cause : Unsupported, e = .unsupported context cause ∧ cause.kind = "enum" := by
  rcases unless_eq_error.mp h with ⟨⟨hexplicit, hany⟩, rfl⟩ | ⟨-, h⟩
  · exact ⟨⟨List.any_eq_true.mp hexplicit, .inl (List.any_eq_true.mp hany)⟩, _, rfl, rfl⟩
  · obtain ⟨⟨variant, position⟩, hmem, h⟩ := exists_of_mapM_eq_error (return_eq_error.mp h)
    have hat := List.mem_zipIdx_iff_getElem?.mp hmem
    obtain ⟨-, hexplicit, hwide, rfl⟩ :=
      (VariantBody.of_eq_error (hdata variant (List.mem_of_getElem? hat))).mp
        (return_eq_error.mp h)
    have hexplicit := List.any_eq_true.mp hexplicit
    exact ⟨⟨hexplicit, .inr ⟨position, variant, hat, hwide⟩⟩, _, rfl, rfl⟩

/-- Variants that are refused cannot be built. -/
theorem Shape.exists_error {variants : List EnumVariant} (h : Refuses variants)
    (scope : Scope) (context : String) : ∃ e, ofVariants scope context variants = .error e := by
  obtain ⟨hexplicit, hcause⟩ := h
  have hexplicit : hasDiscriminant variants = true := List.any_eq_true.mpr hexplicit
  cases hbuilt : ofVariants scope context variants with
  | error e => exact ⟨e, rfl⟩
  | ok shape =>
      exfalso
      obtain ⟨hnone, hbuilt⟩ := unless_eq_ok.mp hbuilt
      have hnoData : ¬ hasData variants = true := fun hany => hnone ⟨hexplicit, hany⟩
      rcases hcause with hany | ⟨position, variant, hat, hwide⟩
      · exact hnoData (List.any_eq_true.mpr hany)
      · obtain ⟨bodies, hbodies, -⟩ := bind_eq_ok.mp hbuilt
        obtain ⟨built, -, hbody⟩ := exists_of_forall₂_left (forall₂_of_mapM_eq_ok hbodies)
          ((List.mem_zipIdx_iff_getElem? (x := (variant, position))).mpr hat)
        obtain ⟨body, hbody, -⟩ := bind_eq_ok.mp hbody
        have hfields : variant.fields = none := by
          refine Option.not_isSome_iff_eq_none.mp fun hsome => hnoData ?_
          exact List.any_eq_true.mpr ⟨variant, List.mem_of_getElem? hat, hsome⟩
        have hfails : VariantBody.of scope context (hasDiscriminant variants) position variant
            = .error (.unsupported context (.wideDiscriminant variant.name)) :=
          (VariantBody.of_eq_error fun fields hmem => nomatch hfields.symm.trans hmem).mpr
            ⟨hfields, hexplicit, hwide, rfl⟩
        exact nomatch hbody.symm.trans hfails

/-- The module of an account with inline fields and no recipe. -/
theorem AccountModule.exists_of {account : Account} (hfields : InlineFields account.fields)
    (hseeds : account.seeds = none) (scope : Scope) :
    ∃ module, AccountModule.of scope account = .ok module := by
  obtain ⟨fields, hfound⟩ := exists_fieldsOf hfields scope s!"accounts/{account.name}"
  refine ⟨_, bind_eq_ok.mpr ⟨fields, hfound, bind_eq_ok.mpr ⟨none, ?_, rfl⟩⟩⟩
  rw [hseeds]
  rfl

/-- The module of an instruction with inline arguments and no defaults. -/
theorem InstructionModule.exists_of {instruction : Instruction}
    (harguments : ∀ argument ∈ instruction.arguments, argument.type.isInline = true)
    (hdefaults : instruction.defaults = []) (nested : Bool) (program : Program) :
    ∃ module, InstructionModule.of nested program instruction = .ok module := by
  let context := s!"instructions/{instruction.name}"
  have htypes := exists_mapM_eq_ok fun argument hmem =>
    (CrateType.exists_of_iff ⟨nested, some program⟩
      s!"{context}/arguments/{argument.name}" argument.type).mpr (harguments argument hmem)
  obtain ⟨types, htypes⟩ := htypes
  obtain ⟨bound, hbound⟩ := exists_bindings hdefaults program context
  exact ⟨_, bind_eq_ok.mpr ⟨types, htypes, bind_eq_ok.mpr ⟨bound, hbound, rfl⟩⟩⟩

/-- A module of a defined type fails with its shape. -/
theorem definedType_eq_error {nested : Bool} {scope : Option Program} {defined : DefinedType}
    {e : RenderError} : (modules nested).definedType scope defined = .error e
      ↔ Shape.of ⟨nested, scope⟩ s!"types/{defined.name}" defined.type = .error e :=
  return_eq_error.trans return_eq_error

/-- **WHAT THE CRATE REFUSES**: just the enums that say a discriminant and have data or a tag of
    more than a byte. -/
theorem modules_refusesJust (nested : Bool) : (modules nested).RefusesJust Refuses where
  account program account hfields hseeds :=
    exists_return_eq_ok_iff.mpr (AccountModule.exists_of hfields hseeds _)
  instruction program instruction harguments hdefaults :=
    exists_return_eq_ok_iff.mpr (InstructionModule.exists_of harguments hdefaults _ _)
  errors program hname := by
    simp only [modules]
    exact exists_ofErrors hname
  struct scope defined fields htype hfields := by
    refine exists_return_eq_ok_iff.mpr (exists_return_eq_ok_iff.mpr ?_)
    rw [htype]
    exact exists_return_eq_ok_iff.mpr (exists_fieldsOf hfields _ _)
  refused scope defined variants htype _ hrefused := by
    obtain ⟨e, he⟩ := Shape.exists_error hrefused ⟨nested, scope⟩ s!"types/{defined.name}"
    refine ⟨e, definedType_eq_error.mpr ?_⟩
    rw [htype]
    exact he
  cause scope defined variants htype hdata e he := by
    have h := definedType_eq_error.mp he
    rw [htype] at h
    rw [DefinedType.SaysUnsupported, htype]
    exact Shape.ofVariants_eq_error hdata h

end Crate

/-! ## The package -/

namespace Package

variable {scope : Scope} {context : String}

/-- A variant with inline fields is built, with data and without. -/
theorem exists_variant {variant : EnumVariant}
    (hdata : ∀ fields ∈ variant.fields, InlineFields fields) (scope : Scope) (context : String) :
    ∃ found, (variant.fields.mapM fun fields =>
      fieldsOf scope context s!"{context}/{variant.name}" fields) = .ok found := by
  cases hfields : variant.fields with
  | none => exact ⟨none, rfl⟩
  | some fields =>
      obtain ⟨found, hfound⟩ := exists_fieldsOf (hdata fields hfields) scope context
        s!"{context}/{variant.name}"
      exact ⟨some found, bind_eq_ok.mpr ⟨found, hfound, rfl⟩⟩

/-- Variants are refused where not all are plain and one says a discriminant. -/
theorem refuses_iff {variants : List EnumVariant} : Refuses variants
    ↔ ¬ variants.all (·.fields.isNone) = true
      ∧ variants.any (·.discriminant.isSome) = true := by
  rw [List.any_eq_true, List.all_eq_true]
  refine and_congr_left' ⟨?_, fun hany => ?_⟩
  · rintro ⟨variant, hmem, hsome⟩ hplain
    rw [Option.isNone_iff_eq_none.mp (hplain variant hmem)] at hsome
    exact nomatch hsome
  · obtain ⟨variant, hvariant⟩ := not_forall.mp hany
    obtain ⟨hmem, hsome⟩ := Classical.not_imp.mp hvariant
    refine ⟨variant, hmem, Option.isSome_iff_ne_none.mpr fun hnone => hsome ?_⟩
    exact Option.isNone_iff_eq_none.mpr hnone

/-- Variants with inline data cannot be built exactly when they are refused, and that is what the
    failure says. -/
theorem Shape.ofVariants_eq_error {variants : List EnumVariant} {e : RenderError}
    (hdata : InlineData variants) : ofVariants scope context variants = .error e
      ↔ Refuses variants ∧ .unsupported context .discriminantBesideData = e := by
  rw [refuses_iff]
  unfold ofVariants
  by_cases hplain : variants.all (·.fields.isNone) = true
  · rw [if_pos hplain]
    exact ⟨fun h => (nomatch h), fun h => absurd hplain h.1.1⟩
  · rw [if_neg hplain]
    refine unless_eq_error.trans ⟨?_, fun ⟨⟨_, hexplicit⟩, he⟩ => .inl ⟨hexplicit, he⟩⟩
    rintro (⟨hexplicit, he⟩ | ⟨-, h⟩)
    · exact ⟨⟨hplain, hexplicit⟩, he⟩
    · exfalso
      obtain ⟨variant, hmem, h⟩ := exists_of_mapM_eq_error (return_eq_error.mp h)
      obtain ⟨found, hfound⟩ := exists_variant (hdata variant hmem) scope context
      exact nomatch hfound.symm.trans (return_eq_error.mp h)

/-- The module of an account with inline fields and no recipe. -/
theorem AccountModule.exists_of {account : Account} (hfields : InlineFields account.fields)
    (hseeds : account.seeds = none) (nested : Bool) (program : Program) :
    ∃ module, AccountModule.of nested program account = .ok module := by
  obtain ⟨fields, hfound⟩ := exists_fieldsOf hfields ⟨nested, some program⟩
    s!"accounts/{account.name}" s!"accounts/{account.name}"
  refine ⟨_, bind_eq_ok.mpr ⟨fields, hfound, bind_eq_ok.mpr ⟨none, ?_, rfl⟩⟩⟩
  rw [hseeds]
  rfl

/-- The module of an instruction with inline arguments and no defaults. -/
theorem InstructionModule.exists_of {instruction : Instruction}
    (harguments : ∀ argument ∈ instruction.arguments, argument.type.isInline = true)
    (hdefaults : instruction.defaults = []) (nested : Bool) (program : Program) :
    ∃ module, InstructionModule.of nested program instruction = .ok module := by
  let context := s!"instructions/{instruction.name}"
  have hfields := exists_mapM_eq_ok fun argument hmem =>
    Field.exists_of (harguments argument hmem) ⟨nested, some program⟩
      s!"{context}/arguments" context argument.docs argument.name
  obtain ⟨fields, hfields⟩ := hfields
  obtain ⟨bound, hbound⟩ := exists_bindings hdefaults program context
  exact ⟨_, bind_eq_ok.mpr ⟨fields, hfields, bind_eq_ok.mpr ⟨bound, hbound, rfl⟩⟩⟩

/-- A module of a defined type fails with its shape. -/
theorem definedType_eq_error {nested : Bool} {scope : Option Program} {defined : DefinedType}
    {e : RenderError} : (modules nested).definedType scope defined = .error e
      ↔ Shape.of ⟨nested, scope⟩ s!"types/{defined.name}" defined.type = .error e :=
  return_eq_error.trans return_eq_error

/-- **WHAT THE PACKAGE REFUSES**: just the enums that have data and say a discriminant. -/
theorem modules_refusesJust (nested : Bool) : (modules nested).RefusesJust Refuses where
  account program account hfields hseeds :=
    exists_return_eq_ok_iff.mpr (AccountModule.exists_of hfields hseeds _ _)
  instruction program instruction harguments hdefaults :=
    exists_return_eq_ok_iff.mpr (InstructionModule.exists_of harguments hdefaults _ _)
  errors program _ := ⟨.errors (ErrorsModule.of program), rfl⟩
  struct scope defined fields htype hfields := by
    refine exists_return_eq_ok_iff.mpr (exists_return_eq_ok_iff.mpr ?_)
    rw [htype]
    exact exists_return_eq_ok_iff.mpr (exists_fieldsOf hfields _ _ _)
  refused scope defined variants htype hdata hrefused := by
    refine ⟨.unsupported s!"types/{defined.name}" .discriminantBesideData,
      definedType_eq_error.mpr ?_⟩
    rw [htype]
    exact (Shape.ofVariants_eq_error hdata).mpr ⟨hrefused, rfl⟩
  cause scope defined variants htype hdata e he := by
    have h := definedType_eq_error.mp he
    rw [htype] at h
    rw [DefinedType.SaysUnsupported, htype]
    obtain ⟨hrefused, rfl⟩ := (Shape.ofVariants_eq_error hdata).mp h
    exact ⟨hrefused, _, rfl, rfl⟩

end Package

/-! ## Rendering -/

/-- Without settings and without formatting the crate fails with its files. -/
theorem Crate.render_eq_error {e : RenderError} :
    Crate.render tree ⟨false, SortedMap.empty⟩ = .error e ↔ Crate.files tree = .error e :=
  return_eq_error

/-- Without settings the package fails with its files. -/
theorem Package.render_eq_error {formatCode : Bool} {e : RenderError} :
    Package.render tree ⟨formatCode, SortedMap.empty⟩ = .error e ↔ Package.files tree = .error e :=
  return_eq_error

/-- **THE ONLY SHAPES WITHOUT SOURCE**: a tree as it is loaded, with simple names, cannot be
    rendered as a package exactly when an enum has data and says a discriminant, and as a crate
    exactly when one says a discriminant and has data or a tag of more than a byte.  Either
    failure is that of such an enum. -/
theorem load_failsBy {documents : List Document} {tree : Tree}
    (hload : Tree.load documents = .ok tree)
    (hnames : ∀ program ∈ tree.programs, Text.Simple program.name) :
    (∀ formatCode, FailsBy (Package.render tree ⟨formatCode, SortedMap.empty⟩) tree
        Package.Refuses)
      ∧ FailsBy (Crate.render tree ⟨false, SortedMap.empty⟩) tree Crate.Refuses := by
  refine ⟨fun formatCode => ?_, ?_⟩
  · refine FailsBy.congr ?_ fun e => Package.render_eq_error
    exact (Package.modules_refusesJust _).failsBy (Package.modules_regular _) hload hnames
  · refine FailsBy.congr ?_ fun e => Crate.render_eq_error
    exact (Crate.modules_refusesJust _).failsBy (Crate.modules_regular _) hload hnames

/-- An interface with an enum whose second discriminant takes two bytes. -/
def tariff : Document where
  label := "bank"
  text := String.join [
    "\x7b\"name\":\"bank\",\"address\":\"B\",",
    "\"types\":[\x7b\"name\":\"Rate\",\"type\":\x7b\"kind\":\"enum\",\"variants\":[",
    "\x7b\"name\":\"Low\",\"discriminant\":1\x7d,",
    "\x7b\"name\":\"High\",\"discriminant\":256\x7d]\x7d\x7d],",
    "\"instructions\":[]\x7d"]

/-- The variants of that enum. -/
def rates : List EnumVariant := [⟨"Low", some 1, none⟩, ⟨"High", some 256, none⟩]

/-- The tree of that interface. -/
def tariffTree : Tree where
  programs := [
    { name := "bank", publicKey := "B", version := "", docs := []
      accounts := [], instructions := []
      definedTypes := [⟨"Rate", .enum rates, []⟩]
      errors := [] }]
  sharedTypes := []

/-- The interface loads. -/
theorem load_tariff : Tree.load [tariff] = .ok tariffTree := by
  refine load_singleton ?_
  rw [documentProgram_eq String.toList_join]
  decide +kernel

/-- The enum is its only one. -/
theorem hasEnum_tariffTree {defined : DefinedType} {variants : List EnumVariant} :
    tariffTree.HasEnum defined variants
      ↔ defined = ⟨"Rate", .enum rates, []⟩ ∧ variants = rates := by
  constructor
  · rintro ⟨htype, program, hp, hmem⟩
    rw [List.mem_singleton.mp hp] at hmem
    rw [List.mem_singleton.mp hmem] at htype ⊢
    exact ⟨rfl, (TypeNode.enum.inj htype).symm⟩
  · rintro ⟨rfl, rfl⟩
    exact ⟨rfl, _, List.mem_cons_self, List.mem_cons_self⟩

theorem load_failsBy_tariff :
    Tree.load [tariff] = .ok tariffTree
      ∧ (∃ artifacts, Package.render tariffTree ⟨true, SortedMap.empty⟩ = .ok artifacts)
      ∧ ∃ cause, Crate.render tariffTree ⟨false, SortedMap.empty⟩
          = .error (.unsupported "types/Rate" cause) ∧ cause.kind = "enum" := by
  have hnames : ∀ program ∈ tariffTree.programs, Text.Simple program.name := by decide
  have hplain : ∀ variant ∈ rates, ¬ variant.fields.isSome = true := by decide
  obtain ⟨hpackage, hcrate⟩ := load_failsBy load_tariff hnames
  refine ⟨load_tariff, ?_, ?_⟩
  · cases hrender : Package.render tariffTree ⟨true, SortedMap.empty⟩ with
    | ok artifacts => exact ⟨artifacts, rfl⟩
    | error e =>
        obtain ⟨defined, variants, henum, ⟨variant, hmem, hdata⟩, -⟩ :=
          (hpackage true).exact.mp ⟨e, hrender⟩
        obtain ⟨-, rfl⟩ := hasEnum_tariffTree.mp henum
        exact absurd hdata (hplain variant hmem)
  · have hrefused : Crate.Refuses rates :=
      ⟨⟨_, List.mem_cons_self, rfl⟩, .inr ⟨1, ⟨"High", some 256, none⟩, rfl, by decide⟩⟩
    obtain ⟨e, he⟩ := hcrate.exact.mpr ⟨_, _, hasEnum_tariffTree.mpr ⟨rfl, rfl⟩, hrefused⟩
    obtain ⟨defined, variants, henum, -, cause, rfl, hkind⟩ := hcrate.cause e he
    obtain ⟨rfl, -⟩ := hasEnum_tariffTree.mp henum
    exact ⟨cause, he, hkind⟩

end Bindery
