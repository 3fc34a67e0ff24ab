import Bindery.Proofs.Loading
import Bindery.Proofs.TypeLinks.Places
import Bindery.Proofs.Vocabulary.Printed

/-! # Identifiers of rendered trees — where rendering stops at one

    What nodes become is built with accepted identifiers, or refused (`Yields`).
    There is one exception: the type of the errors of a program is named after the
    program as it is, so that the name can be none.  Rendering without formatting
    stops at an identifier if and only if such a module is the first that cannot be
    built, and what is rendered holds no identifier but accepted ones
    (`Crate.render_identifiers`). -/

namespace Bindery

namespace Crate

/-! ## What nodes become -/

/-- A result that has a property, or the refusal of something that a target has no form for. -/
inductive Yields {α : Type} (P : α → Prop) : Except RenderError α → Prop
  | ok {a : α} (h : P a) : Yields P (.ok a)
  | unsupported (context : String) (cause : Unsupported) :
      Yields P (.error (.unsupported context cause))

namespace Yields

variable {α β : Type} {P : α → Prop} {Q : β → Prop} {x : Except RenderError α}

/-- A chain yields what its rest does. -/
theorem bind {f : α → Except RenderError β} (hx : Yields P x) (hf : ∀ a, P a → Yields Q (f a)) :
    Yields Q (x >>= f) := by
  cases hx with
  | ok h => exact hf _ h
  | unsupported context cause => exact .unsupported context cause

/-- What is made of a result. -/
theorem return_of {f : α → β} (hx : Yields P x) (hf : ∀ a, P a → Q (f a)) :
    Yields Q (x >>= fun a => pure (f a)) :=
  hx.bind fun a ha => .ok (hf a ha)

/-- A list is mapped to what its items yield. -/
theorem mapM {f : β → Except RenderError α} : ∀ {bs : List β}, (∀ b ∈ bs, Yields P (f b)) →
    Yields (fun as => ∀ a ∈ as, P a) (bs.mapM f) := by
  intro bs
  induction bs with
  | nil => exact fun _ => .ok fun _ h => nomatch h
  | cons b bs ih =>
      intro h
      obtain ⟨hb, hbs⟩ := List.forall_mem_cons.mp h
      rw [List.mapM_cons]
      exact hb.bind fun a ha => (ih hbs).return_of fun as has => List.forall_mem_cons.mpr ⟨ha, has⟩

/-- Whatever it yields, a result is one or a refusal. -/
theorem weaken (hx : Yields P x) : Yields (fun _ => True) x := by
  cases hx with
  | ok _ => exact .ok trivial
  | unsupported context cause => exact .unsupported context cause

/-- A result has the property. -/
theorem of_ok {a : α} (h : Yields P (.ok a)) : P a := by
  cases h with
  | ok h => exact h

/-- A failure is a refusal. -/
theorem of_error {e : RenderError} (h : Yields P (.error e)) :
    ∃ context cause, e = .unsupported context cause := by
  cases h with
  | unsupported context cause => exact ⟨context, cause, rfl⟩

end Yields

section Built

variable {scope : Scope} {context : String} {program : Program} {nested : Bool}

/-- Where the modules of a program are found has an identifier. -/
@[simp] theorem allValid_programModule : AllValid (programModule nested program).toList := by
  unfold programModule
  split <;> simp

/-- A link has identifiers. -/
theorem allValid_link {name : String} :
    AllValid ((scope.link name).name :: (scope.link name).program.toList) := by
  unfold Scope.link
  split
  · split <;> simp
  · simp

/-- Types have identifiers. -/
theorem yields_type (type : TypeNode) :
    Yields (AllValid ·.names) (CrateType.of scope context type) := by
  fun_induction CrateType.of scope context type with
  | case9 item ih | case10 item ih | case11 item count ih => exact ih.return_of fun _ h => h
  | case8 | case12 | case13 => exact .unsupported _ _
  | case14 name => exact .ok allValid_link
  | _ => exact .ok allValid_nil

/-- So have fields, -/
theorem yields_fields (fields : List StructField) :
    Yields (fun fields => ∀ field ∈ fields, AllValid (Field.names field))
      (fieldsOf scope context fields) := by
  refine Yields.mapM fun field _ => (yields_type field.type).return_of fun type htype => ?_
  simp [Field.names, htype]

/-- variants, -/
theorem yields_variant {explicit : Bool} {position : Nat} {variant : EnumVariant} :
    Yields (fun body => AllValid (Variant.names ⟨Name.type variant.name, body⟩))
      (VariantBody.of scope context explicit position variant) := by
  unfold VariantBody.of
  split
  · exact (yields_fields _).return_of fun fields hfields => by simpa [Variant.names] using hfields
  · split
    · split
      · exact .ok (by simp [Variant.names])
      · exact .unsupported _ _
    · exact .ok (by simp [Variant.names])

/-- and declared types. -/
theorem yields_declaration (defined : DefinedType) :
    Yields (AllValid ·.names) (Declaration.of scope defined) := by
  suffices hshape : Yields
      (fun shape => AllValid (Declaration.names ⟨defined.docs, Name.type defined.name, shape⟩))
      (Shape.of scope s!"types/{defined.name}" defined.type) from
    hshape.return_of fun shape h => h
  unfold Shape.of
  split
  · refine (yields_fields _).return_of fun fields hfields => ?_
    simpa [Declaration.names] using hfields
  · unfold Shape.ofVariants
    dsimp only
    split
    · exact .unsupported _ _
    · refine (Yields.mapM (P := fun variant => AllValid (Variant.names variant))
        fun item _ => yields_variant.return_of fun body h => h).return_of fun variants h => ?_
      simpa [Declaration.names] using h
  · exact (yields_type _).return_of fun type htype => by simpa [Declaration.names] using htype

/-- Parameters have identifiers, -/
def SeedPart.IsNamed (part : SeedPart) : Prop :=
  ∀ name type, part = .parameter name type → name.Valid

theorem allValid_parameters {parts : List SeedPart} (h : ∀ part ∈ parts, part.IsNamed) :
    AllValid ((parameters parts).map (·.1)) := by
  refine List.forall_mem_map.mpr fun parameter hmem => ?_
  obtain ⟨part, hpart, hparameter⟩ := List.mem_filterMap.mp hmem
  cases part with
  | parameter name type =>
      obtain rfl := Option.some.inj hparameter
      exact h _ hpart name type rfl
  | constant | programId => exact nomatch hparameter

/-- as they are made of seeds. -/
theorem yields_seed (seed : Seed) : Yields SeedPart.IsNamed (SeedPart.of context seed) := by
  have htype : ∀ context type, Yields (fun _ => True) (SeedType.of context type) := by
    intro context type
    unfold SeedType.of
    split <;> first | exact .ok trivial | exact .unsupported _ _
  unfold SeedPart.of
  split
  · exact .ok fun name type h => nomatch h
  · exact .ok fun name type h => nomatch h
  · exact .ok fun name type h => nomatch h
  · refine (htype _ _).return_of fun type _ name' type' h => ?_
    rw [← (SeedPart.parameter.inj h).1]
    exact Name.valid_field

/-- Accounts have identifiers. -/
theorem yields_account (account : Account) :
    Yields (fun module => AllValid (Module.account module).names)
      (AccountModule.of scope account) := by
  have hseeds : Yields (fun seeds : Option (List SeedPart) =>
        AllValid ((parameters (seeds.getD [])).map (·.1)))
      (account.seeds.mapM fun seeds => seeds.mapM (SeedPart.of s!"accounts/{account.name}")) := by
    cases account.seeds with
    | none => exact .ok allValid_nil
    | some seeds =>
        exact (Yields.mapM fun seed _ => yields_seed seed).return_of fun parts => allValid_parameters
  refine (yields_fields account.fields).bind fun fields hfields => hseeds.return_of fun seeds h => ?_
  have htag : AllValid ((account.discriminator.map (TagConstant.of account.name)).toList.map
      (·.name)) := by
    cases account.discriminator <;> simp
  simpa [Module.names, h, htag] using hfields

/-- The defaults of an instruction are bound, or refused. -/
theorem yields_bindings {signature : Signature} :
    Yields (fun _ => True) (Bindery.bindings program signature context) := by
  have horder : Yields (fun _ => True) (resolutionOrder signature context) := by
    unfold resolutionOrder
    cases orderFrom _ _ with
    | ok ordered => exact .ok trivial
    | error names => exact .unsupported _ _
  have hderivation : ∀ context account given,
      Yields (fun _ => True) (derivation program context account given) := by
    intro context account given
    unfold derivation
    split
    · refine (Yields.mapM (P := fun _ => True) fun seed _ => ?_).return_of fun _ _ => trivial
      split
      · exact .ok trivial
      · exact .unsupported _ _
    · exact .unsupported _ _
  have hexpression : ∀ context value,
      Yields (fun _ => True) (Expression.of program context value) := by
    intro context value
    cases value with
    | pda owner seeds => exact hderivation context owner seeds
    | _ => exact .ok trivial
  unfold Bindery.bindings defaultBindings
  refine Yields.return_of (P := fun _ => True) (horder.bind fun ordered _ => ?_) fun _ _ => trivial
  refine Yields.weaken (Yields.mapM (P := fun _ => True) ?_)
  rintro ⟨input, value⟩ -
  exact (hexpression _ value).return_of fun _ _ => trivial

/-- Instructions have identifiers. -/
theorem yields_instruction (instruction : Instruction) :
    Yields (fun module => AllValid (Module.instruction module).names)
      (InstructionModule.of nested program instruction) := by
  refine (Yields.mapM fun argument _ => yields_type argument.type).bind fun types htypes =>
    yields_bindings.return_of fun bound _ => ?_
  simpa [Module.names, ProgramId.of] using htypes

/-- Whatever has a module of its own yields one with identifiers. -/
theorem yields_site (site : Site) :
    Yields (AllValid ·.names) ((modules nested).build site) := by
  cases site with
  | account program account => exact (yields_account account).return_of fun _ h => h
  | instruction program instruction =>
      exact (yields_instruction instruction).return_of fun _ h => h
  | definedType scope defined => exact (yields_declaration defined).return_of fun _ h => h

end Built

/-! ## Rendering -/

/-- The name that the type of the errors of a program gets. -/
def errorName (program : Program) : String := Text.upperCamelCase program.name ++ "Error"

/-- The errors of a program yield an identifier if that is one, -/
theorem yields_errors {nested : Bool} {program : Program}
    (h : isIdentifier (errorName program) = true) :
    Yields (AllValid ·.names) ((modules nested).errors program) := by
  have hvalid := Name.valid_of_ending h (by decide +kernel)
  dsimp only [modules, Module.ofErrors]
  rw [errorName] at h
  rw [if_pos h]
  exact .ok (List.forall_mem_singleton.mpr hvalid)

/-- and stop at it otherwise. -/
theorem errors_eq_error {nested : Bool} {program : Program}
    (h : isIdentifier (errorName program) = false) :
    (modules nested).errors program = .error (.invalidIdentifier (errorName program)) := by
  dsimp only [modules, Module.ofErrors, errorName] at h ⊢
  rw [h]
  rfl

variable {tree : Tree} {options : RenderOptions} {mount : ModulePath} {e : RenderError}

/-- A module that is planned yields identifiers, or is that of errors without an identifier. -/
theorem yields_planned {planned : Planned Module}
    (h : planned ∈ (modules tree.isNested).plan tree) :
    Yields (AllValid ·.names) planned.build
      ∨ ∃ program ∈ tree.programs, program.errors ≠ [] ∧ isIdentifier (errorName program) = false
        ∧ planned.build = (modules tree.isNested).errors program := by
  cases Modules.plannedAs_of_mem h with
  | site _ => exact .inl (yields_site _)
  | @errors program hp hany =>
      dsimp only
      cases hname : isIdentifier (errorName program) with
      | true => exact .inl (yields_errors hname)
      | false => exact .inr ⟨program, hp, hany, hname, rfl⟩
  | typesIndex _ _ | collectionIndex _ _ _ | programIndex _ | topIndex _ | emptyIndex _
  | programs _ => exact .inl (.ok allValid_nil)

/-- Rendering without formatting fails with its files. -/
theorem render_error_iff (hknown : options.checkKnown ["modulePath"] = .ok ())
    (hmount : mountOf options = .ok mount) (hplain : options.formatCode = false) :
    render tree options = .error e ↔ files tree = .error e := by
  unfold render
  rw [hknown, hmount, hplain]
  exact return_eq_error

/-- The modules of a tree are built up to that of the errors of a program, whose type would have a
    name that is no identifier. -/
def StopsAt (tree : Tree) (name : String) : Prop :=
  ∃ before planned after program, (modules tree.isNested).plan tree = before ++ planned :: after
    ∧ (∀ earlier ∈ before, ∃ module, earlier.build = .ok module)
    ∧ program ∈ tree.programs ∧ program.errors ≠ []
    ∧ planned.build = (modules tree.isNested).errors program
    ∧ name = errorName program ∧ isIdentifier name = false

/-- Files fail at an identifier where the tree stops at one, -/
theorem files_eq_invalidIdentifier {name : String} :
    files tree = .error (.invalidIdentifier name) ↔ StopsAt tree name := by
  refine Modules.files_eq_error_iff.trans ⟨?_, ?_⟩
  · rintro ⟨before, planned, after, hplan, hbefore, he⟩
    have hmem : planned ∈ (modules tree.isNested).plan tree := by
      rw [hplan]
      exact List.mem_append_right _ List.mem_cons_self
    rcases yields_planned hmem with hyields | ⟨program, hp, hany, hname, hbuild⟩
    · rw [he] at hyields
      obtain ⟨context, cause, h⟩ := hyields.of_error
      exact nomatch h
    · rw [hbuild, errors_eq_error hname] at he
      obtain rfl := RenderError.invalidIdentifier.inj (Except.error.inj he)
      exact ⟨before, planned, after, program, hplan, hbefore, hp, hany, hbuild, rfl, hname⟩
  · rintro ⟨before, planned, after, program, hplan, hbefore, hp, hany, hbuild, rfl, hname⟩
    exact ⟨before, planned, after, hplan, hbefore, hbuild.trans (errors_eq_error hname)⟩

/-- and fail otherwise with a refusal. -/
theorem files_fails_refused (h : files tree = .error e) :
    (∃ name, e = .invalidIdentifier name) ∨ ∃ context cause, e = .unsupported context cause := by
  obtain ⟨planned, hmem, he⟩ := Modules.files_fails h
  rcases yields_planned hmem with hyields | ⟨program, -, -, hname, hbuild⟩
  · rw [he] at hyields
    exact .inr hyields.of_error
  · rw [hbuild, errors_eq_error hname] at he
    exact .inl ⟨errorName program, (Except.error.inj he).symm⟩

/-- Whatever is built is written. -/
theorem files_written {built : List (ModuleFile Module)} (h : files tree = .ok built) :
    ∀ file ∈ built, AllWritten mount (file.module.words mount) := by
  intro file hfile
  obtain ⟨planned, hmem, hbuilt⟩ :=
    exists_of_forall₂_right (Modules.files_builtAs (modules_regular _) h) hfile
  rcases yields_planned hmem with hyields | ⟨program, -, -, hname, hbuild⟩
  · rw [hbuilt.module] at hyields
    exact Module.written hyields.of_ok
  · exact nomatch hbuilt.module.symm.trans (hbuild.trans (errors_eq_error hname))

/-- **NO IDENTIFIER BUT ACCEPTED ONES**: with any path and without formatting, a tree is rendered as
    files in which all identifiers are accepted, or something has no form, or rendering stops at
    an identifier.  It stops at those only that would name the type of the errors of a program
    and are none. -/
theorem render_identifiers (hknown : options.checkKnown ["modulePath"] = .ok ())
    (hmount : mountOf options = .ok mount) (hplain : options.formatCode = false) :
    (∀ name, render tree options = .error (.invalidIdentifier name) ↔ StopsAt tree name)
      ∧ (∀ e, render tree options = .error e →
          (∃ name, e = .invalidIdentifier name) ∨ ∃ context cause, e = .unsupported context cause)
      ∧ ∀ artifacts, render tree options = .ok artifacts → ∃ built, files tree = .ok built
          ∧ artifacts = Artifacts.ofFiles (built.map (ModuleFile.written (textOf mount false)))
          ∧ ∀ file ∈ built, AllWritten mount (file.module.words mount) := by
  have hfails : ∀ e, render tree options = .error e ↔ files tree = .error e :=
    fun e => render_error_iff hknown hmount hplain
  refine ⟨fun name => (hfails _).trans files_eq_invalidIdentifier, fun e h => ?_, ?_⟩
  · exact files_fails_refused ((hfails e).mp h)
  · intro artifacts h
    obtain ⟨mount', built, hmount', hbuilt, hartifacts⟩ := render_eq_ok h
    rw [hmount] at hmount'
    rw [← Except.ok.inj hmount', hplain] at hartifacts
    exact ⟨built, hbuilt, hartifacts, files_written hbuilt⟩

theorem render_identifiers_bank :
    RenderOptions.checkKnown ⟨false, SortedMap.empty⟩ ["modulePath"] = .ok ()
      ∧ mountOf ⟨false, SortedMap.empty⟩ = .ok .standard
      ∧ ∃ artifacts built, render bankTree ⟨false, SortedMap.empty⟩ = .ok artifacts
        ∧ files bankTree = .ok built
        ∧ ∀ file ∈ built, AllWritten .standard (file.module.words .standard) := by
  obtain ⟨artifacts, hrender⟩ : ∃ artifacts,
      render bankTree ⟨false, SortedMap.empty⟩ = .ok artifacts :=
    exists_ok_of_isSome (by decide +kernel)
  have hknown : RenderOptions.checkKnown ⟨false, SortedMap.empty⟩ ["modulePath"] = .ok () := rfl
  have hmount : mountOf ⟨false, SortedMap.empty⟩ = .ok .standard := rfl
  obtain ⟨built, hbuilt, -, hall⟩ := (render_identifiers hknown hmount rfl).2.2 artifacts hrender
  exact ⟨rfl, rfl, artifacts, built, hrender, hbuilt, hall⟩

/-! ## A name that is no identifier -/

/-- An interface with an error whose name starts with a digit. -/
def twoFactor : Document where
  label := "2fa"
  text := String.join [
    "\x7b\"name\":\"2fa\",\"address\":\"F\",",
    "\"errors\":[\x7b\"code\":6000,\"name\":\"Bad\"\x7d],",
    "\"instructions\":[]\x7d"]

/-- The tree of that interface. -/
def twoFactorTree : Tree where
  programs := [
    { name := "2fa", publicKey := "F", version := "", docs := []
      accounts := [], instructions := [], definedTypes := []
      errors := [⟨6000, "Bad", "", []⟩] }]
  sharedTypes := []

/-- The interface loads. -/
theorem load_twoFactor : Tree.load [twoFactor] = .ok twoFactorTree := by
  refine load_singleton ?_
  rw [documentProgram_eq String.toList_join]
  decide +kernel

/-- **A STOP**: the interface loads, and rendering its tree stops at an identifier. -/
theorem exists_stop_at_identifier : Tree.load [twoFactor] = .ok twoFactorTree
    ∧ render twoFactorTree ⟨false, SortedMap.empty⟩
      = .error (.invalidIdentifier "2faError") :=
  ⟨load_twoFactor, by decide +kernel⟩

end Crate

end Bindery
