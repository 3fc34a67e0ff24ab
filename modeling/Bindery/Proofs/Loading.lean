import Bindery.Proofs.Description.Acceptance

/-! # Loading — exactly which documents load, and what they give

    A list of documents loads just when each is acceptable and names and addresses
    differ, and the tree has the meaning of each in its place (`Tree.load_exact`).

    So whatever holds of the meaning of every acceptable document holds of every
    tree that is loaded, and no conversion has to be opened for it.  In this way the
    programs are declared properly and tagged properly, with nothing but tags
    attached (`load_eq_ok`), and the tree is well-formed (`load_wellFormed`). -/

namespace Bindery

/-! ## Lists of documents -/

/-- A document reads as a description. -/
def Document.Reads (document : Document) (description : Description) : Prop :=
  Decode.text Description.decode document.text = .ok description

/-- A document gives the program that it means, where it can be read and is acceptable. -/
theorem Document.program_eq_ok_iff {document : Document} {program : Program} :
    document.program = .ok program ↔ ∃ description, document.Reads description
      ∧ description.Acceptable ∧ description.meaning = program := by
  unfold Document.program
  rw [bind_eq_ok]
  refine exists_congr fun description => ?_
  rw [mapError_eq_ok, Description.toProgram_gives description program]
  rfl

/-- One more program keeps keys apart when its own is new. -/
theorem nodup_map_concat {key : Program → String} {programs : List Program} {program : Program} :
    ((programs ++ [program]).map key).Nodup
      ↔ key program ∉ programs.map key ∧ (programs.map key).Nodup := by
  rw [List.map_append, List.map_singleton, ← List.concat_eq_append, List.nodup_concat]

/-- The first of some documents loads when it gives a program with a new name and a new address,
    and the others load behind that. -/
theorem loadAfter_cons_eq_ok {document : Document} {documents : List Document}
    {loaded programs : List Program} :
    Tree.loadAfter loaded (document :: documents) = .ok programs ↔
      ∃ program, document.program = .ok program
        ∧ program.publicKey ∉ loaded.map (·.publicKey) ∧ program.name ∉ loaded.map (·.name)
        ∧ Tree.loadAfter (loaded ++ [program]) documents = .ok programs := by
  rw [Tree.loadAfter, bind_eq_ok]
  refine exists_congr fun program => ?_
  rw [mapError_eq_ok]
  refine and_congr_right' ?_
  cases hfound : loaded.find? (·.publicKey = program.publicKey) with
  | some first =>
      constructor
      · intro h
        cases h
      · rintro ⟨hnew, -⟩
        exact absurd (mem_names_of_find? hfound) hnew
  | none =>
      have hany : loaded.any (·.name = program.name) = true
          ↔ program.name ∈ loaded.map (·.name) := by
        simp only [List.any_eq_true, decide_eq_true_eq, List.mem_map]
      dsimp only
      rw [unless_eq_ok, hany]
      exact (and_iff_right (notMem_names_of_find? hfound)).symm

/-- Documents load behind others when each gives a program, and the names and the addresses of
    all are distinct. -/
theorem loadAfter_eq_ok_iff : ∀ {documents : List Document} {loaded programs : List Program},
    (loaded.map (·.publicKey)).Nodup → (loaded.map (·.name)).Nodup →
      (Tree.loadAfter loaded documents = .ok programs ↔
        ∃ added, List.Forall₂ (fun document program => document.program = .ok program)
            documents added
          ∧ loaded ++ added = programs
          ∧ (programs.map (·.publicKey)).Nodup ∧ (programs.map (·.name)).Nodup) := by
  intro documents
  induction documents with
  | nil =>
      intro loaded programs haddresses hnames
      constructor
      · intro h
        obtain rfl := Except.ok.inj h
        exact ⟨[], .nil, List.append_nil _, haddresses, hnames⟩
      · rintro ⟨added, hadded, rfl, -, -⟩
        rw [List.forall₂_nil_left_iff.mp hadded, List.append_nil]
        rfl
  | cons document documents ih =>
      intro loaded programs haddresses hnames
      rw [loadAfter_cons_eq_ok]
      constructor
      · rintro ⟨program, hprogram, haddress, hname, h⟩
        obtain ⟨added, hadded, hprograms, hdistinct⟩ :=
          (ih (nodup_map_concat.mpr ⟨haddress, haddresses⟩)
            (nodup_map_concat.mpr ⟨hname, hnames⟩)).mp h
        exact ⟨program :: added, .cons hprogram hadded, by rw [← hprograms, List.append_assoc]; rfl,
          hdistinct⟩
      · rintro ⟨all, hall, hprograms, ha, hn⟩
        obtain ⟨program, added, hprogram, hadded, rfl⟩ := List.forall₂_cons_left_iff.mp hall
        have hsplit : (loaded ++ [program]) ++ added = programs := by
          rw [← hprograms, List.append_assoc]
          rfl
        -- what is distinct to the end is distinct up to here
        have hshorter : ∀ {key : Program → String}, (programs.map key).Nodup →
            ((loaded ++ [program]).map key).Nodup := by
          intro key h
          rw [← hsplit, List.map_append] at h
          exact h.of_append_left
        refine ⟨program, hprogram, (nodup_map_concat.mp (hshorter ha)).1,
          (nodup_map_concat.mp (hshorter hn)).1, ?_⟩
        exact (ih (hshorter ha) (hshorter hn)).mpr ⟨added, hadded, hsplit, ha, hn⟩

/-- Each of some documents gives a program when each reads as a description that is acceptable,
    and the programs are what the descriptions mean. -/
theorem forall₂_program_iff : ∀ {documents : List Document} {programs : List Program},
    List.Forall₂ (fun document program => document.program = .ok program) documents programs ↔
      ∃ descriptions, List.Forall₂ Document.Reads documents descriptions
        ∧ (∀ description ∈ descriptions, description.Acceptable)
        ∧ descriptions.map (·.meaning) = programs := by
  intro documents
  induction documents with
  | nil =>
      intro programs
      constructor
      · intro h
        rw [List.forall₂_nil_left_iff.mp h]
        exact ⟨[], .nil, fun _ h => (nomatch h), rfl⟩
      · rintro ⟨descriptions, hall, -, rfl⟩
        rw [List.forall₂_nil_left_iff.mp hall]
        exact .nil
  | cons document documents ih =>
      intro programs
      constructor
      · intro h
        obtain ⟨program, rest, hprogram, hrest, rfl⟩ := List.forall₂_cons_left_iff.mp h
        obtain ⟨description, hreads, hgood, rfl⟩ := Document.program_eq_ok_iff.mp hprogram
        obtain ⟨descriptions, hall, hgoods, rfl⟩ := ih.mp hrest
        exact ⟨description :: descriptions, .cons hreads hall,
          List.forall_mem_cons.mpr ⟨hgood, hgoods⟩, rfl⟩
      · rintro ⟨all, hall, hgoods, rfl⟩
        obtain ⟨description, descriptions, hreads, hrest, rfl⟩ :=
          List.forall₂_cons_left_iff.mp hall
        obtain ⟨hgood, hgoods⟩ := List.forall_mem_cons.mp hgoods
        exact .cons (Document.program_eq_ok_iff.mpr ⟨description, hreads, hgood, rfl⟩)
          (ih.mpr ⟨descriptions, hrest, hgoods, rfl⟩)

/-- A tree that is loaded has the meanings of acceptable descriptions, with distinct names and
    addresses, and nothing else. -/
theorem exists_descriptions_of_load {documents : List Document} {tree : Tree}
    (h : Tree.load documents = .ok tree) :
    ∃ descriptions : List Description, (∀ description ∈ descriptions, description.Acceptable)
      ∧ tree = ⟨descriptions.map (·.meaning), []⟩
      ∧ (tree.programs.map (·.name)).Nodup ∧ (tree.programs.map (·.publicKey)).Nodup := by
  cases documents with
  | nil => exact nomatch h
  | cons document documents =>
      obtain ⟨programs, hprograms, htree⟩ := bind_eq_ok.mp h
      obtain ⟨added, hadded, rfl, haddresses, hnames⟩ :=
        (@loadAfter_eq_ok_iff _ [] _ List.nodup_nil List.nodup_nil).mp hprograms
      obtain ⟨descriptions, -, hgood, rfl⟩ := forall₂_program_iff.mp hadded
      rw [← pure_eq_ok.mp htree]
      exact ⟨descriptions, hgood, rfl, hnames, haddresses⟩

/-- What the meanings of all acceptable descriptions have, all programs have that are loaded. -/
theorem forall_programs_of_load {documents : List Document} {tree : Tree} {P : Program → Prop}
    (hmeaning : ∀ description : Description, description.Acceptable → P description.meaning)
    (h : Tree.load documents = .ok tree) : ∀ program ∈ tree.programs, P program := by
  obtain ⟨descriptions, hgood, rfl, -⟩ := exists_descriptions_of_load h
  exact List.forall_mem_map.mpr fun description hmem =>
    hmeaning description (hgood description hmem)

/-! ## What is loaded is well-formed -/

/-- What loading gives: tags are all that is attached to nodes. -/
structure Program.Fresh (program : Program) : Prop where
  recipes : ∀ account ∈ program.accounts, account.seeds = none
  defaults : ∀ instruction ∈ program.instructions, instruction.defaults = []

namespace Description

variable {description : Description}

/-- The program of an acceptable document has a valid name. -/
theorem Acceptable.valid (h : description.Acceptable) :
    NodePath.ValidName description.meaning.name := by
  obtain ⟨name, hname, hvalid⟩ := h.name
  rw [meaning, hname]
  exact hvalid

/-- The program of an acceptable document is declared properly. -/
theorem Acceptable.declared (h : description.Acceptable) : description.meaning.Declared where
  accounts := (accountNames_meaning description).symm ▸ h.accounts
  instructions := (instructionNames_meaning description).symm ▸ h.instructions
  definedTypes := (typeNames_meaning description).symm ▸ h.types
  errors := (errorNames_meaning description).symm ▸ h.errors
  inputs := by
    refine List.forall_mem_map.mpr fun instruction hmem => ?_
    have hinputs := h.inputs instruction hmem
    exact ⟨(accountNames_instruction instruction).symm ▸ hinputs.accounts,
      (argumentNames_instruction instruction).symm ▸ hinputs.arguments⟩
  links := (forall_links_iff h.layouts).mpr fun expr hexpr name hname =>
    defines_meaning_iff.mpr (h.links expr hexpr name hname)

/-- The number of a tag that an instruction means fits, if its declaration says so. -/
theorem fits_of_meantTag {instruction : InstructionDef} {tag : Discriminator}
    (hfits : ∀ discriminant ∈ instruction.discriminant, discriminant.Fits)
    (h : instruction.meantTag = some tag) : tag.value.Fits := by
  unfold InstructionDef.meantTag at h
  cases hdiscriminant : instruction.discriminant with
  | some discriminant =>
      obtain ⟨format, hformat, hfits⟩ := hfits discriminant hdiscriminant
      rw [hdiscriminant] at h
      simp only [hformat, Option.map_some] at h
      rw [← Option.some.inj h]
      exact hfits
  | none =>
      rw [hdiscriminant] at h
      obtain ⟨raw, -, rfl⟩ := Option.map_eq_some_iff.mp h
      trivial

/-- The tags that a document means are raw bytes at the start, those of accounts, and the tags of
    instructions. -/
theorem of_mem_tags {tag : Discriminator} (h : tag ∈ description.meaning.tags) :
    (∃ raw, tag = ⟨.bytes raw, 0⟩)
      ∨ ∃ instruction ∈ description.instructions, instruction.meantTag = some tag := by
  rcases List.mem_append.mp h with hmem | hmem
  · obtain ⟨account, haccount, htag⟩ := List.mem_filterMap.mp hmem
    obtain ⟨definition, -, rfl⟩ := List.mem_map.mp haccount
    obtain ⟨raw, -, rfl⟩ := Option.map_eq_some_iff.mp htag
    exact .inl ⟨raw, rfl⟩
  · obtain ⟨instruction, hinstruction, htag⟩ := List.mem_filterMap.mp hmem
    obtain ⟨definition, hdefinition, rfl⟩ := List.mem_map.mp hinstruction
    exact .inr ⟨definition, hdefinition, htag⟩

/-- The program of an acceptable document is tagged properly. -/
theorem Acceptable.tagged (h : description.Acceptable) : description.meaning.Tagged where
  distinct := nodup_keys_iff.mpr h.tags
  fits := by
    intro tag hmem
    rcases of_mem_tags hmem with ⟨raw, rfl⟩ | ⟨instruction, hinstruction, htag⟩
    · trivial
    · exact fits_of_meantTag (h.inputs instruction hinstruction).discriminant htag

/-- The program that a document means has nothing but tags attached. -/
theorem fresh_meaning (description : Description) : description.meaning.Fresh where
  recipes := List.forall_mem_map.mpr fun _ _ => rfl
  defaults := by
    refine List.forall_mem_map.mpr fun instruction _ => List.append_eq_nil_iff.mpr ⟨?_, ?_⟩
    · exact List.filterMap_eq_nil_iff.mpr (List.forall_mem_map.mpr fun _ _ => rfl)
    · exact List.filterMap_eq_nil_iff.mpr (List.forall_mem_map.mpr fun _ _ => rfl)

end Description

/-- Programs that are loaded keep all names and addresses apart. -/
structure Loaded (programs : List Program) : Prop where
  names : ProperNames (programs.map (·.name))
  addresses : (programs.map (·.publicKey)).Nodup
  members : ∀ program ∈ programs, program.Declared ∧ program.Tagged ∧ program.Fresh

/-- A tree that is loaded has what loading gives, and no shared types. -/
theorem load_eq_ok {documents : List Document} {tree : Tree}
    (h : Tree.load documents = .ok tree) : Loaded tree.programs ∧ tree.sharedTypes = [] := by
  have hvalid : ∀ program ∈ tree.programs, NodePath.ValidName program.name :=
    forall_programs_of_load (fun _ hgood => hgood.valid) h
  have hmembers : ∀ program ∈ tree.programs, program.Declared ∧ program.Tagged ∧ program.Fresh :=
    forall_programs_of_load
      (fun description hgood => ⟨hgood.declared, hgood.tagged, description.fresh_meaning⟩) h
  obtain ⟨descriptions, -, rfl, hnames, haddresses⟩ := exists_descriptions_of_load h
  exact ⟨⟨⟨hnames, List.forall_mem_map.mpr hvalid⟩, haddresses, hmembers⟩, rfl⟩

/-- **LOADING IS SOUND**: every tree that is loaded is well-formed. -/
theorem load_wellFormed {documents : List Document} {tree : Tree}
    (h : Tree.load documents = .ok tree) : tree.WellFormed := by
  obtain ⟨hloaded, hshared⟩ := load_eq_ok h
  exact ⟨hloaded.names, hloaded.addresses, hshared, fun p hp => (hloaded.members p hp).1,
    fun p hp => (hloaded.members p hp).2.1⟩

/-! ## An interface of one program -/

/-- A document loads alone as the tree of its program. -/
theorem load_singleton {document : Document} {program : Program}
    (h : document.program = .ok program) : Tree.load [document] = .ok ⟨[program], []⟩ := by
  simp only [Tree.load, Tree.loadAfter, h]
  rfl

/-- What a document gives is decided by the characters of its text. -/
theorem documentProgram_eq {document : Document} {cs : List Char}
    (h : document.text.toList = cs) :
    document.program = (do
      let description ← (do
        let (draft, rest) := Draft.readValue (2 * cs.length + 2) 0 cs
        let description ← Description.decode draft
        let clean := match rest with
          | some rest => (Draft.dropBlanks rest).isEmpty
          | none => false
        if clean then return description else .error .malformed
          : Except Fault Description).mapError .undecodable
      description.toProgram) := by
  subst h
  rfl

/-- A bank with two accounts, two types and two instructions; `open` has an account
    and an argument of one name, and an optional account. -/
def bank : Document where
  label := "bank"
  text := String.join [
    "\x7b\"name\":\"bank\",\"address\":\"B\",",
    "\"accounts\":[\x7b\"name\":\"Vault\",\"type\":",
    "\x7b\"kind\":\"struct\",\"fields\":[",
    "\x7b\"name\":\"side\",\"type\":\x7b\"defined\":\"Side\"\x7d\x7d]\x7d\x7d,",
    "\x7b\"name\":\"Pool\",\"type\":\x7b\"kind\":\"struct\"\x7d\x7d],",
    "\"types\":[\x7b\"name\":\"Side\",\"type\":",
    "\x7b\"kind\":\"enum\",\"variants\":[",
    "\x7b\"name\":\"Open\"\x7d,\x7b\"name\":\"Close\"\x7d]\x7d\x7d,",
    "\x7b\"name\":\"Turn\",\"type\":\x7b\"kind\":\"struct\"\x7d\x7d],",
    "\"instructions\":[\x7b\"name\":\"open\",",
    "\"accounts\":[\x7b\"name\":\"vault\"\x7d,",
    "\x7b\"name\":\"payer\"\x7d,",
    "\x7b\"name\":\"guest\",\"isOptional\":true\x7d],",
    "\"args\":[\x7b\"name\":\"payer\",\"type\":\"pubkey\"\x7d,",
    "\x7b\"name\":\"side\",\"type\":\x7b\"defined\":\"Side\"\x7d\x7d],",
    "\"discriminant\":\x7b\"type\":\"u8\",\"value\":1\x7d\x7d,",
    "\x7b\"name\":\"close\",",
    "\"discriminant\":\x7b\"type\":\"u8\",\"value\":2\x7d\x7d]\x7d"]

/-- The tree of the bank. -/
def bankTree : Tree where
  programs := [
    { name := "bank", publicKey := "B", version := "", docs := []
      accounts := [⟨"Vault", [], [⟨"side", .link "Side", []⟩], none, none⟩,
        ⟨"Pool", [], [], none, none⟩]
      instructions := [
        { name := "open", docs := []
          accounts := [⟨"vault", false, false, false, [], none⟩,
            ⟨"payer", false, false, false, [], none⟩, ⟨"guest", false, false, true, [], none⟩]
          arguments := [⟨"payer", .publicKey, [], none⟩, ⟨"side", .link "Side", [], none⟩]
          discriminator := some ⟨.number .u8 1, 0⟩ },
        { name := "close", docs := [], accounts := [], arguments := []
          discriminator := some ⟨.number .u8 2, 0⟩ }]
      definedTypes := [⟨"Side", .enum [⟨"Open", none, none⟩, ⟨"Close", none, none⟩], []⟩,
        ⟨"Turn", .struct [], []⟩]
      errors := [] }]
  sharedTypes := []

/-- The bank loads. -/
theorem load_bank : Tree.load [bank] = .ok bankTree := by
  refine load_singleton ?_
  rw [documentProgram_eq String.toList_join]
  decide +kernel

/-! ## Exactly what loads -/

/-- A key that every description gives is repeated among the descriptions just when it is among
    their programs. -/
theorem nodup_given_iff {given : Description → Option String} {key : Program → String}
    {descriptions : List Description}
    (h : ∀ description ∈ descriptions, given description = some (key description.meaning)) :
    ((descriptions.map (·.meaning)).map key).Nodup ↔ (descriptions.map given).Nodup := by
  have hgiven : descriptions.map given = ((descriptions.map (·.meaning)).map key).map some := by
    rw [List.map_map, List.map_map]
    exact List.map_congr_left h
  rw [hgiven]
  exact (List.nodup_map_iff fun _ _ => Option.some.inj).symm

/-- **WHAT LOADS**: documents load exactly when there is one, each reads as a description that is
    acceptable, and the names and the addresses of all are distinct.  The tree has the program
    that each description means, in order, and nothing else. -/
theorem Tree.load_exact {documents : List Document} {tree : Tree} :
    Tree.load documents = .ok tree ↔
      documents ≠ [] ∧ ∃ descriptions, List.Forall₂ Document.Reads documents descriptions
        ∧ (∀ description ∈ descriptions, description.Acceptable)
        ∧ (descriptions.map (·.givenAddress)).Nodup
        ∧ (descriptions.map (·.givenName)).Nodup
        ∧ tree = ⟨descriptions.map (·.meaning), []⟩ := by
  have hdistinct : ∀ {descriptions : List Description},
      (∀ description ∈ descriptions, description.Acceptable) →
        (((descriptions.map (·.meaning)).map (·.publicKey)).Nodup
            ↔ (descriptions.map (·.givenAddress)).Nodup)
          ∧ (((descriptions.map (·.meaning)).map (·.name)).Nodup
            ↔ (descriptions.map (·.givenName)).Nodup) := by
    intro descriptions hgood
    refine ⟨nodup_given_iff fun d hmem => ?_, nodup_given_iff fun d hmem => ?_⟩
    · obtain ⟨address, haddress⟩ := (hgood d hmem).address
      rw [Description.meaning, haddress]
      rfl
    · obtain ⟨name, hname, -⟩ := (hgood d hmem).name
      rw [Description.meaning, hname]
      rfl
  cases documents with
  | nil => exact ⟨fun h => (nomatch h), fun h => absurd rfl h.1⟩
  | cons document documents =>
      rw [Tree.load, bind_eq_ok]
      constructor
      · rintro ⟨programs, hprograms, htree⟩
        obtain ⟨added, hadded, rfl, haddresses, hnames⟩ :=
          (@loadAfter_eq_ok_iff _ [] _ List.nodup_nil List.nodup_nil).mp hprograms
        obtain ⟨descriptions, hreads, hgood, rfl⟩ := forall₂_program_iff.mp hadded
        exact ⟨List.cons_ne_nil _ _, descriptions, hreads, hgood,
          (hdistinct hgood).1.mp haddresses, (hdistinct hgood).2.mp hnames,
          (pure_eq_ok.mp htree).symm⟩
      · rintro ⟨-, descriptions, hreads, hgood, haddresses, hnames, rfl⟩
        refine ⟨descriptions.map (·.meaning), ?_, rfl⟩
        refine (@loadAfter_eq_ok_iff _ [] _ List.nodup_nil List.nodup_nil).mpr ⟨_, ?_, rfl,
          (hdistinct hgood).1.mpr haddresses, (hdistinct hgood).2.mpr hnames⟩
        exact forall₂_program_iff.mpr ⟨descriptions, hreads, hgood, rfl⟩

theorem Tree.load_exact_bank : ∃ description, bank.Reads description ∧ description.Acceptable
    ∧ bankTree = ⟨[description.meaning], []⟩ := by
  obtain ⟨-, descriptions, hreads, hgood, -, -, htree⟩ := Tree.load_exact.mp load_bank
  obtain ⟨description, rest, hread, hrest, rfl⟩ := List.forall₂_cons_left_iff.mp hreads
  rw [List.forall₂_nil_left_iff.mp hrest] at hgood htree
  exact ⟨description, hread, hgood description List.mem_cons_self, htree⟩

end Bindery
