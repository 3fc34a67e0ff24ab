import Bindery.Crate.Printer
import Bindery.Proofs.Identifiers

/-! # Printed words — what the source of a module is made of

    A generated module is a list of words.  Each of them is one that the printer has
    of its own (`fixedWords`), a literal, a word of the path of the mounted tree, or
    the text of an identifier.  A module is built with some identifiers
    (`Module.names`); if the language accepts these then it accepts all that are
    printed (`Module.written`).  The others come from names of nodes, and `Name.of`
    makes an identifier of every text (`Name.valid_of`). -/

namespace Bindery

namespace Crate

/-! ## Identifiers that the language accepts -/

/-- An identifier that the language accepts: its word reads as one, the language does not keep it
    for itself, and it is marked as raw if it is a keyword. -/
structure Name.Valid (name : Name) : Prop where
  identifier : isIdentifier name.word = true
  free : name.word ∉ restrictedWords
  marked : name.raw = decide (name.word ∈ keywords)

/-- An ending that no word of the language has. -/
def Fresh (ending : String) : Prop :=
  ∀ word ∈ restrictedWords ++ keywords, ¬ ending.toList <:+ word.toList

instance : DecidablePred Fresh := fun _ => List.decidableBAll _ _

namespace Name

/-- **EVERY TEXT HAS AN IDENTIFIER** that the language accepts. -/
theorem valid_of (text : String) : (of text).Valid where
  identifier := (spoken_word text).kept.isIdentifier (spoken_word text).begins
  free := (spoken_word text).free
  marked := raw_of text

@[simp] theorem valid_field {text : String} : (field text).Valid := by
  unfold field
  exact valid_of _

@[simp] theorem valid_type {text : String} : (type text).Valid := by
  unfold type
  exact valid_of _

@[simp] theorem valid_constant {text ending : String} : (constant text ending).Valid := by
  unfold constant
  exact valid_of _

/-- Behind a fresh ending an identifier needs no mark. -/
theorem valid_of_ending {text ending : String} (h : isIdentifier (text ++ ending) = true)
    (hfresh : Fresh ending) : Valid ⟨text ++ ending, false⟩ := by
  have hends : ending.toList <:+ (text ++ ending).toList := by
    rw [String.toList_append]
    exact List.suffix_append _ _
  have hnot : ∀ word ∈ restrictedWords ++ keywords, text ++ ending ≠ word := by
    rintro word hmem rfl
    exact hfresh _ hmem hends
  refine ⟨h, fun hmem => hnot _ (List.mem_append_left _ hmem) rfl, ?_⟩
  exact (decide_eq_false fun hmem => hnot _ (List.mem_append_right _ hmem) rfl).symm

/-- An accepted identifier stays one with more letters behind it. -/
theorem Valid.extend {name : Name} (h : name.Valid) {ending : String}
    (hending : ending.toList.all Text.isIdentifierPart = true) (hfresh : Fresh ending) :
    (name.extend ending).Valid :=
  valid_of_ending (isIdentifier_append h.identifier hending) hfresh

end Name

/-! ## Words -/

/-- The characters of a text. -/
def spelling {cs : List Char} (text : String) (_ : text = String.ofList cs) : List Char := cs

/-- The words that the printer has of its own: signs, words of the language, and names of the
    libraries that generated source uses and of what it declares in every module. -/
def fixedWords : List (List Char) :=
  List.flatMap (Text.splitAt ' ') [
    spelling "# [ ] ( ) < > \x7b \x7d = -> => != : :: . .. , ; & || ? ! - *" rfl,
    spelling "pub const type struct enum impl fn mod use let mut if match return for as self" rfl,
    spelling "Self true false bool u8 u16 u32 u64 u128 i8 i16 i32 i64 i128 f32 f64 str" rfl,
    spelling "String Vec Option Result Some None Ok Err doc derive repr Clone Copy Debug Eq" rfl,
    spelling "PartialEq From std io Error ErrorKind InvalidData new vec get from push extend" rfl,
    spelling "extend_from_slice with_capacity clone or_else unwrap_or unwrap_or_else as_ref" rfl,
    spelling "as_bytes to_le_bytes borsh BorshSerialize BorshDeserialize use_discriminant" rfl,
    spelling "deserialize to_vec solana_pubkey Pubkey from_str_const find_program_address" rfl,
    spelling "solana_instruction Instruction AccountMeta new_readonly thiserror error" rfl,
    spelling "programs accounts types data args key program_id from_bytes find_pda" rfl,
    spelling "instruction 0 0u8" rfl]

/-- A word that the printer has of its own. -/
inductive Fixed : String → Prop
  | spelled {cs : List Char} (h : fixedWords.contains cs = true) : Fixed (String.ofList cs)

/-- A phrase of such words. -/
inductive FixedPhrase : String → Prop
  | spelled {cs : List Char} (h : (Text.splitAt ' ' cs).all fixedWords.contains = true) :
      FixedPhrase (String.ofList cs)

/-- A word of generated source below the path of a mounted tree. -/
inductive Written (mount : ModulePath) : String → Prop
  | mount {word : String} (h : word ∈ mount.words) : Written mount word
  | fixed {word : String} (h : Fixed word) : Written mount word
  | number (n : Nat) : Written mount (Code.number n)
  | string (text : String) : Written mount (stringLiteral text)
  | bytes (bytes : List UInt8) : Written mount (byteLiteral bytes)
  | name {name : Name} (h : name.Valid) : Written mount name.text

/-- Source that is made of such words. -/
def AllWritten (mount : ModulePath) (words : Code) : Prop := ∀ word ∈ words, Written mount word

section Words

open Code (block group list commas number)

variable {mount : ModulePath} {words rest : Code} {word phrase text : String} {n : Nat}
  {pieces : List Code}

@[simp] theorem allWritten_nil : AllWritten mount [] := fun _ h => nomatch h

@[simp] theorem allWritten_cons :
    AllWritten mount (word :: words) ↔ Written mount word ∧ AllWritten mount words :=
  List.forall_mem_cons

@[simp] theorem allWritten_append :
    AllWritten mount (words ++ rest) ↔ AllWritten mount words ∧ AllWritten mount rest :=
  List.forall_mem_append

@[simp] theorem allWritten_flatMap {α : Type} {items : List α} {f : α → Code} :
    AllWritten mount (items.flatMap f) ↔ ∀ item ∈ items, AllWritten mount (f item) :=
  List.forall_mem_flatMap

/-- A phrase of the printer is written. -/
theorem allWritten_code (h : FixedPhrase phrase) : AllWritten mount (code phrase) := by
  obtain ⟨hcs⟩ := h
  unfold code Text.splitText
  rw [String.toList_ofList]
  exact List.forall_mem_map.mpr fun w hw => .fixed (.spelled (List.all_eq_true.mp hcs w hw))

/-- The words that printers put down by themselves, -/
@[simp] theorem written_words :
    Written mount "#" ∧ Written mount "[" ∧ Written mount "]" ∧ Written mount "("
      ∧ Written mount ")" ∧ Written mount "<" ∧ Written mount ">" ∧ Written mount "\x7b"
      ∧ Written mount "\x7d" ∧ Written mount "=" ∧ Written mount "->" ∧ Written mount "=>"
      ∧ Written mount "!=" ∧ Written mount ":" ∧ Written mount "::" ∧ Written mount "."
      ∧ Written mount ".." ∧ Written mount "," ∧ Written mount ";" ∧ Written mount "&"
      ∧ Written mount "||" ∧ Written mount "?" ∧ Written mount "!" ∧ Written mount "-"
      ∧ Written mount "*" ∧ Written mount "pub" ∧ Written mount "const" ∧ Written mount "type"
      ∧ Written mount "struct" ∧ Written mount "enum" ∧ Written mount "impl" ∧ Written mount "fn"
      ∧ Written mount "mod" ∧ Written mount "use" ∧ Written mount "let" ∧ Written mount "if"
      ∧ Written mount "match" ∧ Written mount "return" ∧ Written mount "for" ∧ Written mount "self"
      ∧ Written mount "Self" ∧ Written mount "true" ∧ Written mount "false" ∧ Written mount "bool"
      ∧ Written mount "u8" ∧ Written mount "u16" ∧ Written mount "u32" ∧ Written mount "u64"
      ∧ Written mount "u128" ∧ Written mount "i8" ∧ Written mount "i16" ∧ Written mount "i32"
      ∧ Written mount "i64" ∧ Written mount "i128" ∧ Written mount "f32" ∧ Written mount "f64"
      ∧ Written mount "String" ∧ Written mount "Option" ∧ Written mount "Some"
      ∧ Written mount "None" ∧ Written mount "From" ∧ Written mount "data" ∧ Written mount "get"
      ∧ Written mount "new" ∧ Written mount "new_readonly" ∧ Written mount "or_else"
      ∧ Written mount "unwrap_or_else" ∧ Written mount "error" ∧ Written mount "programs"
      ∧ Written mount "accounts" ∧ Written mount "types" ∧ Written mount "key" ∧ Written mount "0u8" := by
  constructorm* _ ∧ _ <;> exact .fixed (.spelled (by decide +kernel))

/-- and the phrases. -/
@[simp] theorem allWritten_phrases :
    AllWritten mount (code "solana_pubkey :: Pubkey") ∧ AllWritten mount (code "Vec < u8 >")
      ∧ AllWritten mount (code "Option <") ∧ AllWritten mount (code "Vec <")
      ∧ AllWritten mount (code "# [ doc =")
      ∧ AllWritten mount (code "# [ derive ( borsh :: BorshSerialize , borsh :: BorshDeserialize , Clone , Debug , PartialEq ) ]")
      ∧ AllWritten mount (code "# [ borsh ( use_discriminant = true ) ] # [ repr ( u8 ) ]")
      ∧ AllWritten mount (code "return Err ( std :: io :: Error :: new ( std :: io :: ErrorKind :: InvalidData ,")
      ∧ AllWritten mount (code ", ) ) ;") ∧ AllWritten mount (code "let mut data = & data")
      ∧ AllWritten mount (code "let mut data = data ;")
      ∧ AllWritten mount (code "pub fn from_bytes ( data : & [ u8 ] ) -> std :: io :: Result < Self >")
      ∧ AllWritten mount (code "borsh :: BorshDeserialize :: deserialize ( & mut data )")
      ∧ AllWritten mount (code "& solana_pubkey :: Pubkey") ∧ AllWritten mount (code "& str")
      ∧ AllWritten mount (code "& [ u8 ]") ∧ AllWritten mount (code "program_id . as_ref ( )")
      ∧ AllWritten mount (code ". as_ref ( )") ∧ AllWritten mount (code ". as_bytes ( )")
      ∧ AllWritten mount (code ". to_le_bytes ( ) . as_ref ( )")
      ∧ AllWritten mount (code "u8 :: from") ∧ AllWritten mount (code "pub fn find_pda")
      ∧ AllWritten mount (code "program_id : & solana_pubkey :: Pubkey ,")
      ∧ AllWritten mount (code "-> ( solana_pubkey :: Pubkey , u8 )")
      ∧ AllWritten mount (code "solana_pubkey :: Pubkey :: find_program_address")
      ∧ AllWritten mount (code ", program_id") ∧ AllWritten mount (code "String :: from")
      ∧ AllWritten mount (code "solana_pubkey :: Pubkey :: from_str_const")
      ∧ AllWritten mount (code "vec !") ∧ AllWritten mount (code ":: find_pda")
      ∧ AllWritten mount (code ". 0") ∧ AllWritten mount (code ". clone ( )")
      ∧ AllWritten mount (code ". unwrap_or ( None )") ∧ AllWritten mount (code ". unwrap_or_else")
      ∧ AllWritten mount (code "solana_instruction :: AccountMeta ::")
      ∧ AllWritten mount (code "Some ( key ) =>") ∧ AllWritten mount (code ", None =>")
      ∧ AllWritten mount (code ", false") ∧ AllWritten mount (code "accounts . push")
      ∧ AllWritten mount (code "let mut data = vec !")
      ∧ AllWritten mount (code "; data . extend_from_slice")
      ∧ AllWritten mount (code "let mut data = Vec :: new ( ) ;")
      ∧ AllWritten mount (code "# [ derive ( Clone , Debug , PartialEq ) ]")
      ∧ AllWritten mount (code "pub fn instruction") ∧ AllWritten mount (code "& self , args : &")
      ∧ AllWritten mount (code "-> std :: io :: Result < solana_instruction :: Instruction >")
      ∧ AllWritten mount (code "let mut accounts = Vec :: with_capacity")
      ∧ AllWritten mount (code "data . extend ( borsh :: to_vec ( args ) ? ) ; Ok")
      ∧ AllWritten mount (code "solana_instruction :: Instruction")
      ∧ AllWritten mount (code "program_id :") ∧ AllWritten mount (code ", accounts , data ,")
      ∧ AllWritten mount (code "& mut self ,") ∧ AllWritten mount (code "-> & mut Self")
      ∧ AllWritten mount (code "; self") ∧ AllWritten mount (code "# [ derive ( Clone , Debug ) ]")
      ∧ AllWritten mount (code "pub fn new") ∧ AllWritten mount (code "-> Self")
      ∧ AllWritten mount (code "pub fn instruction ( & self ) -> std :: io :: Result < solana_instruction :: Instruction >")
      ∧ AllWritten mount (code ". instruction")
      ∧ AllWritten mount (code ": solana_pubkey :: Pubkey = solana_pubkey :: Pubkey :: from_str_const")
      ∧ AllWritten mount (code "# [ error")
      ∧ AllWritten mount (code "# [ derive ( Clone , Copy , Debug , Eq , PartialEq , thiserror :: Error ) ] # [ repr ( u32 ) ]")
      ∧ AllWritten mount (code "fn from") ∧ AllWritten mount (code "error as u32") := by
  constructorm* _ ∧ _ <;> exact allWritten_code (.spelled (by decide +kernel))

@[simp] theorem written_number : Written mount (number n) := .number n

@[simp] theorem written_string : Written mount (stringLiteral text) := .string text

/-- Identifiers of nodes are accepted. -/
@[simp] theorem written_of : Written mount (Name.of text).text := .name (Name.valid_of text)

@[simp] theorem written_field : Written mount (Name.field text).text := .name Name.valid_field

@[simp] theorem written_type : Written mount (Name.type text).text := .name Name.valid_type

@[simp] theorem written_constant {ending : String} :
    Written mount (Name.constant text ending).text := .name Name.valid_constant

@[simp] theorem allWritten_block : AllWritten mount (block words) ↔ AllWritten mount words := by
  simp [block]

@[simp] theorem allWritten_group : AllWritten mount (group words) ↔ AllWritten mount words := by
  simp [group]

@[simp] theorem allWritten_list : AllWritten mount (list words) ↔ AllWritten mount words := by
  simp [list]

/-- Commas are words of the printer. -/
@[simp] theorem allWritten_commas :
    AllWritten mount (commas pieces) ↔ ∀ piece ∈ pieces, AllWritten mount piece := by
  induction pieces with
  | nil => exact iff_of_true allWritten_nil fun _ h => nomatch h
  | cons piece pieces ih =>
      cases pieces with
      | nil => exact List.forall_mem_singleton.symm
      | cons next rest =>
          rw [List.forall_mem_cons, ← ih]
          show AllWritten mount (piece ++ "," :: commas (next :: rest)) ↔ _
          simp

@[simp high] theorem allWritten_commas_append {others : List Code} :
    AllWritten mount (commas (pieces ++ others))
      ↔ AllWritten mount (commas pieces) ∧ AllWritten mount (commas others) := by
  simp only [allWritten_commas]
  exact List.forall_mem_append

@[simp high] theorem allWritten_commas_map {α : Type} {items : List α} {f : α → Code} :
    AllWritten mount (commas (items.map f)) ↔ ∀ item ∈ items, AllWritten mount (f item) :=
  allWritten_commas.trans List.forall_mem_map

end Words

end Crate

/-! ## Identifiers of modules -/

/-- The identifiers in a type: those of its links. -/
def CrateType.names : CrateType → List Crate.Name
  | .link path => path.name :: path.program.toList
  | .option item | .array item _ | .list item => item.names
  | .number _ | .boolean | .address | .string | .bytes | .byteArray _ => []

namespace Crate

/-- The identifiers of a field. -/
def Field.names (field : Field) : List Name := field.name :: field.type.names

/-- The identifiers of a variant. -/
def Variant.names (variant : Variant) : List Name :=
  variant.name :: match variant.body with
    | .data fields => fields.flatMap Field.names
    | .unit | .discriminant _ => []

/-- The identifiers of a declared type. -/
def Declaration.names (declaration : Declaration) : List Name :=
  declaration.name :: match declaration.shape with
    | .struct fields => fields.flatMap Field.names
    | .enum _ variants => variants.flatMap Variant.names
    | .alias type => type.names

/-- The identifiers that a module is built with. -/
def Module.names : Module → List Name
  | .account module => module.tag.toList.map (·.name) ++ module.name
      :: module.fields.flatMap Field.names
      ++ (parameters (module.seeds.getD [])).map (·.1)
  | .instruction module => module.programId.constant :: module.programId.program.toList
      ++ module.argumentTypes.flatMap CrateType.names
  | .errors name _ => [name]
  | .type declaration => declaration.names
  | .programs _ _ | .index _ _ => []

/-- All of some identifiers are accepted. -/
def AllValid (names : List Name) : Prop := ∀ name ∈ names, name.Valid

section Printed

variable {mount : ModulePath} {names rest : List Name} {name : Name}

@[simp] theorem allValid_nil : AllValid [] := fun _ h => nomatch h

@[simp] theorem allValid_cons : AllValid (name :: names) ↔ name.Valid ∧ AllValid names :=
  List.forall_mem_cons

@[simp] theorem allValid_append :
    AllValid (names ++ rest) ↔ AllValid names ∧ AllValid rest :=
  List.forall_mem_append

@[simp] theorem allValid_flatMap {α : Type} {items : List α} {f : α → List Name} :
    AllValid (items.flatMap f) ↔ ∀ item ∈ items, AllValid (f item) :=
  List.forall_mem_flatMap

/-! ## Types and declarations -/

/-- The path of the mounted tree is written. -/
@[simp] theorem allWritten_mount : AllWritten mount mount.words := fun _ h => .mount h

/-- The name of a number format is one of the words of the printer. -/
@[simp] theorem written_format (format : NumberFormat) : Written mount format.name := by
  cases format <;> simp [NumberFormat.name]

/-- Types are written with the identifiers of their links. -/
theorem allWritten_type {type : CrateType} (h : AllValid type.names) :
    AllWritten mount (type.words mount) := by
  induction type with
  | link path =>
      obtain ⟨hname, hprogram⟩ := allValid_cons.mp h
      unfold CrateType.words CrateType.pathWords
      cases hpath : path.program with
      | none =>
          simp [Written.name hname]
      | some module =>
          rw [hpath] at hprogram
          have hmodule := hprogram module List.mem_cons_self
          simp [Written.name hname,
            Written.name hmodule]
  | option item ih | list item ih | array item count ih =>
      simp [CrateType.words, ih h]
  | _ =>
      simp [CrateType.words, CrateType.addressWords]

/-- Documentation is attributes with literals. -/
@[simp] theorem allWritten_docLine {line : String} : AllWritten mount (docLine line) := by
  simp [docLine]

@[simp] theorem allWritten_docs {docs : List String} : AllWritten mount (docWords docs) := by
  simp [docWords]

@[simp] theorem allWritten_derive : AllWritten mount dataDerive := by simp [dataDerive]

/-- Fields are written with their identifiers. -/
theorem allWritten_field {field : Field} (h : AllValid field.names) :
    AllWritten mount (field.words mount) := by
  obtain ⟨hname, htype⟩ := allValid_cons.mp h
  simp [Field.words, Written.name hname,
    allWritten_type htype]

/-- A struct is written with its name and its fields. -/
theorem allWritten_struct {fields : List Field} (hname : name.Valid)
    (h : AllValid (fields.flatMap Field.names)) :
    AllWritten mount (structWords mount name fields) := by
  have hfields : ∀ field ∈ fields, AllWritten mount (field.words mount) := fun field hfield =>
    allWritten_field (allValid_flatMap.mp h field hfield)
  simp [structWords, Written.name hname]
  exact hfields

/-- Variants are written with their identifiers. -/
theorem allWritten_variant {variant : Variant} (h : AllValid variant.names) :
    AllWritten mount (variant.words mount) := by
  obtain ⟨hname, hbody⟩ := allValid_cons.mp h
  unfold Variant.words
  cases hvariant : variant.body with
  | data fields =>
      rw [hvariant] at hbody
      have hfields : ∀ field ∈ fields, AllWritten mount (field.words mount) :=
        fun field hfield => allWritten_field (allValid_flatMap.mp hbody field hfield)
      simp [Written.name hname]
      exact hfields
  | unit | discriminant value =>
      simp [Written.name hname]

/-- A declared type is written with its identifiers. -/
theorem allWritten_declaration {declaration : Declaration} (h : AllValid declaration.names) :
    AllWritten mount (declaration.words mount) := by
  obtain ⟨docs, name, shape⟩ := declaration
  obtain ⟨hname, hshape⟩ := allValid_cons.mp h
  cases shape with
  | struct fields => simp [Declaration.words, allWritten_struct hname hshape]
  | enum explicit variants =>
      have hvariants : ∀ variant ∈ variants, AllWritten mount (variant.words mount) :=
        fun variant hvariant => allWritten_variant (allValid_flatMap.mp hshape variant hvariant)
      cases explicit with
      | true | false =>
          simp [Declaration.words, Written.name hname]
          exact hvariants
  | «alias» type =>
      simp [Declaration.words, Written.name hname,
        allWritten_type hshape]

/-! ## Accounts -/

/-- The constant of a tag has an identifier, -/
@[simp] theorem TagConstant.valid_of {node : String} {tag : Discriminator} :
    (TagConstant.of node tag).name.Valid := by
  dsimp only [TagConstant.of]
  exact Name.valid_constant

/-- and is written with it. -/
theorem allWritten_tag {tag : TagConstant} (h : tag.name.Valid) :
    AllWritten mount tag.words := by
  simp [TagConstant.words, Written.name h]

/-- So is the function that reads an account. -/
theorem allWritten_reader {tag : Option TagConstant} (h : AllValid (tag.toList.map (·.name))) :
    AllWritten mount (readerWords tag) := by
  cases tag with
  | none => simp [readerWords]
  | some tag =>
      simp [readerWords,
        Written.name (h _ List.mem_cons_self)]

/-- The type of a parameter is one of the words of the printer. -/
@[simp] theorem allWritten_seedType {type : SeedType} : AllWritten mount type.words := by
  cases type <;> simp [SeedType.words]

/-- The seeds of an address are written with the names of their parameters. -/
theorem allWritten_derivation {title : String} {seeds : List SeedPart}
    (h : AllValid ((parameters seeds).map (·.1))) :
    AllWritten mount (derivationWords title seeds) := by
  have hparameter : ∀ {name : Name} {type : SeedType}, SeedPart.parameter name type ∈ seeds →
      Written mount name.text := by
    intro name type hmem
    refine .name (h _ (List.mem_map.mpr ⟨(name, type), ?_, rfl⟩))
    exact List.mem_filterMap.mpr ⟨_, hmem, rfl⟩
  have hseeds : ∀ seed ∈ seeds, AllWritten mount seed.words := by
    intro seed hmem
    cases seed with
    | constant bytes =>
        simp [SeedPart.words, Written.bytes bytes]
    | programId => simp [SeedPart.words]
    | parameter name type =>
        cases type <;> simp [SeedPart.words,
          hparameter hmem]
  have harguments : ∀ parameter ∈ parameters seeds, Written mount parameter.1.text :=
    fun parameter hmem => .name (h _ (List.mem_map_of_mem hmem))
  simp [derivationWords]
  exact ⟨fun name type hmem => harguments (name, type) hmem, hseeds⟩

/-- An account is written with its identifiers. -/
theorem allWritten_account {module : AccountModule} (h : AllValid (Module.account module).names) :
    AllWritten mount (module.words mount) := by
  obtain ⟨h, hseeds⟩ := allValid_append.mp h
  obtain ⟨htag, h⟩ := allValid_append.mp h
  obtain ⟨hname, hfields⟩ := allValid_cons.mp h
  unfold AccountModule.words
  simp [Written.name hname, allWritten_reader htag,
    allWritten_struct hname hfields]
  refine ⟨?tag, ?derivation⟩
  case tag =>
    cases hmodule : module.tag with
    | none => exact allWritten_nil
    | some tag =>
        rw [hmodule] at htag
        exact allWritten_tag (htag _ List.mem_cons_self)
  case derivation =>
    cases hmodule : module.seeds with
    | none => exact allWritten_nil
    | some seeds =>
        rw [hmodule] at hseeds
        exact allWritten_derivation hseeds

/-! ## Instructions -/

/-- The id of a program is written with its identifiers. -/
theorem allWritten_path {program : Option Name} (h : AllValid program.toList) :
    AllWritten mount (modulePath mount program) := by
  cases program with
  | none => exact allWritten_mount
  | some module =>
      simp [modulePath,
        Written.name (h module List.mem_cons_self)]

theorem allWritten_programId {id : ProgramId} (hconstant : id.constant.Valid)
    (hprogram : AllValid id.program.toList) : AllWritten mount (id.words mount) := by
  simp [ProgramId.words, allWritten_path hprogram,
    Written.name hconstant]

/-- Literals are written with words of the printer. -/
@[simp] theorem allWritten_literal {type : TypeNode} {value : Literal} :
    AllWritten mount (literalWords type value) := by
  have hitems : ∀ bytes : List UInt8, AllWritten mount
      (Code.list (Code.commas (bytes.map fun byte => [Code.number byte.toNat]))) :=
    fun bytes => by simp
  unfold literalWords
  split
  · split <;> simp
  · split <;> simp
  · simp
  · simp
  · split
    · exact hitems _
    · simp [hitems]

namespace InstructionModule

variable {module : InstructionModule} {input : Input}

/-- Inputs have identifiers of their own, -/
@[simp] theorem valid_nameOf : (module.nameOf input).Valid := by
  unfold nameOf inputName argumentName
  split
  · exact Name.valid_field
  · dsimp only
    split <;> exact Name.valid_of _

@[simp] theorem written_nameOf : Written mount (module.nameOf input).text := .name valid_nameOf

/-- and so have the types that belong to an instruction. -/
theorem valid_name : module.name.Valid := Name.valid_type

theorem valid_argumentsName : module.argumentsName.Valid :=
  valid_name.extend (by decide +kernel) (by decide +kernel)

theorem valid_builderName : module.builderName.Valid :=
  valid_name.extend (by decide +kernel) (by decide +kernel)

@[simp] theorem written_name : Written mount module.name.text := .name valid_name

@[simp] theorem written_argumentsName : Written mount module.argumentsName.text :=
  .name valid_argumentsName

@[simp] theorem written_builderName : Written mount module.builderName.text :=
  .name valid_builderName

variable (h : AllValid (Module.instruction module).names)

include h

/-- An instruction is written with the id of its program, -/
theorem allWritten_id : AllWritten mount (module.programId.words mount)
    ∧ AllWritten mount (modulePath mount module.programId.program) := by
  obtain ⟨h, -⟩ := allValid_append.mp h
  obtain ⟨hconstant, hprogram⟩ := allValid_cons.mp h
  exact ⟨allWritten_programId hconstant hprogram, allWritten_path hprogram⟩

/-- and with the types of its inputs. -/
theorem allWritten_inputType : AllWritten mount ((module.inputType input).words mount) := by
  have htypes := allValid_flatMap.mp (allValid_append.mp h).2
  unfold inputType
  split
  · exact allWritten_type allValid_nil
  · split
    · next type hfound =>
        have hmem := (List.of_mem_zip (List.mem_of_find?_eq_some hfound)).2
        exact allWritten_type (htypes type hmem)
    · exact allWritten_type allValid_nil

omit h in
/-- A seed is given an input. -/
@[simp] theorem allWritten_seedArgument {seed : VariableSeed} :
    AllWritten mount (module.seedArgument seed input) := by
  unfold seedArgument
  split <;> simp

/-- Defaults are written with the names of inputs and of accounts, -/
theorem allWritten_expression {expression : Expression} :
    AllWritten mount (module.expressionWords mount input expression) := by
  obtain ⟨hid, hpath⟩ : AllWritten mount (module.programId.words mount)
    ∧ AllWritten mount (modulePath mount module.programId.program) := allWritten_id h
  cases expression with
  | derived owner seeds => simp [expressionWords, hid, hpath]
  | account name | argument name | absent => simp [expressionWords]
  | programId => exact hid
  | literal value => exact allWritten_literal

omit h in
/-- and so is what the builder holds, -/
@[simp] theorem allWritten_held : AllWritten mount (module.held input) := by
  cases input <;> simp [held]

/-- the values of its locals, -/
theorem allWritten_origin {origin : Origin} :
    AllWritten mount (module.originWords mount input origin) := by
  have hexpression : ∀ expression : Expression,
      AllWritten mount (module.expressionWords mount input expression) :=
    fun expression => allWritten_expression h
  cases origin with
  | required | optional => simp [originWords]
  | default expression =>
      unfold originWords
      cases input <;> split <;> simp_all <;> split <;> simp [hexpression]

/-- and the statements that bind them. -/
theorem allWritten_binding {bound : Binding} :
    AllWritten mount (module.bindingWords mount bound) := by
  simp [bindingWords, allWritten_origin h]

/-- The arguments are a struct. -/
theorem allWritten_arguments : AllWritten mount (module.argumentsWords mount) := by
  have htypes := allValid_flatMap.mp (allValid_append.mp h).2
  unfold argumentsWords
  refine allWritten_append.mpr ⟨allWritten_derive, allWritten_struct valid_argumentsName ?_⟩
  refine allValid_flatMap.mpr (List.forall_mem_map.mpr ?_)
  rintro ⟨argument, type⟩ hitem
  show AllValid (module.nameOf (.argument argument.name) :: type.names)
  exact allValid_cons.mpr ⟨valid_nameOf, htypes type (List.of_mem_zip hitem).2⟩

omit h in
/-- The accounts are fields. -/
@[simp] theorem allWritten_accountField {account : InstructionAccount} :
    AllWritten mount (accountField account) := by
  unfold accountField
  split <;> simp [CrateType.addressWords]

/-- A call collects the accounts, -/
theorem allWritten_meta {account : InstructionAccount} :
    AllWritten mount (module.metaWords mount account) := by
  have hid : AllWritten mount (module.programId.words mount) := (allWritten_id h).1
  unfold metaWords
  cases account.isWritable <;> cases account.isSigner <;> cases account.isOptional
    <;> simp [hid]

omit h in
/-- starts its data, -/
@[simp] theorem allWritten_data {instruction : Instruction} :
    AllWritten mount (dataWords instruction) := by
  unfold dataWords
  split
  · next tag htag =>
      obtain ⟨tag, -, rfl⟩ := Option.map_eq_some_iff.mp htag
      simp [TagConstant.of]
  · simp

/-- and puts both together. -/
theorem allWritten_call : AllWritten mount (module.callWords mount) := by
  have hid : AllWritten mount (module.programId.words mount) := (allWritten_id h).1
  have hmeta : ∀ account, AllWritten mount (module.metaWords mount account) :=
    fun account => allWritten_meta h
  simp [callWords, hid, hmeta]

theorem allWritten_typedInput : AllWritten mount (module.typedInput mount input) := by
  simp [typedInput, allWritten_inputType h]

theorem allWritten_lackedInput : AllWritten mount (module.lackedInput mount input) := by
  simp [lackedInput, allWritten_inputType h]

theorem allWritten_setter : AllWritten mount (module.setterWords mount input) := by
  simp [setterWords, allWritten_typedInput h]

/-- The builder of a call is written with the inputs. -/
theorem allWritten_builder : AllWritten mount (module.builderWords mount) := by
  have htyped : ∀ input, AllWritten mount (module.typedInput mount input) :=
    fun input => allWritten_typedInput h
  have hlacked : ∀ input, AllWritten mount (module.lackedInput mount input) :=
    fun input => allWritten_lackedInput h
  have hsetter : ∀ input, AllWritten mount (module.setterWords mount input) :=
    fun input => allWritten_setter h
  have hbinding : ∀ bound, AllWritten mount (module.bindingWords mount bound) :=
    fun bound => allWritten_binding h
  simp [builderWords, htyped, hlacked, hsetter, hbinding]

/-- An instruction is written with its identifiers. -/
theorem allWritten_instruction : AllWritten mount (module.words mount) := by
  unfold words
  simp only [allWritten_append]
  refine ⟨⟨⟨?_, allWritten_arguments h⟩, allWritten_call h⟩, allWritten_builder h⟩
  split
  · exact allWritten_tag TagConstant.valid_of
  · exact allWritten_nil

end InstructionModule

/-! ## Programs, errors and indexes -/

/-- An error is written with its name. -/
@[simp] theorem allWritten_error {error : ProgramError} : AllWritten mount (errorWords error) := by
  simp [errorWords]

/-- The errors of a program are written with the name of their type. -/
theorem allWritten_errors {errors : List ProgramError} (h : name.Valid) :
    AllWritten mount (errorsWords name errors) := by
  simp [errorsWords, Written.name h]

/-- The id of a program is written with its name. -/
@[simp] theorem allWritten_program {program address : String} :
    AllWritten mount (programWords program address) := by
  simp [programWords]

/-- An index names its modules. -/
@[simp] theorem allWritten_child {reexported : Bool} {child : String} :
    AllWritten mount (childWords reexported child) := by
  cases reexported <;> simp [childWords]

/-- **WHATEVER STANDS IN A MODULE IS WRITTEN**: if the identifiers that it is built with are
    accepted then so are all in its words. -/
theorem Module.written {module : Module} (h : AllValid module.names) :
    AllWritten mount (module.words mount) := by
  cases module with
  | programs program address => exact allWritten_program
  | account module => exact allWritten_account h
  | instruction module => exact InstructionModule.allWritten_instruction h
  | errors name errors => exact allWritten_errors (h name List.mem_cons_self)
  | type declaration => exact allWritten_declaration h
  | index children reexported => simp [Module.words]

end Printed

end Crate

end Bindery
