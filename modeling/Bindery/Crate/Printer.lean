import Bindery.Crate.Module

/-!
# The source of generated modules

* **`Module.words`** — the words of a module, below the path of the mounted tree.
-/

namespace Bindery.Crate

open Code (block group list commas number)

/-- A line of documentation as an attribute. -/
def docLine (line : String) : Code :=
  code "# [ doc =" ++ [stringLiteral line, "]"]

/-- Documentation; every line has a blank in front. -/
def docWords (docs : List String) : Code := docs.flatMap fun line => docLine (" " ++ line)

/-- The attribute of types that are read and written. -/
def dataDerive : Code :=
  code "# [ derive ( borsh :: BorshSerialize , borsh :: BorshDeserialize , Clone , Debug , PartialEq ) ]"

/-- A public field. -/
def Field.words (mount : ModulePath) (field : Field) : Code :=
  docWords field.docs ++ ["pub", field.name.text, ":"] ++ field.type.words mount

/-- A struct with public fields. -/
def structWords (mount : ModulePath) (name : Name) (fields : List Field) : Code :=
  ["pub", "struct", name.text] ++ block (commas (fields.map (·.words mount)))

-- ── declared types ───────────────────────────────────────────────────────────────

/-- A variant. -/
def Variant.words (mount : ModulePath) (variant : Variant) : Code :=
  match variant.body with
  | .unit => [variant.name.text]
  | .discriminant value => [variant.name.text, "=", number value.toNat]
  | .data fields => variant.name.text :: block (commas (fields.map (·.words mount)))

/-- A declared type. -/
def Declaration.words (mount : ModulePath) (declaration : Declaration) : Code :=
  docWords declaration.docs ++
    match declaration.shape with
    | .struct fields => dataDerive ++ structWords mount declaration.name fields
    | .enum explicit variants =>
      let attributes :=
        if explicit then code "# [ borsh ( use_discriminant = true ) ] # [ repr ( u8 ) ]" else []
      dataDerive ++ attributes ++ ["pub", "enum", declaration.name.text]
        ++ block (commas (variants.map (·.words mount)))
    | .alias type => ["pub", "type", declaration.name.text, "="] ++ type.words mount ++ [";"]

-- ── accounts ─────────────────────────────────────────────────────────────────────

/-- The constant of a tag. -/
def TagConstant.words (tag : TagConstant) : Code :=
  ["pub", "const", tag.name.text, ":"] ++ list ["u8", ";", number tag.bytes.length] ++ ["="]
    ++ list (commas (tag.bytes.map fun byte => [number byte.toNat])) ++ [";"]

/-- The function that reads an account. Its tag is compared and passed over first. -/
def readerWords (tag : Option TagConstant) : Code :=
  let body := match tag with
    | some tag =>
      ["if", "data", ".", "get"] ++ group [number tag.start.toNat, "..", number tag.stop.toNat]
        ++ ["!=", "Some"] ++ group (["&", tag.name.text] ++ list [".."])
        ++ block (code "return Err ( std :: io :: Error :: new ( std :: io :: ErrorKind :: InvalidData ,"
          ++ [stringLiteral "invalid account discriminator"] ++ code ", ) ) ;")
        ++ code "let mut data = & data" ++ list [number tag.stop.toNat, ".."] ++ [";"]
    | none => code "let mut data = data ;"
  code "pub fn from_bytes ( data : & [ u8 ] ) -> std :: io :: Result < Self >"
    ++ block (body ++ code "borsh :: BorshDeserialize :: deserialize ( & mut data )")

/-- The parameter type of a seed. -/
def SeedType.words : SeedType → Code
  | .address => code "& solana_pubkey :: Pubkey"
  | .string => code "& str"
  | .bytes => code "& [ u8 ]"
  | .number format => [format.name]
  | .boolean => ["bool"]

/-- The bytes of a seed. -/
def SeedPart.words : SeedPart → Code
  | .constant bytes => ["&", byteLiteral bytes] ++ list [".."]
  | .programId => code "program_id . as_ref ( )"
  | .parameter name type =>
    match type with
    | .address => name.text :: code ". as_ref ( )"
    | .string => name.text :: code ". as_bytes ( )"
    | .bytes => [name.text]
    | .number _ => name.text :: code ". to_le_bytes ( ) . as_ref ( )"
    | .boolean => ["&"] ++ list (code "u8 :: from" ++ group [name.text])

/-- The function that derives the address of an account. -/
def derivationWords (title : String) (seeds : List SeedPart) : Code :=
  let arguments := (parameters seeds).map fun (name, type) => [name.text, ":"] ++ type.words
  docLine s!" Derive the address of a `{title}` account."
    ++ code "pub fn find_pda"
    ++ group (code "program_id : & solana_pubkey :: Pubkey ," ++ commas arguments)
    ++ code "-> ( solana_pubkey :: Pubkey , u8 )"
    ++ block (code "solana_pubkey :: Pubkey :: find_program_address"
      ++ group (["&"] ++ list (commas (seeds.map SeedPart.words)) ++ code ", program_id"))

/-- The module of an account. -/
def AccountModule.words (mount : ModulePath) (module : AccountModule) : Code :=
  let tag := match module.tag with
    | some tag => tag.words
    | none => []
  let derivation := match module.seeds with
    | some seeds => derivationWords module.title seeds
    | none => []
  tag ++ docWords module.docs ++ dataDerive ++ structWords mount module.name module.fields
    ++ ["impl", module.name.text] ++ block (readerWords module.tag ++ derivation)

-- ── instructions ─────────────────────────────────────────────────────────────────

/-- The path of a module below the mounted tree. -/
def modulePath (mount : ModulePath) : Option Name → Code
  | some program => mount.words ++ ["::", program.text]
  | none => mount.words

/-- The id of a program. -/
def ProgramId.words (mount : ModulePath) (id : ProgramId) : Code :=
  modulePath mount id.program ++ ["::", "programs", "::", id.constant.text]

/-- A literal for a place of a type. Bytes of a fixed size are an array. -/
def literalWords (type : TypeNode) : Literal → Code
  | .number value =>
    if value < 0 then ["-", number value.toInt.natAbs] else [number value.toInt.natAbs]
  | .boolean value => [if value then "true" else "false"]
  | .string value => code "String :: from" ++ group [stringLiteral value]
  | .publicKey address => code "solana_pubkey :: Pubkey :: from_str_const" ++ group [stringLiteral address]
  | .bytes bytes =>
    let items := list (commas (bytes.map fun byte => [number byte.toNat]))
    match type.unwrapOption with
    | .fixedSize _ _ => items
    | _ => code "vec !" ++ items

namespace InstructionModule

/-- The identifier of an input. -/
def nameOf (module : InstructionModule) (input : Input) : Name :=
  inputName module.instruction input

/-- The type of the instruction's accounts. -/
def name (module : InstructionModule) : Name := Name.type module.instruction.name

/-- The type of the instruction's arguments. -/
def argumentsName (module : InstructionModule) : Name := module.name.extend "InstructionArgs"

/-- The type of the call builder. -/
def builderName (module : InstructionModule) : Name := module.name.extend "Builder"

/-- What a seed's parameter is given: the local itself or a reference to it. -/
def seedArgument (module : InstructionModule) (seed : VariableSeed) (input : Input) : Code :=
  match seed.type with
  | .number _ | .boolean => [(module.nameOf input).text]
  | _ => ["&", (module.nameOf input).text]

/-- The source of a default of an input. -/
def expressionWords (mount : ModulePath) (module : InstructionModule) (input : Input) :
    Expression → Code
  | .derived owner seeds =>
    modulePath mount module.programId.program ++ ["::", "accounts", "::", (Name.type owner).text]
      ++ code ":: find_pda"
      ++ group (["&"] ++ module.programId.words mount ++ [","]
        ++ commas (seeds.map fun (seed, input) => module.seedArgument seed input))
      ++ code ". 0"
  | .account name => [(module.nameOf (.account name)).text]
  | .argument name => (module.nameOf (.argument name)).text :: code ". clone ( )"
  | .absent => ["None"]
  | .programId => module.programId.words mount
  | .literal value => literalWords (module.instruction.inputType input) value

/-- What the builder holds for an input. -/
def held (module : InstructionModule) (input : Input) : Code :=
  let place := ["self", ".", (module.nameOf input).text]
  match input with
  | .account _ => place
  | .argument _ => place ++ code ". clone ( )"

/-- The value of a local. -/
def originWords (mount : ModulePath) (module : InstructionModule) (input : Input) :
    Origin → Code
  | .required => module.held input
  | .optional => ["self", ".", (module.nameOf input).text]
  | .default .absent =>
    match input with
    | .account _ => module.held input
    | .argument _ => module.held input ++ code ". unwrap_or ( None )"
  | .default expression =>
    let value := module.expressionWords mount input expression
    if module.isOptional input then
      let method := match input with
        | .account _ => "or_else"
        | .argument _ => "unwrap_or_else"
      module.held input ++ [".", method] ++ group (["||", "Some"] ++ group value)
    else module.held input ++ code ". unwrap_or_else" ++ group ("||" :: value)

/-- A binding as a statement. -/
def bindingWords (mount : ModulePath) (module : InstructionModule) (bound : Binding) : Code :=
  ["let", (module.nameOf bound.input).text, "="]
    ++ module.originWords mount bound.input bound.origin ++ [";"]

/-- The struct of the arguments. -/
def argumentsWords (mount : ModulePath) (module : InstructionModule) : Code :=
  let fields := (module.instruction.arguments.zip module.argumentTypes).map
    fun (argument, type) =>
      Field.mk argument.docs (module.nameOf (.argument argument.name)) type
  dataDerive ++ structWords mount module.argumentsName fields

/-- The field of an account. -/
def accountField (account : InstructionAccount) : Code :=
  let type := if account.isOptional then code "Option <" ++ CrateType.addressWords ++ [">"]
    else CrateType.addressWords
  docWords account.docs ++ ["pub", (Name.field account.name).text, ":"] ++ type

/-- The statement that adds an account to a call. One that is left out is replaced by the
    program's id. -/
def metaWords (mount : ModulePath) (module : InstructionModule) (account : InstructionAccount) :
    Code :=
  let field := (Name.field account.name).text
  let make := if account.isWritable then "new" else "new_readonly"
  let signer := if account.isSigner then "true" else "false"
  let entry := code "solana_instruction :: AccountMeta ::"
  let pushed := if account.isOptional then
      ["match", "self", ".", field] ++ block (
        code "Some ( key ) =>" ++ entry ++ [make] ++ group ["key", ",", signer]
          ++ code ", None =>" ++ entry ++ ["new_readonly"]
          ++ group (module.programId.words mount ++ code ", false") ++ [","])
    else entry ++ [make] ++ group ["self", ".", field, ",", signer]
  code "accounts . push" ++ group pushed ++ [";"]

/-- The statements that start the data of a call: blanks up to the tag, then the tag. -/
def dataWords (instruction : Instruction) : Code :=
  match instruction.discriminator.map (TagConstant.of instruction.name) with
  | some tag =>
    code "let mut data = vec !" ++ list ["0u8", ";", number tag.start.toNat]
      ++ code "; data . extend_from_slice" ++ group ["&", tag.name.text] ++ [";"]
  | none => code "let mut data = Vec :: new ( ) ;"

/-- The struct of the accounts and the function that makes a call. -/
def callWords (mount : ModulePath) (module : InstructionModule) : Code :=
  let accounts := module.instruction.accounts
  docWords module.instruction.docs ++ code "# [ derive ( Clone , Debug , PartialEq ) ]"
    ++ ["pub", "struct", module.name.text] ++ block (commas (accounts.map accountField))
    ++ ["impl", module.name.text] ++ block (
      code "pub fn instruction" ++ group (code "& self , args : &" ++ [module.argumentsName.text])
        ++ code "-> std :: io :: Result < solana_instruction :: Instruction >"
        ++ block (code "let mut accounts = Vec :: with_capacity" ++ group [number accounts.length]
          ++ [";"] ++ accounts.flatMap (module.metaWords mount)
          ++ dataWords module.instruction
          ++ code "data . extend ( borsh :: to_vec ( args ) ? ) ; Ok"
          ++ group (code "solana_instruction :: Instruction"
            ++ block (code "program_id :" ++ module.programId.words mount
              ++ code ", accounts , data ,"))))

/-- An input and its type. -/
def typedInput (mount : ModulePath) (module : InstructionModule) (input : Input) : Code :=
  [(module.nameOf input).text, ":"] ++ (module.inputType input).words mount

/-- An input that the builder may lack, and its type. -/
def lackedInput (mount : ModulePath) (module : InstructionModule) (input : Input) : Code :=
  [(module.nameOf input).text, ":", "Option", "<"] ++ (module.inputType input).words mount ++ [">"]

/-- The function that supplies an input which the builder may lack. -/
def setterWords (mount : ModulePath) (module : InstructionModule) (input : Input) : Code :=
  let field := (module.nameOf input).text
  ["pub", "fn", field] ++ group (code "& mut self ," ++ module.typedInput mount input)
    ++ code "-> & mut Self"
    ++ block (["self", ".", field, "=", "Some"] ++ group [field] ++ code "; self")

/-- The call builder. It is made from the required inputs; the others have setters. -/
def builderWords (mount : ModulePath) (module : InstructionModule) : Code :=
  let signature := Signature.of module.instruction
  let required := signature.required.map (·.input)
  let lacked := (signature.optional ++ signature.defaulted).map (·.input)
  let start := required.map (fun input => [(module.nameOf input).text])
    ++ lacked.map fun input => [(module.nameOf input).text, ":", "None"]
  let accounts := module.instruction.accounts.map fun a => [(module.nameOf (.account a.name)).text]
  let arguments := module.instruction.arguments.map fun a =>
    [(module.nameOf (.argument a.name)).text]
  docLine s!" Builds a `{module.instruction.name}` instruction from its required inputs."
    ++ code "# [ derive ( Clone , Debug ) ]"
    ++ ["pub", "struct", module.builderName.text]
    ++ block (commas (required.map (module.typedInput mount) ++ lacked.map (module.lackedInput mount)))
    ++ ["impl", module.builderName.text] ++ block (
      code "pub fn new" ++ group (commas (required.map (module.typedInput mount)))
        ++ code "-> Self" ++ block (["Self"] ++ block (commas start))
        ++ lacked.flatMap (module.setterWords mount)
        ++ code "pub fn instruction ( & self ) -> std :: io :: Result < solana_instruction :: Instruction >"
        ++ block (module.bindings.flatMap (module.bindingWords mount)
          ++ [module.name.text] ++ block (commas accounts)
          ++ code ". instruction"
          ++ group (["&", module.argumentsName.text] ++ block (commas arguments))))

/-- The module of an instruction. -/
def words (mount : ModulePath) (module : InstructionModule) : Code :=
  let tag := match module.instruction.discriminator with
    | some tag => (TagConstant.of module.instruction.name tag).words
    | none => []
  tag ++ module.argumentsWords mount ++ module.callWords mount ++ module.builderWords mount

end InstructionModule

-- ── modules ──────────────────────────────────────────────────────────────────────

/-- The constant of a program's id. -/
def programWords (program address : String) : Code :=
  docLine s!" `{program}` program id."
    ++ ["pub", "const", (Name.constant program "_ID").text]
    ++ code ": solana_pubkey :: Pubkey = solana_pubkey :: Pubkey :: from_str_const"
    ++ group [stringLiteral address] ++ [";"]

/-- An error of a program. -/
def errorWords (error : ProgramError) : Code :=
  let hex := String.ofList (Nat.toDigits 16 error.code.toNat)
  docLine s!" {error.code} (0x{hex}) - {error.message}"
    ++ code "# [ error" ++ group [stringLiteral error.message] ++ ["]"]
    ++ [(Name.type error.name).text, "=", number error.code.toNat]

/-- The errors of a program. -/
def errorsWords (name : Name) (errors : List ProgramError) : Code :=
  code "# [ derive ( Clone , Copy , Debug , Eq , PartialEq , thiserror :: Error ) ] # [ repr ( u32 ) ]"
    ++ ["pub", "enum", name.text] ++ block (commas (errors.map errorWords))
    ++ ["impl", "From", "<", name.text, ">", "for", "u32"]
    ++ block (code "fn from" ++ group ["error", ":", name.text] ++ code "-> Self"
      ++ block (code "error as u32"))

/-- The declaration of a module in an index. -/
def childWords (reexported : Bool) (child : String) : Code :=
  let name := (Name.of child).text
  ["pub", "mod", name, ";"]
    ++ if reexported then ["pub", "use", "self", "::", name, "::", "*", ";"] else []

/-- The words of a module. -/
def Module.words (mount : ModulePath) : Module → Code
  | .programs program address => programWords program address
  | .account module => module.words mount
  | .instruction module => module.words mount
  | .errors name declared => errorsWords name declared
  | .type declaration => declaration.words mount
  | .index children reexported => children.flatMap (childWords reexported)

end Bindery.Crate
