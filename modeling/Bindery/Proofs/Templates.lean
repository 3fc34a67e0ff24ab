import Bindery.Proofs.Bindings

/-! # Templates of call builders

    A template is code that leaves the locals of inputs open: wherever it takes the
    local of an input, it names the input and not the identifier.  With the
    identifiers filled in, the template of a builder is the function that is printed
    (`functionWords_infix`, `functionText_suffix`); what it reads can be told from
    the template alone, also where two inputs are called alike.  A template binds the
    inputs of an instruction when each has one local, no value reads a local that
    is not bound yet, and the call is made from locals (`BuilderTemplate.Binds`).
    All builders are printed from such templates (`builders_bind_inputs`). -/

namespace Bindery

-- ── templates ────────────────────────────────────────────────────────────────────

/-- A piece of a template: code as it stands, or the local of an input. -/
inductive Template.Piece (C : Type) where
  | code (written : C)
  | read (input : Input)

/-- Code that leaves open what the locals of inputs are called. -/
abbrev Template (C : Type) := List (Template.Piece C)

namespace Template

variable {C : Type}

/-- The inputs whose locals a template reads. -/
def reads (template : Template C) : List Input :=
  template.filterMap fun
    | .code _ => none
    | .read input => some input

/-- The pieces of the code when locals are called by these names. -/
def filled (called : Input → C) (template : Template C) : List C :=
  template.map fun
    | .code written => written
    | .read input => called input

/-- Templates with code between each two of them. -/
def separated (separator : C) : List (Template C) → Template C
  | [] => []
  | [template] => template
  | template :: rest => template ++ .code separator :: separated separator rest

/-- A template takes the local of an input and no other. -/
def Takes (template : Template C) (input : Input) : Prop :=
  input ∈ template.reads ∧ ∀ read ∈ template.reads, read = input

/-- The local of an input by itself takes that input. -/
theorem Takes.self {input : Input} : Takes ([.read input] : Template C) input :=
  ⟨List.mem_singleton_self input, fun _ hread => List.mem_singleton.mp hread⟩

@[simp] theorem reads_nil : reads ([] : Template C) = [] := rfl

@[simp] theorem reads_code {written : C} {template : Template C} :
    reads (.code written :: template) = reads template := rfl

@[simp] theorem reads_read {input : Input} {template : Template C} :
    reads (.read input :: template) = input :: reads template := rfl

@[simp] theorem reads_append {template behind : Template C} :
    reads (template ++ behind) = reads template ++ reads behind := List.filterMap_append

/-- What stands between templates reads nothing. -/
@[simp] theorem reads_separated {separator : C} : ∀ {templates : List (Template C)},
    reads (separated separator templates) = templates.flatMap reads := by
  intro templates
  induction templates with
  | nil => rfl
  | cons template rest ih =>
      cases rest with
      | nil => exact (List.append_nil _).symm
      | cons next rest =>
          show reads (template ++ .code separator :: separated separator (next :: rest)) = _
          rw [reads_append, reads_code, ih, ← List.flatMap_cons]

end Template

/-- The code of a builder with the locals of inputs left open: the locals in order, each with its
    value, then the entries of the list of accounts and those of the struct of arguments. -/
structure BuilderTemplate (C : Type) where
  locals : List (Input × Template C)
  accounts : List (Template C)
  arguments : List (Template C)

namespace BuilderTemplate

variable {C : Type}

/-- The inputs that have locals. -/
def bound (template : BuilderTemplate C) : List Input := template.locals.map Prod.fst

/-- A template has the locals of bindings, in their order, and each value reads what the origin of
    its binding reads. -/
def Follows (template : BuilderTemplate C) (bindings : List Binding) : Prop :=
  List.Forall₂ (fun binding (input, value) =>
    input = binding.input ∧ value.reads = binding.origin.reads) bindings template.locals

/-- A template binds the inputs of an instruction: each has one local, those that the caller
    supplies or leaves out in front of those with defaults; a value reads only what is bound in
    front of it; the accounts of the call are listed in order, each from its own local, and so are
    the arguments, and what they read is bound. -/
structure Binds (template : BuilderTemplate C) (instruction : Instruction) : Prop where
  once : template.bound.Perm instruction.inputs ∧ template.bound.Nodup
  groups : ∃ defaulted, template.bound = (Signature.of instruction).required.map (·.input)
      ++ (Signature.of instruction).optional.map (·.input) ++ defaulted
    ∧ defaulted.Perm ((Signature.of instruction).defaulted.map (·.input))
  earlier : ∀ before input value behind, template.locals = before ++ (input, value) :: behind →
    ∀ read ∈ value.reads, read ∈ before.map Prod.fst
  accounts : List.Forall₂ (fun account entry => entry.Takes (.account account.name))
    instruction.accounts template.accounts
  arguments : List.Forall₂ (fun argument entry => entry.Takes (.argument argument.name))
    instruction.arguments template.arguments
  call : ∀ entry ∈ template.accounts ++ template.arguments, ∀ read ∈ entry.reads,
    read ∈ template.bound

variable {template : BuilderTemplate C} {program : Program} {instruction : Instruction}
  {bindings : List Binding}

/-- What an entry takes that is bound is all that it reads. -/
theorem bound_of_takes {α : Type} {items : List α} {entries : List (Template C)} {input : α → Input}
    (h : List.Forall₂ (fun item entry => entry.Takes (input item)) items entries)
    (hbound : ∀ item ∈ items, input item ∈ template.bound) :
    ∀ entry ∈ entries, ∀ read ∈ entry.reads, read ∈ template.bound := by
  intro entry hentry read hread
  obtain ⟨item, hitem, -, honly⟩ := exists_of_forall₂_right h hentry
  exact honly read hread ▸ hbound item hitem

/-- Locals that follow bindings are for their inputs. -/
theorem Follows.bound_eq (h : template.Follows bindings) :
    template.bound = bindings.map (·.input) := by
  have heq : List.Forall₂ (· = ·) (bindings.map (·.input)) template.bound :=
    List.forall₂_map_left_iff.mpr
      (List.forall₂_map_right_iff.mpr (h.imp fun _ _ hpair => hpair.1.symm))
  rw [List.forall₂_eq_eq_eq] at heq
  exact heq.symm

/-- **FROM BINDINGS TO TEMPLATES**: locals that follow bindings that are in turn bind the inputs of
    the instruction. -/
theorem binds_of_boundBy (h : instruction.BoundBy program bindings)
    (hfollows : template.Follows bindings)
    (haccounts : List.Forall₂ (fun account entry => entry.Takes (.account account.name))
      instruction.accounts template.accounts)
    (harguments : List.Forall₂ (fun argument entry => entry.Takes (.argument argument.name))
      instruction.arguments template.arguments) :
    template.Binds instruction := by
  have hbound := hfollows.bound_eq
  refine ⟨hbound ▸ h.once, ?groups, ?earlier, haccounts, harguments, ?call⟩
  case groups =>
    obtain ⟨defaults, rfl, -⟩ := h.order
    have hsplit : ((Signature.of instruction).supplied ++ defaults).map (·.input)
        = (Signature.of instruction).required.map (·.input)
          ++ (Signature.of instruction).optional.map (·.input) ++ defaults.map (·.input) := by
      rw [List.map_append, Signature.input_supplied, List.map_append]
    refine ⟨defaults.map (·.input), hbound.trans hsplit, ?_⟩
    -- the groups are the inputs in another order, and the first two are the same
    have hperm := h.once.1.trans Signature.perm_inputs.symm
    rw [hsplit, List.map_append, List.map_append] at hperm
    exact (List.perm_append_left_iff _).mp hperm
  case earlier =>
    intro before input value behind hsplit read hread
    unfold Follows at hfollows
    rw [hsplit] at hfollows
    -- the bindings are split where the locals are
    have hfront := List.forall₂_take_append _ _ _ hfollows
    obtain ⟨binding, rest, ⟨-, hreads⟩, -, hback⟩ :=
      List.forall₂_cons_right_iff.mp (List.forall₂_drop_append _ _ _ hfollows)
    have hinputs : before.map Prod.fst = (bindings.take before.length).map (·.input) :=
      @Follows.bound_eq _ ⟨before, [], []⟩ _ hfront
    have hbindings : bindings = bindings.take before.length ++ binding :: rest := by
      rw [← hback, List.take_append_drop]
    rw [hinputs]
    exact h.earlier _ binding rest hbindings read (hreads ▸ hread)
  case call =>
    intro entry hentry
    rcases List.mem_append.mp hentry with hentry | hentry
    · exact bound_of_takes haccounts (fun account hmem => hbound ▸ h.accounts account hmem)
        entry hentry
    · exact bound_of_takes harguments (fun argument hmem => hbound ▸ h.arguments argument hmem)
        entry hentry

end BuilderTemplate

-- ── among words ──────────────────────────────────────────────────────────────────

section Infix

variable {words inner : Crate.Code}

/-- What is among words is among them with more in front. -/
theorem infix_behind (front : Crate.Code) (h : words <:+: inner) : words <:+: front ++ inner :=
  h.trans (List.suffix_append front inner).isInfix

/-- What is among words is among them with more behind. -/
theorem infix_before (back : Crate.Code) (h : words <:+: inner) : words <:+: inner ++ back :=
  h.trans (List.prefix_append inner back).isInfix

/-- What words end with is among them. -/
theorem infix_end (front middle back : Crate.Code) :
    middle ++ back <:+: front ++ middle ++ back :=
  ⟨front, [], by rw [List.append_nil, ← List.append_assoc]⟩

/-- What is among words is among them in braces. -/
theorem infix_block (h : words <:+: inner) : words <:+: Crate.Code.block inner :=
  infix_before _ (infix_behind ["\x7b"] h)

/-- What is among words is among them in round brackets. -/
theorem infix_group (h : words <:+: inner) : words <:+: Crate.Code.group inner :=
  infix_before _ (infix_behind ["("] h)

end Infix

-- ── the builder of a crate ───────────────────────────────────────────────────────

namespace Crate.InstructionModule

open Code

section Templates

variable (mount : ModulePath) (module : InstructionModule)

/-- What a seed's parameter is given. -/
def seedTemplate (seed : VariableSeed) (input : Input) : Template Code :=
  match seed.type with
  | .number _ | .boolean => [.read input]
  | _ => [.code ["&"], .read input]

/-- An expression.  The recipe of a derived address is looked up in the module of its account. -/
def expressionTemplate (input : Input) : Expression → Template Code
  | .derived owner seeds =>
    [.code (modulePath mount module.programId.program
        ++ ["::", "accounts", "::", (Name.type owner).text] ++ code ":: find_pda"
        ++ ["(", "&"] ++ module.programId.words mount ++ [","])]
      ++ Template.separated [","] (seeds.map fun (seed, input) => seedTemplate seed input)
      ++ [.code ([")"] ++ code ". 0")]
  | .account name => [.read (.account name)]
  | .argument name => [.read (.argument name), .code (code ". clone ( )")]
  | .absent => [.code ["None"]]
  | .programId => [.code (module.programId.words mount)]
  | .literal value => [.code (literalWords (module.instruction.inputType input) value)]

/-- The value of a local.  What the caller has supplied is in a field of the builder. -/
def originTemplate (input : Input) : Origin → Template Code
  | .required => [.code (module.held input)]
  | .optional => [.code ["self", ".", (module.nameOf input).text]]
  | .default .absent =>
    match input with
    | .account _ => [.code (module.held input)]
    | .argument _ => [.code (module.held input ++ code ". unwrap_or ( None )")]
  | .default expression =>
    let value := expressionTemplate mount module input expression
    if module.isOptional input then
      let method := match input with
        | .account _ => "or_else"
        | .argument _ => "unwrap_or_else"
      [.code (module.held input ++ [".", method, "(", "||", "Some", "("])] ++ value
        ++ [.code [")", ")"]]
    else [.code (module.held input ++ code ". unwrap_or_else" ++ ["(", "||"])] ++ value
      ++ [.code [")"]]

/-- The builder of a module. -/
def template : BuilderTemplate Code where
  locals := module.bindings.map fun binding =>
    (binding.input, originTemplate mount module binding.input binding.origin)
  accounts := module.instruction.accounts.map fun account => [.read (.account account.name)]
  arguments := module.instruction.arguments.map fun argument =>
    [.read (.argument argument.name)]

/-- The words of a template under the identifiers of the module. -/
def spelled (template : Template Code) : Code :=
  (template.filled fun input => [(module.nameOf input).text]).flatten

/-- The function of a builder that makes the call: a statement for each local, then the struct of
    the accounts, of which the call is asked for, and in it the struct of the arguments. -/
def functionWords (template : BuilderTemplate Code) : Code :=
  code "pub fn instruction ( & self ) -> std :: io :: Result < solana_instruction :: Instruction >"
    ++ block (template.locals.flatMap (fun (input, value) =>
        ["let", (module.nameOf input).text, "="] ++ module.spelled value ++ [";"])
      ++ [module.name.text] ++ block (commas (template.accounts.map module.spelled))
      ++ code ". instruction"
      ++ group (["&", module.argumentsName.text]
        ++ block (commas (template.arguments.map module.spelled))))

end Templates

variable {mount : ModulePath} {module : InstructionModule} {input : Input} {origin : Origin}
  {expression : Expression}

@[simp] theorem spelled_nil : module.spelled [] = [] := rfl

@[simp] theorem spelled_code {written : Code} {template : Template Code} :
    module.spelled (.code written :: template) = written ++ module.spelled template := rfl

@[simp] theorem spelled_read {template : Template Code} :
    module.spelled (.read input :: template)
      = (module.nameOf input).text :: module.spelled template :=
  rfl

@[simp] theorem spelled_append {template behind : Template Code} :
    module.spelled (template ++ behind) = module.spelled template ++ module.spelled behind := by
  rw [spelled, Template.filled, List.map_append, List.flatten_append]
  rfl

/-- Templates with commas are spelled with commas. -/
@[simp] theorem spelled_separated : ∀ {templates : List (Template Code)},
    module.spelled (Template.separated [","] templates)
      = commas (templates.map module.spelled) := by
  intro templates
  induction templates with
  | nil => rfl
  | cons template rest ih =>
      cases rest with
      | nil => rfl
      | cons next rest =>
          show module.spelled
            (template ++ .code [","] :: Template.separated [","] (next :: rest)) = _
          rw [spelled_append, spelled_code, ih]
          rfl

/-- A seed's parameter is given the local. -/
theorem spelled_seed {seed : VariableSeed} :
    module.spelled (seedTemplate seed input) = module.seedArgument seed input := by
  unfold seedTemplate seedArgument
  cases seed.type <;> rfl

/-- An expression is printed from its template, -/
theorem spelled_expression :
    module.spelled (expressionTemplate mount module input expression)
      = module.expressionWords mount input expression := by
  cases expression with
  | derived owner seeds =>
      have hseeds : (seeds.map fun (seed, input) => seedTemplate seed input).map module.spelled
          = seeds.map fun (seed, input) => module.seedArgument seed input := by
        rw [List.map_map]
        exact List.map_congr_left fun _ _ => spelled_seed
      simp only [expressionTemplate, expressionWords, group, spelled_append, spelled_code,
        spelled_nil, spelled_separated, hseeds, List.append_assoc, List.cons_append,
        List.nil_append, List.append_nil]
  | literal value => exact List.append_nil _
  | programId => exact List.append_nil _
  | _ => rfl

/-- and so is the value of a local. -/
theorem spelled_origin :
    module.spelled (originTemplate mount module input origin)
      = module.originWords mount input origin := by
  cases origin with
  | required => exact List.append_nil _
  | optional => rfl
  | default expression =>
      cases expression with
      | absent => cases input <;> exact List.append_nil _
      | _ =>
          simp only [originTemplate, originWords]
          split
          · cases input <;> simp only [group, spelled_append, spelled_code, spelled_nil,
              spelled_expression, List.append_assoc, List.cons_append, List.nil_append]
          · simp only [group, spelled_append, spelled_code, spelled_nil, spelled_expression,
              List.append_assoc, List.cons_append, List.nil_append]

/-- What is taken is what the origin of the local reads. -/
theorem reads_expressionTemplate :
    (expressionTemplate mount module input expression).reads = expression.reads := by
  cases expression with
  | derived owner seeds =>
      have hseed : ∀ pair : VariableSeed × Input,
          (seedTemplate pair.1 pair.2).reads = [pair.2] := by
        intro pair
        unfold seedTemplate
        cases pair.1.type <;> rfl
      simp only [expressionTemplate, Template.reads_append, Template.reads_code, Template.reads_nil,
        Template.reads_separated, List.flatMap_map, hseed, List.nil_append, List.append_nil]
      exact List.map_eq_flatMap.symm
  | _ => rfl

theorem reads_originTemplate : (originTemplate mount module input origin).reads = origin.reads := by
  cases origin with
  | default expression =>
      cases expression with
      | absent => cases input <;> rfl
      | _ =>
          simp only [originTemplate, Origin.reads]
          split <;> simp only [Template.reads_append, Template.reads_code, Template.reads_nil,
            reads_expressionTemplate, List.nil_append, List.append_nil]
  | _ => rfl

/-- **PRINTED FROM A TEMPLATE**: the function of the template is among the words of the module. -/
theorem functionWords_infix (mount : ModulePath) (module : InstructionModule) :
    module.functionWords (module.template mount) <:+: module.words mount := by
  have hlocals : (module.template mount).locals.flatMap (fun (input, value) =>
        ["let", (module.nameOf input).text, "="] ++ module.spelled value ++ [";"])
      = module.bindings.flatMap (module.bindingWords mount) := by
    rw [template, List.flatMap_map]
    refine List.flatMap_congr fun binding _ => ?_
    show _ ++ module.spelled (originTemplate mount module binding.input binding.origin) ++ _ = _
    rw [spelled_origin, bindingWords]
  have haccounts : (module.template mount).accounts.map module.spelled
      = module.instruction.accounts.map fun a => [(module.nameOf (.account a.name)).text] :=
    List.map_map
  have harguments : (module.template mount).arguments.map module.spelled
      = module.instruction.arguments.map fun a => [(module.nameOf (.argument a.name)).text] :=
    List.map_map
  rw [functionWords, hlocals, haccounts, harguments]
  exact infix_behind _ (infix_behind _ (infix_block (infix_end _ _ _)))

/-- The template of a module follows its bindings, -/
theorem follows_template : (module.template mount).Follows module.bindings :=
  List.forall₂_map_right_iff.mpr (List.forall₂_same.mpr fun _ _ => ⟨rfl, reads_originTemplate⟩)

/-- and binds what they bind. -/
theorem binds_template {program : Program}
    (h : module.instruction.BoundBy program module.bindings) :
    (module.template mount).Binds module.instruction := by
  refine BuilderTemplate.binds_of_boundBy h follows_template ?_ ?_
  · exact List.forall₂_map_right_iff.mpr (List.forall₂_same.mpr fun _ _ => .self)
  · exact List.forall₂_map_right_iff.mpr (List.forall₂_same.mpr fun _ _ => .self)

end Crate.InstructionModule

-- ── the builder of a package ─────────────────────────────────────────────────────

namespace Package.Source

/-- The text of pieces put together is their texts put together, -/
theorem text_append {piece behind : Source} : (piece ++ behind).text = piece.text ++ behind.text :=
  rfl

/-- also where several are joined, -/
theorem text_join {pieces : List Source} :
    (join pieces).text = String.join (pieces.map (·.text)) := by
  induction pieces with
  | nil => rfl
  | cons piece pieces ih =>
      rw [List.map_cons, String.join_cons, ← ih]
      rfl

/-- with a text in between. -/
theorem text_intercalate {separator : String} {pieces : List Source} :
    (intercalate separator pieces).text = separator.intercalate (pieces.map (·.text)) := by
  induction pieces with
  | nil => rfl
  | cons piece rest ih =>
      cases rest with
      | nil => exact String.intercalate_singleton.symm
      | cons next rest =>
          rw [List.map_cons, List.map_cons, String.intercalate_cons_cons, ← List.map_cons, ← ih]
          rfl

end Package.Source

namespace Package.InstructionModule

section Templates

variable (module : InstructionModule)

/-- A template in braces. -/
def bracedTemplate (template : Template String) : Template String :=
  [.code "\x7b "] ++ template ++ [.code " \x7d"]

/-- A seed's member of the object that a derivation is given. -/
def seedTemplate (seed : VariableSeed) (input : Input) : Template String :=
  [.code (Text.camelCase seed.name ++ ": "), .read input]

/-- An expression.  The address of the program is a parameter of the builder. -/
def expressionTemplate (input : Input) : Expression → Template String
  | .derived owner seeds =>
    [.code ("(await " ++ finderName owner ++ "(")]
      ++ bracedTemplate (Template.separated ", "
        (seeds.map fun (seed, input) => seedTemplate seed input))
      ++ [.code ", programAddress))[0]"]
  | .account name => [.read (.account name)]
  | .argument name => [.read (.argument name)]
  | .absent => []
  | .programId => [.code "programAddress"]
  | .literal value => [.code (literalSource (module.instruction.inputType input) value).text]

/-- The value of a local.  What the caller has supplied is a member of the input object. -/
def originTemplate (input : Input) (origin : Origin) : Template String :=
  let given : String := "input." ++ module.keyOf input
  match origin with
  | .required => [.code given]
  | .optional => [.code given]
  | .default .absent =>
    if module.wrapsOption input then [.code (given ++ " ?? " ++ (kit "none").text ++ "()")]
    else [.code given]
  | .default expression =>
    let value := expressionTemplate module input expression
    if module.wrapsOption input then
      [.code (given ++ " ?? " ++ (kit "some").text ++ "(")] ++ value ++ [.code ")"]
    else [.code (given ++ " ?? ")] ++ value

/-- The entry of an account.  One that may be left out is compared first. -/
def accountTemplate (account : InstructionAccount) : Template String :=
  let input : Input := .account account.name
  let entry := bracedTemplate [.code "address: ", .read input,
    .code (", role: " ++ (kit "AccountRole").text ++ "." ++ roleName account)]
  if account.isOptional then
    [.read input, .code (" === undefined\n        ? "
      ++ (accountMeta "programAddress" "READONLY").text ++ "\n        : ")] ++ entry
  else entry

/-- The member of an argument.  Where key and local are the same, it is written once. -/
def argumentTemplate (argument : InstructionArgument) : Template String :=
  let key := Text.camelCase argument.name
  if key = module.keyOf (.argument argument.name) then [.read (.argument argument.name)]
  else [.code (key ++ ": "), .read (.argument argument.name)]

/-- The builder of a module. -/
def template : BuilderTemplate String where
  locals := module.bindings.map fun binding =>
    (binding.input, originTemplate module binding.input binding.origin)
  accounts := module.instruction.accounts.map accountTemplate
  arguments := module.instruction.arguments.map (argumentTemplate module)

/-- The text of a template under the keys of the module. -/
def spelled (template : Template String) : String := String.join (template.filled module.keyOf)

/-- The builder: a statement for each local, then the call with the list of the accounts, and with
    the object of the arguments in its data. -/
def functionText (template : BuilderTemplate String) : String :=
  "export async function get" ++ module.name ++ "Instruction(\n  input: " ++ module.name
    ++ "Input,\n" ++ (programParameter module.programAddress).text
    ++ "): Promise<" ++ (kit "Instruction").text ++ "> \x7b\n"
    ++ String.join (template.locals.map fun (input, value) =>
      "  const " ++ module.keyOf input ++ " = " ++ module.spelled value ++ ";\n")
    ++ "  return \x7b\n    programAddress,\n    accounts: [\n"
    ++ String.join (template.accounts.map fun entry => "      " ++ module.spelled entry ++ ",\n")
    ++ "    ],\n    data: " ++ (kit "mergeBytes").text ++ "([" ++ dataStart module.instruction
    ++ Codec.functionName module.codecName ++ "().encode("
    ++ module.spelled (bracedTemplate (Template.separated ", " template.arguments))
    ++ ")]),\n  \x7d;\n\x7d\n"

end Templates

variable {module : InstructionModule} {input : Input} {origin : Origin} {expression : Expression}

@[simp] theorem spelled_nil : module.spelled [] = "" := rfl

@[simp] theorem spelled_code {written : String} {template : Template String} :
    module.spelled (.code written :: template) = written ++ module.spelled template :=
  String.join_cons

@[simp] theorem spelled_read {template : Template String} :
    module.spelled (.read input :: template) = module.keyOf input ++ module.spelled template :=
  String.join_cons

@[simp] theorem spelled_append {template behind : Template String} :
    module.spelled (template ++ behind) = module.spelled template ++ module.spelled behind := by
  rw [spelled, Template.filled, List.map_append, String.join_append]
  rfl

/-- Templates with commas are spelled with commas. -/
@[simp] theorem spelled_separated : ∀ {templates : List (Template String)},
    module.spelled (Template.separated ", " templates)
      = ", ".intercalate (templates.map module.spelled) := by
  intro templates
  induction templates with
  | nil => rfl
  | cons template rest ih =>
      cases rest with
      | nil => exact String.intercalate_singleton.symm
      | cons next rest =>
          show module.spelled (template ++ .code ", " :: Template.separated ", " (next :: rest)) = _
          rw [spelled_append, spelled_code, ih, List.map_cons, List.map_cons, List.map_cons,
            String.intercalate_cons_cons, String.append_assoc]

/-- Templates in braces are spelled in braces. -/
@[simp] theorem spelled_braced {template : Template String} :
    module.spelled (bracedTemplate template)
      = (braced (module.spelled template : String)).text := by
  rw [bracedTemplate, spelled_append, spelled_append, spelled_code, spelled_code]
  rfl

/-- A seed's member is printed from its template, -/
theorem spelled_seed {seed : VariableSeed} :
    module.spelled (seedTemplate seed input)
      = Text.camelCase seed.name ++ ": " ++ module.keyOf input :=
  spelled_code.trans (congrArg _ (spelled_read.trans String.append_empty))

/-- an expression, -/
theorem spelled_expression :
    module.spelled (expressionTemplate module input expression)
      = (module.expressionSource input expression).text := by
  cases expression with
  | derived owner seeds =>
      have hseeds : (seeds.map fun (seed, input) => seedTemplate seed input).map module.spelled
          = (seeds.map fun (seed, input) => ((Text.camelCase seed.name ++ ": "
              ++ module.keyOf input : String) : Source)).map (·.text) := by
        rw [List.map_map, List.map_map]
        exact List.map_congr_left fun _ _ => spelled_seed
      simp only [expressionTemplate, expressionSource, braced, Source.imported, spelled_append,
        spelled_code, spelled_nil, spelled_braced, spelled_separated, hseeds, Source.text_append,
        Source.text_intercalate, String.append_assoc, String.append_empty]
  | absent => rfl
  | _ => exact spelled_code.trans String.append_empty

/-- the value of a local, -/
theorem spelled_origin :
    module.spelled (originTemplate module input origin)
      = (module.originSource input origin).text := by
  cases origin with
  | default expression =>
      cases expression with
      | absent =>
          simp only [originTemplate, originSource]
          split <;> exact spelled_code.trans String.append_empty
      | _ =>
          simp only [originTemplate, originSource]
          split <;> simp only [spelled_append, spelled_code, spelled_nil, spelled_expression,
            Source.text_append, String.append_assoc, String.append_empty]
  | _ => exact spelled_code.trans String.append_empty

/-- the entry of an account, -/
theorem spelled_account {account : InstructionAccount} :
    "      " ++ module.spelled (accountTemplate account) ++ ",\n"
      = (accountSource account).text := by
  have hkey : module.keyOf (.account account.name) = Text.camelCase account.name := rfl
  simp only [accountTemplate, accountSource]
  split <;> simp only [accountMeta, braced, spelled_append, spelled_code, spelled_read,
    spelled_nil, spelled_braced, hkey, Source.text_append, String.append_assoc,
    String.append_empty]

/-- and the member of an argument. -/
theorem spelled_argument {argument : InstructionArgument} :
    module.spelled (argumentTemplate module argument) = module.argumentMember argument := by
  simp only [argumentTemplate, argumentMember]
  split
  · next heq => rw [spelled_read, spelled_nil, heq, String.append_empty]
  · rw [spelled_code, spelled_read, spelled_nil, String.append_empty, String.append_assoc]

/-- What a value takes is what its origin reads. -/
theorem reads_expressionTemplate :
    (expressionTemplate module input expression).reads = expression.reads := by
  cases expression with
  | derived owner seeds =>
      have hseed : ∀ pair : VariableSeed × Input, (seedTemplate pair.1 pair.2).reads = [pair.2] :=
        fun _ => rfl
      simp only [expressionTemplate, bracedTemplate, Template.reads_append, Template.reads_code,
        Template.reads_nil, Template.reads_separated, List.flatMap_map, hseed, List.nil_append,
        List.append_nil]
      exact List.map_eq_flatMap.symm
  | _ => rfl

theorem reads_originTemplate : (originTemplate module input origin).reads = origin.reads := by
  cases origin with
  | default expression =>
      cases expression with
      | absent =>
          simp only [originTemplate]
          split <;> rfl
      | _ =>
          simp only [originTemplate, Origin.reads]
          split <;> simp only [Template.reads_append, Template.reads_code, Template.reads_nil,
            reads_expressionTemplate, List.nil_append, List.append_nil]
  | _ => rfl

/-- The source of a module ends with its builder, -/
theorem source_suffix (module : InstructionModule) : ∃ front,
    module.source.text = front ++ module.builder.text := by
  exact ⟨_, rfl⟩

/-- and so does its text. -/
theorem text_suffix (source : Source) : ∃ front, source.module = front ++ source.text :=
  ⟨_, rfl⟩

/-- **PRINTED FROM A TEMPLATE**: the text of the module ends with the builder of the template. -/
theorem functionText_suffix (module : InstructionModule) : ∃ front,
    (Module.instruction module).text = front ++ module.functionText module.template := by
  have hlocals : module.template.locals.map (fun (input, value) =>
        "  const " ++ module.keyOf input ++ " = " ++ module.spelled value ++ ";\n")
      = (module.bindings.map module.bindingSource).map (·.text) := by
    rw [template, List.map_map, List.map_map]
    refine List.map_congr_left fun binding _ => ?_
    show _ ++ module.spelled (originTemplate module binding.input binding.origin) ++ _ = _
    rw [spelled_origin]
    rfl
  have haccounts : module.template.accounts.map (fun entry =>
        "      " ++ module.spelled entry ++ ",\n")
      = (module.instruction.accounts.map accountSource).map (·.text) := by
    rw [template, List.map_map, List.map_map]
    exact List.map_congr_left fun _ _ => spelled_account
  have harguments : module.template.arguments.map module.spelled
      = module.instruction.arguments.map module.argumentMember := by
    rw [template, List.map_map]
    exact List.map_congr_left fun _ _ => spelled_argument
  have hbuilder : module.builder.text = module.functionText module.template := by
    unfold functionText builder
    rw [hlocals, haccounts, spelled_braced, spelled_separated, harguments]
    simp only [Source.text_append, Source.text_join]
  obtain ⟨imports, htext⟩ := text_suffix module.source
  obtain ⟨before, hsource⟩ := source_suffix module
  rw [hsource, hbuilder, ← String.append_assoc] at htext
  exact ⟨_, htext⟩

/-- The entry of an account takes its local, -/
theorem takes_account {account : InstructionAccount} :
    (accountTemplate account).Takes (.account account.name) := by
  simp only [accountTemplate]
  split <;> simp [Template.Takes, bracedTemplate]

/-- the member of an argument its own, -/
theorem takes_argument {argument : InstructionArgument} :
    (argumentTemplate module argument).Takes (.argument argument.name) := by
  simp only [argumentTemplate]
  split <;> simp [Template.Takes]

/-- the template of a module follows its bindings, -/
theorem follows_template : module.template.Follows module.bindings :=
  List.forall₂_map_right_iff.mpr (List.forall₂_same.mpr fun _ _ => ⟨rfl, reads_originTemplate⟩)

/-- and binds what they bind. -/
theorem binds_template {program : Program}
    (h : module.instruction.BoundBy program module.bindings) :
    module.template.Binds module.instruction := by
  refine BuilderTemplate.binds_of_boundBy h follows_template ?_ ?_
  · exact List.forall₂_map_right_iff.mpr (List.forall₂_same.mpr fun _ _ => takes_account)
  · exact List.forall₂_map_right_iff.mpr (List.forall₂_same.mpr fun _ _ => takes_argument)

end Package.InstructionModule

-- ── builders ─────────────────────────────────────────────────────────────────────

/-- **A BUILDER BINDS ITS INPUTS**: whenever a crate or a package has a module for an instruction
    with distinct names, its bindings are for the inputs of the instruction, and the builder that
    is printed in the module is a template under the names of that target which follows them: it
    binds every account and every argument once, those with defaults behind the others, each
    default behind all that it reads, and makes the call from what is bound. -/
theorem builders_bind_inputs {nested : Bool} {program : Program} {instruction : Instruction}
    (hd : instruction.Distinct) :
    (∀ module, Crate.InstructionModule.of nested program instruction = .ok module →
      module.instruction = instruction ∧ instruction.BoundBy program module.bindings
        ∧ ∀ mount, (module.template mount).Follows module.bindings
          ∧ (module.template mount).Binds instruction
          ∧ module.functionWords (module.template mount)
            <:+: (Crate.Module.instruction module).words mount)
    ∧ (∀ module, Package.InstructionModule.of nested program instruction = .ok module →
      module.instruction = instruction ∧ instruction.BoundBy program module.bindings
        ∧ module.template.Follows module.bindings ∧ module.template.Binds instruction
        ∧ ∃ front, (Package.Module.instruction module).text
            = front ++ module.functionText module.template) := by
  constructor
  · intro module h
    obtain ⟨types, -, h⟩ := bind_eq_ok.mp h
    obtain ⟨bindings, hbindings, h⟩ := bind_eq_ok.mp h
    obtain rfl := pure_eq_ok.mp h
    have hbound := boundBy_of_bindings hd hbindings
    exact ⟨rfl, hbound, fun mount => ⟨Crate.InstructionModule.follows_template,
      Crate.InstructionModule.binds_template hbound,
      Crate.InstructionModule.functionWords_infix mount _⟩⟩
  · intro module h
    obtain ⟨fields, -, h⟩ := bind_eq_ok.mp h
    obtain ⟨bindings, hbindings, h⟩ := bind_eq_ok.mp h
    obtain rfl := pure_eq_ok.mp h
    have hbound := boundBy_of_bindings hd hbindings
    exact ⟨rfl, hbound, Package.InstructionModule.follows_template,
      Package.InstructionModule.binds_template hbound,
      Package.InstructionModule.functionText_suffix _⟩

/-- An instruction whose first account has a derived address that is worked out last: from an
    account with a default and from an argument named like an account. -/
def deposit : Instruction where
  name := "deposit"
  docs := []
  accounts := [
    ⟨"vault", true, false, false, [],
      some (.pda "Vault" [⟨"side", .argument "payer"⟩, ⟨"owner", .account "owner"⟩])⟩,
    ⟨"owner", false, true, false, [], some (.account "payer")⟩,
    ⟨"payer", true, true, false, [], none⟩,
    ⟨"guest", false, false, true, [], none⟩]
  arguments := [⟨"payer", .number .u8, [], some (.literal (.number 1))⟩,
    ⟨"amount", .number .u64, [], none⟩]
  discriminator := none

/-- A program with the deposit and the recipe of its vault. -/
def depositProgram : Program :=
  let recipe : List Seed := [.constant (.utf8 "vault"), .variable ⟨"owner", .publicKey, []⟩,
    .variable ⟨"side", .number .u8, []⟩]
  { name := "bank", publicKey := "B", version := "", docs := []
    accounts := [⟨"Vault", [], [], none, some recipe⟩]
    instructions := [deposit], definedTypes := [], errors := [] }

/-- The locals of the deposit: the first account comes last. -/
def depositLocals : List Input := [.account "payer", .argument "amount", .account "guest",
  .account "owner", .argument "payer", .account "vault"]

theorem builders_bind_inputs_deposit : deposit.Distinct ∧ ∃ crate package front,
    Crate.InstructionModule.of false depositProgram deposit = .ok crate
      ∧ Package.InstructionModule.of false depositProgram deposit = .ok package
      ∧ crate.instruction = deposit ∧ deposit.BoundBy depositProgram crate.bindings
      ∧ (crate.template .standard).Binds deposit ∧ (crate.template .standard).bound = depositLocals
      ∧ crate.functionWords (crate.template .standard)
        <:+: (Crate.Module.instruction crate).words .standard
      ∧ package.instruction = deposit ∧ deposit.BoundBy depositProgram package.bindings
      ∧ package.template.Binds deposit ∧ package.template.bound = depositLocals
      ∧ (Package.Module.instruction package).text
        = front ++ package.functionText package.template := by
  have hd : deposit.Distinct := ⟨by decide, by decide⟩
  obtain ⟨crate, hcrate, hlocals⟩ : ∃ module,
      Crate.InstructionModule.of false depositProgram deposit = .ok module
        ∧ decide ((module.template .standard).bound = depositLocals) = true :=
    exists_ok_of_any (by decide +kernel)
  obtain ⟨package, hpackage, hlocals'⟩ : ∃ module,
      Package.InstructionModule.of false depositProgram deposit = .ok module
        ∧ decide (module.template.bound = depositLocals) = true :=
    exists_ok_of_any (by decide +kernel)
  obtain ⟨hinstruction, hbound, hcrate'⟩ := (builders_bind_inputs hd).1 crate hcrate
  obtain ⟨-, hbinds, hinfix⟩ := hcrate' .standard
  obtain ⟨hinstruction', hbound', -, hbinds', front, htext⟩ :=
    (builders_bind_inputs hd).2 package hpackage
  exact ⟨hd, crate, package, front, hcrate, hpackage, hinstruction, hbound, hbinds,
    of_decide_eq_true hlocals, hinfix, hinstruction', hbound', hbinds',
    of_decide_eq_true hlocals', htext⟩

end Bindery
