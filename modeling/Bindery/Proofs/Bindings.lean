import Bindery.Crate.Printer
import Bindery.Package.Printer
import Bindery.Proofs.Slots

/-! # Locals of a call builder

    A builder is straight-line code: one local for each input, then the call.
    `Binding.InTurn` says of such code that every value reads only what is
    bound by then.  The order in which defaults are resolved is such a turn by
    the recursion that finds it (`orderFrom_inTurn`), and an expression reads no
    more than the default it is made from (`Expression.reads_of`), so that the
    bindings of an instruction hold all of its inputs, each once and in turn
    (`boundBy_of_bindings`). -/

namespace Bindery

/-- The inputs of an instruction, in the order in which a call lists its accounts and then its
    arguments. -/
def Instruction.inputs (instruction : Instruction) : List Input :=
  instruction.accounts.map (.account ·.name) ++ instruction.arguments.map (.argument ·.name)

/-- The inputs whose locals an expression reads. -/
def Expression.reads : Expression → List Input
  | .derived _ seeds => seeds.map (·.2)
  | .account name => [.account name]
  | .argument name => [.argument name]
  | .absent | .programId | .literal _ => []

/-- The inputs whose locals the value of a local reads.  What the caller supplies is held by the
    builder and read from no local. -/
def Origin.reads : Origin → List Input
  | .required | .optional => []
  | .default expression => expression.reads

/-- Behind some locals, every value reads only what is bound by then. -/
def Binding.InTurn (bound : List Input) : List Binding → Prop
  | [] => True
  | binding :: rest =>
    (∀ input ∈ binding.origin.reads, input ∈ bound) ∧ InTurn (binding.input :: bound) rest

/-- A local is the default of an input: its value is an expression of the value that the input
    has. -/
def BuilderInput.DefaultIs (program : Program) (given : BuilderInput) (binding : Binding) :
    Prop :=
  ∃ value context expression, given.input = binding.input ∧ given.defaultValue = some value
    ∧ Expression.of program context value = .ok expression
    ∧ binding.origin = .default expression

/-- The locals of the inputs that a caller supplies or leaves out. -/
def Signature.supplied (signature : Signature) : List Binding :=
  signature.required.map (fun given => ⟨given.input, .required⟩)
    ++ signature.optional.map (fun given => ⟨given.input, .optional⟩)

/-- What the code of a builder is to an instruction: it binds the inputs that the caller has to
    supply, those that may be left out, and those with a default, each once; a default is an
    expression of the value that the input has, and reads what is bound in front of it; and the
    accounts and the arguments of the call are all bound. -/
structure Instruction.BoundBy (program : Program) (instruction : Instruction)
    (bindings : List Binding) : Prop where
  order : ∃ defaults : List Binding,
    bindings = (Signature.of instruction).supplied ++ defaults
      ∧ ∀ binding ∈ defaults, ∃ given ∈ (Signature.of instruction).defaulted,
          given.DefaultIs program binding
  once : (bindings.map (·.input)).Perm instruction.inputs ∧ (bindings.map (·.input)).Nodup
  earlier : ∀ before binding behind, bindings = before ++ binding :: behind →
    ∀ input ∈ binding.origin.reads, input ∈ before.map (·.input)
  accounts : ∀ account ∈ instruction.accounts, .account account.name ∈ bindings.map (·.input)
  arguments : ∀ argument ∈ instruction.arguments,
    .argument argument.name ∈ bindings.map (·.input)

/-! ## Code in turn -/

namespace Binding

variable {bound bound' : List Input} {bindings rest : List Binding}

/-- More locals in front do no harm. -/
theorem InTurn.mono (hsub : bound ⊆ bound') (h : InTurn bound bindings) :
    InTurn bound' bindings := by
  induction bindings generalizing bound bound' with
  | nil => trivial
  | cons binding rest ih =>
      refine ⟨fun input hinput => hsub (h.1 input hinput), ih ?_ h.2⟩
      exact List.cons_subset_cons _ hsub

/-- Locals that read nothing come in turn in front of all that is in turn behind them. -/
theorem InTurn.append (hnone : ∀ binding ∈ bindings, binding.origin.reads = [])
    (h : InTurn (bindings.map (·.input) ++ bound) rest) : InTurn bound (bindings ++ rest) := by
  induction bindings generalizing bound with
  | nil => exact h
  | cons binding bindings ih =>
      obtain ⟨hbinding, hnone⟩ := List.forall_mem_cons.mp hnone
      refine ⟨fun input hinput => ?_, ih hnone (h.mono ?_)⟩
      · rw [hbinding] at hinput
        exact nomatch hinput
      · intro input hinput
        rw [List.map_cons, List.cons_append, List.mem_cons, List.mem_append] at hinput
        rw [List.mem_append, List.mem_cons]
        tauto

/-- In code that is in turn, what a value reads is bound in front of it or was at the start. -/
theorem InTurn.earlier (h : InTurn bound bindings) {before behind : List Binding}
    {binding : Binding} (hsplit : bindings = before ++ binding :: behind) {input : Input}
    (hinput : input ∈ binding.origin.reads) : input ∈ before.map (·.input) ∨ input ∈ bound := by
  subst hsplit
  induction before generalizing bound with
  | nil => exact .inr (h.1 input hinput)
  | cons first before ih =>
      rw [List.map_cons, List.mem_cons]
      rcases ih h.2 with hbefore | hbound
      · exact .inl (.inr hbefore)
      · rcases List.mem_cons.mp hbound with rfl | hbound
        · exact .inl (.inl rfl)
        · exact .inr hbound

end Binding

/-! ## The order of resolution -/

/-- Taking an element only moves it to the front, and it passes the test. -/
theorem perm_of_takeFirst {α : Type} {test : α → Bool} {as rest : List α} {a : α}
    (h : takeFirst test as = some (a, rest)) : as.Perm (a :: rest) ∧ test a = true := by
  induction as generalizing rest with
  | nil => exact nomatch h
  | cons b tail ih =>
      unfold takeFirst at h
      split at h
      · next hb =>
          obtain ⟨rfl, rfl⟩ := Prod.mk.inj (Option.some.inj h)
          exact ⟨.refl _, hb⟩
      · obtain ⟨⟨found, others⟩, htaken, heq⟩ := Option.map_eq_some_iff.mp h
        obtain ⟨rfl, rfl⟩ := Prod.mk.inj heq
        obtain ⟨hperm, htest⟩ := ih htaken
        exact ⟨(hperm.cons b).trans (.swap found b others), htest⟩

/-- A derived address has an expression exactly when its account is there and all variable seeds
    of the recipe are bound. -/
theorem derivation_eq_ok {program : Program} {context owner : String} {given : List SeedBinding}
    {expression : Expression} :
    derivation program context owner given = .ok expression ↔
      ∃ account seeds, program.account? owner = some account
        ∧ expression = .derived owner seeds
        ∧ List.Forall₂ (fun seed bound => bound.1 = seed ∧ boundInput? given seed = some bound.2)
          account.seedInputs seeds := by
  unfold derivation
  cases program.account? owner with
  | none => exact iff_of_false (fun h => nomatch h) fun ⟨_, _, haccount, _⟩ => nomatch haccount
  | some account =>
      constructor
      · intro h
        obtain ⟨seeds, hseeds, h⟩ := bind_eq_ok.mp h
        refine ⟨account, seeds, rfl, (pure_eq_ok.mp h).symm, (forall₂_of_mapM_eq_ok hseeds).imp ?_⟩
        intro seed bound hbound
        split at hbound
        · next input hinput =>
            obtain rfl := Except.ok.inj hbound
            exact ⟨rfl, hinput⟩
        · exact nomatch hbound
      · rintro ⟨_, seeds, haccount, rfl, hseeds⟩
        obtain rfl := Option.some.inj haccount
        refine bind_eq_ok.mpr ⟨seeds, mapM_eq_ok_of_forall₂ (hseeds.imp ?_), rfl⟩
        rintro seed bound ⟨rfl, hinput⟩
        simp only [hinput]

/-- An expression reads no more than the value it is made from. -/
theorem Expression.reads_of {program : Program} {context : String} {value : DefaultValue}
    {expression : Expression} (h : Expression.of program context value = .ok expression) :
    expression.reads ⊆ value.reads := by
  cases value with
  | pda owner given =>
      obtain ⟨account, seeds, -, rfl, hseeds⟩ := derivation_eq_ok.mp h
      intro input hinput
      obtain ⟨bound, hmem, rfl⟩ := List.mem_map.mp hinput
      -- the lookup goes by the recipe, and what it finds is one of the bindings
      obtain ⟨seed, -, -, hfound⟩ := exists_of_forall₂_right hseeds hmem
      obtain ⟨binding, hbinding, hvalue⟩ := Option.map_eq_some_iff.mp hfound
      rw [← hvalue]
      exact List.mem_map_of_mem (List.mem_of_find?_eq_some hbinding)
  | literal value => rw [← Except.ok.inj h]; exact List.nil_subset _
  | _ => rw [← Except.ok.inj h]; exact List.Subset.refl _

/-- Inputs are resolved when none is left or the first that is ready is taken and the others are
    resolved behind it. -/
theorem orderFrom_eq_ok {bound : List Input} {pending ordered : List BuilderInput} :
    orderFrom bound pending = .ok ordered ↔ (pending = [] ∧ ordered = [])
      ∨ ∃ given rest behind, takeFirst (·.isReady bound) pending = some (given, rest)
          ∧ orderFrom (given.input :: bound) rest = .ok behind ∧ ordered = given :: behind := by
  rw [orderFrom]
  split
  · next given rest htaken =>
      have hsome : pending ≠ [] := by
        rintro rfl
        cases htaken
      rw [bind_eq_ok]
      constructor
      · rintro ⟨behind, hbehind, h⟩
        exact .inr ⟨given, rest, behind, htaken, hbehind, (pure_eq_ok.mp h).symm⟩
      · rintro (⟨hnil, -⟩ | ⟨given', rest', behind, htaken', hbehind, rfl⟩)
        · exact absurd hnil hsome
        · obtain ⟨rfl, rfl⟩ := Prod.mk.inj (Option.some.inj (htaken.symm.trans htaken'))
          exact ⟨behind, hbehind, rfl⟩
  · next hnone =>
      rw [ite_eq_ok, List.isEmpty_iff]
      constructor
      · rintro ⟨hpending, hordered⟩
        exact .inl ⟨hpending, hordered.symm⟩
      · rintro (⟨hpending, hordered⟩ | ⟨given, rest, behind, htaken, -⟩)
        · exact ⟨hpending, hordered.symm⟩
        · cases hnone.symm.trans htaken

/-- The inputs that get resolved are those that were pending. -/
theorem perm_of_orderFrom {bound : List Input} {pending ordered : List BuilderInput}
    (h : orderFrom bound pending = .ok ordered) : ordered.Perm pending := by
  induction ordered generalizing bound pending with
  | nil =>
      rcases orderFrom_eq_ok.mp h with ⟨rfl, -⟩ | ⟨_, _, _, -, -, hcons⟩
      · exact .refl _
      · exact nomatch hcons
  | cons given ordered ih =>
      rcases orderFrom_eq_ok.mp h with ⟨-, hnil⟩ | ⟨_, rest, _, htaken, hrest, hcons⟩
      · exact nomatch hnil
      · obtain ⟨rfl, rfl⟩ := List.cons.inj hcons
        exact ((ih hrest).cons given).trans (perm_of_takeFirst htaken).1.symm

/-- **IN TURN**: locals with the defaults of the inputs that get resolved, bound in this order,
    are in turn. -/
theorem orderFrom_inTurn {program : Program} {bound : List Input}
    {pending ordered : List BuilderInput} {bindings : List Binding}
    (h : orderFrom bound pending = .ok ordered)
    (hdefaults : List.Forall₂ (BuilderInput.DefaultIs program) ordered bindings) :
    Binding.InTurn bound bindings := by
  induction hdefaults generalizing bound pending with
  | nil => trivial
  | @cons given binding ordered bindings hdefault _ ih =>
      obtain ⟨value, context, expression, hinput, hvalue, hof, horigin⟩ := hdefault
      rcases orderFrom_eq_ok.mp h with ⟨-, hnil⟩ | ⟨_, rest, _, htaken, hrest, hcons⟩
      · exact nomatch hnil
      · obtain ⟨rfl, rfl⟩ := List.cons.inj hcons
        have hready := (perm_of_takeFirst htaken).2
        rw [BuilderInput.isReady, hvalue] at hready
        refine ⟨fun input hread => ?_, hinput ▸ ih hrest⟩
        rw [horigin] at hread
        exact of_decide_eq_true (List.all_eq_true.mp hready input (Expression.reads_of hof hread))

/-! ## The inputs of an instruction -/

/-- A list sorted by demand is the list in another order. -/
theorem perm_of_demands (given : List (Demand × BuilderInput)) :
    (given.filter (·.1 = .required) ++ given.filter (·.1 = .optional)
      ++ given.filter (·.1 = .defaulted)).Perm given := by
  induction given with
  | nil => exact .refl _
  | cons first given ih =>
      obtain ⟨demand, input⟩ := first
      cases demand with
      | required => exact ih.cons (.required, input)
      | optional =>
          refine .trans ?_ (ih.cons (.optional, input))
          exact List.perm_middle.append_right _
      | defaulted =>
          exact List.perm_middle.trans (ih.cons (.defaulted, input))

namespace Signature

variable {instruction : Instruction} {given : BuilderInput}

/-- Demands are made of the inputs of the instruction, in order. -/
theorem map_input_demands : (demands instruction).map (·.2.input) = instruction.inputs := by
  rw [demands, List.map_append, List.map_map, List.map_map]
  rfl

/-- The three groups of a signature are the inputs of the instruction in another order. -/
theorem perm_inputs : (((of instruction).required ++ (of instruction).optional
    ++ (of instruction).defaulted).map (·.input)).Perm instruction.inputs := by
  have hsorted := (perm_of_demands (demands instruction)).map (·.2.input)
  rw [map_input_demands] at hsorted
  simpa only [of, inputs, List.map_append, List.map_map, Function.comp_def] using hsorted

/-- An input that is asked for as a default has one. -/
theorem isSome_default (h : given ∈ (of instruction).defaulted) : given.defaultValue.isSome := by
  obtain ⟨⟨demand, found⟩, hfound, rfl⟩ := List.mem_map.mp h
  obtain ⟨hmem, hdemand⟩ := List.mem_filter.mp hfound
  have hdemand : demand = .defaulted := of_decide_eq_true hdemand
  rcases List.mem_append.mp hmem with hmem | hmem
  · obtain ⟨account, -, heq⟩ := List.mem_map.mp hmem
    obtain ⟨rfl, rfl⟩ := Prod.mk.inj heq
    by_contra hnone
    rw [InstructionAccount.demand, if_neg hnone] at hdemand
    split at hdemand <;> exact nomatch hdemand
  · obtain ⟨argument, -, heq⟩ := List.mem_map.mp hmem
    obtain ⟨rfl, rfl⟩ := Prod.mk.inj heq
    by_contra hnone
    rw [InstructionArgument.demand, if_neg hnone] at hdemand
    exact nomatch hdemand

/-- The locals of what a caller supplies are those of the required and the optional inputs. -/
theorem input_supplied {signature : Signature} :
    signature.supplied.map (·.input)
      = (signature.required ++ signature.optional).map (·.input) := by
  rw [supplied, List.map_append, List.map_append, List.map_map, List.map_map]
  rfl

/-- The locals of what a caller supplies read no local. -/
theorem reads_supplied {signature : Signature} :
    ∀ binding ∈ signature.supplied, binding.origin.reads = [] := by
  intro binding hbinding
  rcases List.mem_append.mp hbinding with h | h
  · obtain ⟨given, -, rfl⟩ := List.mem_map.mp h
    rfl
  · obtain ⟨given, -, rfl⟩ := List.mem_map.mp h
    rfl

end Signature

/-- Distinct names make distinct inputs. -/
theorem Instruction.Distinct.inputs {instruction : Instruction} (h : instruction.Distinct) :
    instruction.inputs.Nodup := by
  refine List.nodup_append.mpr ⟨?_, ?_, ?_⟩
  · exact .of_map Input.name (by
      simpa only [List.map_map, Function.comp_def, Input.name] using h.accounts)
  · exact .of_map Input.name (by
      simpa only [List.map_map, Function.comp_def, Input.name] using h.arguments)
  · rintro _ haccount _ hargument rfl
    obtain ⟨account, -, rfl⟩ := List.mem_map.mp haccount
    obtain ⟨argument, -, heq⟩ := List.mem_map.mp hargument
    exact nomatch heq

/-- What is related to the images of a list, none of which is missing, is related to the list. -/
theorem forall₂_of_filterMap {α β γ : Type} {f : α → Option β} {R : β → γ → Prop} :
    ∀ {as : List α} {cs : List γ}, (∀ a ∈ as, (f a).isSome) →
      List.Forall₂ R (as.filterMap f) cs →
      List.Forall₂ (fun a c => ∃ b, f a = some b ∧ R b c) as cs := by
  intro as
  induction as with
  | nil =>
      intro cs _ h
      cases h
      exact .nil
  | cons a as ih =>
      intro cs hsome h
      obtain ⟨ha, hsome⟩ := List.forall_mem_cons.mp hsome
      obtain ⟨b, hb⟩ := Option.isSome_iff_exists.mp ha
      rw [List.filterMap_cons_some hb] at h
      cases h with
      | cons hbc hrest => exact .cons ⟨b, hb, hbc⟩ (ih hsome hrest)

/-- Locals with their defaults come one for each input that is asked for as a default, in the
    order of their resolution. -/
theorem defaultBindings_eq_ok {program : Program} {instruction : Instruction} {context : String}
    {bindings : List Binding}
    (h : defaultBindings program (Signature.of instruction) context = .ok bindings) :
    ∃ ordered, orderFrom ((Signature.of instruction).given.map (·.input))
        (Signature.of instruction).defaulted = .ok ordered
      ∧ List.Forall₂ (BuilderInput.DefaultIs program) ordered bindings := by
  obtain ⟨ordered, hordered, h⟩ := bind_eq_ok.mp h
  have hordered := mapError_eq_ok.mp hordered
  have hsome : ∀ given ∈ ordered, (given.defaultValue.map fun value =>
      (given.input, value)).isSome := by
    intro given hgiven
    rw [Option.isSome_map]
    exact Signature.isSome_default ((perm_of_orderFrom hordered).mem_iff.mp hgiven)
  refine ⟨ordered, hordered, ?_⟩
  refine (forall₂_of_filterMap hsome (forall₂_of_mapM_eq_ok h)).imp ?_
  rintro given binding ⟨valued, hvalued, h⟩
  obtain ⟨value, hvalue, rfl⟩ := Option.map_eq_some_iff.mp hvalued
  obtain ⟨expression, hof, h⟩ := bind_eq_ok.mp h
  rw [← pure_eq_ok.mp h]
  exact ⟨value, _, expression, rfl, hvalue, hof, rfl⟩

/-- The locals of a builder are those of what the caller supplies and, in the order of their
    resolution, those with defaults; all are in turn. -/
theorem bindings_eq_ok {program : Program} {instruction : Instruction} {context : String}
    {bindings : List Binding}
    (h : Bindery.bindings program (Signature.of instruction) context = .ok bindings) :
    ∃ ordered defaults, bindings = (Signature.of instruction).supplied ++ defaults
      ∧ ordered.Perm (Signature.of instruction).defaulted
      ∧ List.Forall₂ (BuilderInput.DefaultIs program) ordered defaults
      ∧ Binding.InTurn [] bindings := by
  obtain ⟨defaults, hdefaults, h⟩ := bind_eq_ok.mp h
  obtain ⟨ordered, hordered, hdefaults⟩ := defaultBindings_eq_ok hdefaults
  obtain rfl : (Signature.of instruction).supplied ++ defaults = bindings := pure_eq_ok.mp h
  refine ⟨ordered, defaults, rfl, perm_of_orderFrom hordered, hdefaults, ?_⟩
  refine .append Signature.reads_supplied ?_
  rw [Signature.input_supplied, List.append_nil]
  exact orderFrom_inTurn hordered hdefaults

/-- **EVERY INPUT, IN TURN**: the bindings of an instruction with distinct names are those of a
    builder for it. -/
theorem boundBy_of_bindings {program : Program} {instruction : Instruction} {context : String}
    {bindings : List Binding} (hd : instruction.Distinct)
    (h : Bindery.bindings program (Signature.of instruction) context = .ok bindings) :
    instruction.BoundBy program bindings := by
  obtain ⟨ordered, defaults, rfl, hperm, hdefaults, hturn⟩ := bindings_eq_ok h
  have hinputs : ordered.map (·.input) = defaults.map (·.input) :=
    map_eq_map_iff_forall₂.mpr (hdefaults.imp fun _ _ ⟨_, _, _, hinput, _⟩ => hinput)
  have honce : (((Signature.of instruction).supplied ++ defaults).map (·.input)).Perm
      instruction.inputs := by
    refine .trans ?_ Signature.perm_inputs
    rw [List.map_append, Signature.input_supplied, ← hinputs, ← List.map_append]
    exact (hperm.append_left _).map _
  have hbound : ∀ input ∈ instruction.inputs,
      input ∈ ((Signature.of instruction).supplied ++ defaults).map (·.input) :=
    fun input hinput => honce.mem_iff.mpr hinput
  refine ⟨⟨defaults, rfl, fun binding hbinding => ?_⟩, ⟨honce, honce.nodup_iff.mpr hd.inputs⟩,
    fun before binding behind hsplit input hinput => ?_, fun account haccount => ?_,
    fun argument hargument => ?_⟩
  · obtain ⟨given, hgiven, hdefault⟩ := exists_of_forall₂_right hdefaults hbinding
    exact ⟨given, hperm.mem_iff.mp hgiven, hdefault⟩
  · rcases hturn.earlier hsplit hinput with hbefore | hnone
    · exact hbefore
    · exact nomatch hnone
  · exact hbound _ (List.mem_append_left _ (List.mem_map_of_mem haccount))
  · exact hbound _ (List.mem_append_right _ (List.mem_map_of_mem hargument))

end Bindery
