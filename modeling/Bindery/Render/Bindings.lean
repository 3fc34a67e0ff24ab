import Bindery.Render.Error
import Bindery.Signature

/-!
# Bindings of a call builder

A generated call builder binds every input of an instruction to a local name: the
required and optional inputs first, then the defaulted ones in an order in which each
default reads only inputs that are bound before it.

* **`resolutionOrder`** — that order, or the inputs whose defaults depend on each other.
* **`Expression`** — a default with the account of a derived address looked up: what each
  of its seeds is taken from, in the order of the recipe.
* **`bindings`** — all inputs in the order in which they are bound, each with the origin
  of its value.
-/

namespace Bindery

-- ── order ────────────────────────────────────────────────────────────────────────

/-- The first element that passes a test, and all others. -/
def takeFirst {α : Type} (test : α → Bool) : List α → Option (α × List α)
  | [] => none
  | a :: rest =>
    if test a then some (a, rest)
    else (takeFirst test rest).map fun (found, others) => (found, a :: others)

/-- Taking an element leaves one less. -/
theorem length_of_takeFirst {α : Type} {test : α → Bool} {as rest : List α} {a : α}
    (h : takeFirst test as = some (a, rest)) : as.length = rest.length + 1 := by
  induction as generalizing rest with
  | nil => simp [takeFirst] at h
  | cons b tail ih =>
    unfold takeFirst at h
    split at h
    · simp only [Option.some.injEq, Prod.mk.injEq] at h
      simp [← h.2]
    · simp only [Option.map_eq_some_iff, Prod.mk.injEq] at h
      obtain ⟨⟨found, others⟩, taken, rfl, rfl⟩ := h
      simp [ih taken]

/-- Whether all that the default of an input reads is bound. -/
def BuilderInput.isReady (bound : List Input) (given : BuilderInput) : Bool :=
  match given.defaultValue with
  | none => true
  | some value => value.reads.all (· ∈ bound)

/-- Take ready inputs one after another, always the first that is ready. The names of
    those that never get ready are the error. -/
def orderFrom (bound : List Input) (pending : List BuilderInput) :
    Except (List String) (List BuilderInput) :=
  match _taken : takeFirst (·.isReady bound) pending with
  | some (given, rest) => do return given :: (← orderFrom (given.input :: bound) rest)
  | none => if pending.isEmpty then .ok [] else .error (pending.map (·.name))
termination_by pending.length
decreasing_by
  have := length_of_takeFirst _taken
  omega

/-- The inputs that a builder is given rather than left to work out. -/
def Signature.given (signature : Signature) : List BuilderInput :=
  signature.required ++ signature.optional

/-- The defaulted inputs, each behind every input its default reads. -/
def resolutionOrder (signature : Signature) (context : String) :
    Except RenderError (List BuilderInput) :=
  (orderFrom (signature.given.map (·.input)) signature.defaulted).mapError fun names =>
    .unsupported context (.circularDefaults names)

-- ── expressions ──────────────────────────────────────────────────────────────────

/-- A default value whose derived address knows its recipe. -/
inductive Expression where
  | derived (account : String) (seeds : List (VariableSeed × Input))
  | account (name : String)
  | argument (name : String)
  | absent
  | programId
  | literal (value : Literal)
deriving DecidableEq

/-- The input that the first binding of a seed gives it. -/
def boundInput? (given : List SeedBinding) (seed : VariableSeed) : Option Input :=
  (given.find? (·.seed = seed.name)).map (·.value)

/-- What the seeds of an account are taken from, in the order of its recipe. -/
def derivation (program : Program) (context account : String) (given : List SeedBinding) :
    Except RenderError Expression := do
  let some owner := program.account? account
    | throw (.unsupported context (.missingAccount account))
  let seeds ← owner.seedInputs.mapM fun seed =>
    match boundInput? given seed with
    | some input => .ok (seed, input)
    | none => .error (.unsupported context (.unboundSeed seed.name))
  return .derived account seeds

/-- The expression of a default value. -/
def Expression.of (program : Program) (context : String) :
    DefaultValue → Except RenderError Expression
  | .pda owner seeds => derivation program context owner seeds
  | .account name => .ok (.account name)
  | .argument name => .ok (.argument name)
  | .absent => .ok .absent
  | .programId => .ok .programId
  | .literal value => .ok (.literal value)

/-- Where a builder takes the value of a local from: from the caller, who has to supply
    it or may leave it out, or from an expression unless the caller supplies one. -/
inductive Origin where
  | required
  | optional
  | default (expression : Expression)
deriving DecidableEq

/-- An input of an instruction, bound to a local of the builder. -/
structure Binding where
  input : Input
  origin : Origin
deriving DecidableEq

/-- The defaulted inputs of an instruction, in order, with their expressions. -/
def defaultBindings (program : Program) (signature : Signature) (context : String) :
    Except RenderError (List Binding) := do
  let ordered ← resolutionOrder signature context
  let valued := ordered.filterMap fun given =>
    given.defaultValue.map fun value => (given.input, value)
  valued.mapM fun (input, value) => do
    return ⟨input, .default (← Expression.of program s!"{context}/{input.name}" value)⟩

/-- Every input of an instruction in the order in which the builder binds it. -/
def bindings (program : Program) (signature : Signature) (context : String) :
    Except RenderError (List Binding) := do
  let defaulted ← defaultBindings program signature context
  return signature.required.map (fun given => ⟨given.input, .required⟩)
    ++ signature.optional.map (fun given => ⟨given.input, .optional⟩) ++ defaulted

/-- The type that a literal of an input has to have. Accounts are addresses. -/
def Instruction.inputType (instruction : Instruction) : Input → TypeNode
  | .account _ => .publicKey
  | .argument name =>
    match instruction.argument? name with
    | some argument => argument.type
    | none => .publicKey

end Bindery
