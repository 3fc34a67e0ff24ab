import Bindery.Proofs.Bindings
import Mathlib.Order.Bounds.Defs

/-! # The order of resolution, exactly

    Resolving takes the first input that is ready, again and again.  What such a
    run is left with is described once (`orderFrom_run`): an order in which
    every input reads what is there by then, and the inputs behind it, none of
    which is ready.

    The other half is about any order at all: an input that sits in a stuck set
    never gets its turn (`Stuck.not_mem`).  Together they make the greedy choice
    harmless — it ends early only where every choice does — and the inputs it is
    left with the greatest stuck set (`resolutionOrder_exact`). -/

namespace Bindery

/-- The inputs that the default of an input reads; an input without a default reads none. -/
def BuilderInput.reads (given : BuilderInput) : List Input :=
  (given.defaultValue.map (·.reads)).getD []

/-- Behind some inputs, every input of a list reads only those and what is in front of it. -/
def BuilderInput.InTurn (bound : List Input) (ordered : List BuilderInput) : Prop :=
  ∀ before given behind, ordered = before ++ given :: behind →
    ∀ input ∈ given.reads, input ∈ bound ∨ input ∈ before.map (·.input)

namespace Signature

/-- All inputs of a signature, those with a default last. -/
def all (signature : Signature) : List BuilderInput := signature.given ++ signature.defaulted

/-- No input of a signature appears twice. -/
def Distinct (signature : Signature) : Prop := (signature.all.map (·.input)).Nodup

/-- An order of the defaulted inputs in which each reads only required inputs, optional inputs,
    and defaulted inputs in front of it. -/
structure Resolves (signature : Signature) (ordered : List BuilderInput) : Prop where
  perm : ordered.Perm signature.defaulted
  inTurn : BuilderInput.InTurn (signature.given.map (·.input)) ordered

/-- Defaulted inputs each of which reads one of them or an input that is not in the signature. -/
def Stuck (signature : Signature) (stuck : Set BuilderInput) : Prop :=
  ∀ given ∈ stuck, given ∈ signature.defaulted ∧ ∃ input ∈ given.reads,
    (∃ other ∈ stuck, other.input = input) ∨ input ∉ signature.all.map (·.input)

end Signature

/-! ## A run of the resolution -/

/-- An input is ready when all that it reads is there. -/
theorem BuilderInput.isReady_iff {bound : List Input} {given : BuilderInput} :
    given.isReady bound = true ↔ ∀ input ∈ given.reads, input ∈ bound := by
  unfold isReady reads
  cases given.defaultValue with
  | none => exact ⟨fun _ _ hinput => (nomatch hinput), fun _ => rfl⟩
  | some value => simp only [List.all_eq_true, decide_eq_true_eq]; rfl

/-- What is left keeps its order. -/
theorem sublist_of_takeFirst {α : Type} {test : α → Bool} {as rest : List α} {a : α}
    (h : takeFirst test as = some (a, rest)) : rest.Sublist as := by
  induction as generalizing rest with
  | nil => exact nomatch h
  | cons b tail ih =>
      unfold takeFirst at h
      split at h
      · obtain ⟨rfl, rfl⟩ := Prod.mk.inj (Option.some.inj h)
        exact List.sublist_cons_self _ _
      · obtain ⟨⟨found, others⟩, htaken, heq⟩ := Option.map_eq_some_iff.mp h
        obtain ⟨rfl, rfl⟩ := Prod.mk.inj heq
        exact (ih htaken).cons_cons b

/-- Nothing is taken from a list only when no element passes the test. -/
theorem not_of_takeFirst_eq_none {α : Type} {test : α → Bool} {as : List α}
    (h : takeFirst test as = none) : ∀ a ∈ as, ¬ test a = true := by
  induction as with
  | nil => exact List.forall_mem_nil _
  | cons b tail ih =>
      unfold takeFirst at h
      split at h
      · cases h
      · next hb => exact List.forall_mem_cons.mpr ⟨hb, ih (Option.map_eq_none_iff.mp h)⟩

namespace BuilderInput

variable {bound : List Input} {given : BuilderInput} {rest : List BuilderInput}

theorem InTurn.nil : InTurn bound [] := fun _ _ _ hsplit => by simp at hsplit

/-- An input that reads only what is there can go in front of all that comes behind it. -/
theorem InTurn.cons (hready : ∀ input ∈ given.reads, input ∈ bound)
    (h : InTurn (given.input :: bound) rest) : InTurn bound (given :: rest) := by
  intro before other behind hsplit input hinput
  rcases List.cons_eq_append_iff.mp hsplit with ⟨rfl, heq⟩ | ⟨front, rfl, heq⟩
  · obtain ⟨rfl, -⟩ := List.cons.inj heq
    exact .inl (hready input hinput)
  · rw [List.map_cons, List.mem_cons]
    rcases h front other behind heq input hinput with hbound | hfront
    · rcases List.mem_cons.mp hbound with rfl | hbound
      · exact .inr (.inl rfl)
      · exact .inl hbound
    · exact .inr (.inr hfront)

end BuilderInput

/-- **ONE RUN**: resolving splits the pending inputs into an order in which each reads what is
    there by then, and the rest in their own order, of which each reads an input that is neither
    there at the start nor in the order.  The run succeeds when there is no rest. -/
theorem orderFrom_run (bound : List Input) (pending : List BuilderInput) :
    ∃ ordered blocked, (ordered ++ blocked).Perm pending ∧ blocked.Sublist pending
      ∧ BuilderInput.InTurn bound ordered
      ∧ (∀ given ∈ blocked, ∃ input ∈ given.reads,
          input ∉ bound ∧ input ∉ ordered.map (·.input))
      ∧ orderFrom bound pending
          = if blocked = [] then .ok ordered else .error (blocked.map (·.name)) := by
  fun_induction orderFrom bound pending with
  | case1 bound pending given rest htaken ih =>
      obtain ⟨ordered, blocked, hperm, hsub, hturn, hblocked, hrun⟩ := ih
      obtain ⟨htook, hready⟩ := perm_of_takeFirst htaken
      refine ⟨given :: ordered, blocked, (hperm.cons given).trans htook.symm,
        hsub.trans (sublist_of_takeFirst htaken),
        hturn.cons (BuilderInput.isReady_iff.mp hready), fun left hleft => ?_, ?_⟩
      · obtain ⟨input, hinput, hbound, hordered⟩ := hblocked left hleft
        rw [List.mem_cons, not_or] at hbound
        refine ⟨input, hinput, hbound.2, ?_⟩
        rw [List.map_cons, List.mem_cons, not_or]
        exact ⟨hbound.1, hordered⟩
      · rw [hrun]
        split <;> rfl
  | case2 bound pending htaken hempty =>
      obtain rfl := List.isEmpty_iff.mp hempty
      exact ⟨[], [], .refl _, .refl _, .nil, fun _ hgiven => (nomatch hgiven), rfl⟩
  | case3 bound pending htaken hempty =>
      refine ⟨[], pending, .refl _, .refl _, .nil, fun given hgiven => ?_, ?_⟩
      · have hready := not_of_takeFirst_eq_none htaken given hgiven
        rw [BuilderInput.isReady_iff] at hready
        push Not at hready
        obtain ⟨input, hinput, hbound⟩ := hready
        exact ⟨input, hinput, hbound, List.not_mem_nil⟩
      · rw [if_neg fun hnil => hempty (List.isEmpty_iff.mpr hnil)]

/-! ## Any order -/

namespace Signature

variable {signature : Signature} {ordered : List BuilderInput} {stuck : Set BuilderInput}

/-- Inputs of a signature with distinct inputs are told apart by what they are. -/
theorem Distinct.eq_of_input (hd : signature.Distinct) {given other : BuilderInput}
    (hgiven : given ∈ signature.all) (hother : other ∈ signature.all)
    (h : given.input = other.input) : given = other :=
  List.inj_on_of_nodup_map hd hgiven hother h

/-- In a signature with distinct inputs, none that is given is defaulted. -/
theorem Distinct.not_mem_given (hd : signature.Distinct) {given : BuilderInput}
    (h : given ∈ signature.defaulted) : given.input ∉ signature.given.map (·.input) := by
  rw [Distinct, all, List.map_append] at hd
  exact fun hgiven => List.disjoint_of_nodup_append hd hgiven (List.mem_map_of_mem h)

/-- **NO TURN**: among defaulted inputs that are in turn there is no member of a stuck set. -/
theorem Stuck.not_mem (hd : signature.Distinct) (hstuck : signature.Stuck stuck)
    (hsub : ordered ⊆ signature.defaulted)
    (hturn : BuilderInput.InTurn (signature.given.map (·.input)) ordered) :
    ∀ given ∈ ordered, given ∉ stuck := by
  classical
  by_contra! hsome
  obtain ⟨member, hmember, hin⟩ := hsome
  -- the first member of the set would have to read another one in front of it
  obtain ⟨given, hgiven⟩ := Option.isSome_iff_exists.mp
    (List.find?_isSome (p := (decide <| · ∈ stuck)).mpr ⟨member, hmember, decide_eq_true hin⟩)
  obtain ⟨hgiven, before, behind, hsplit, hfirst⟩ := List.find?_eq_some_iff_append.mp hgiven
  obtain ⟨-, input, hinput, hcause⟩ := hstuck given (of_decide_eq_true hgiven)
  have hfront : ∀ source ∈ before, source ∈ signature.defaulted ∧ source ∉ stuck := by
    intro source hsource
    refine ⟨hsub (hsplit ▸ List.mem_append_left _ hsource), fun hin => ?_⟩
    have hout := hfirst source hsource
    rw [decide_eq_true hin] at hout
    exact nomatch hout
  rcases hcause with ⟨other, hother, rfl⟩ | hmissing
  · have hdefaulted := (hstuck other hother).1
    rcases hturn before given behind hsplit _ hinput with hsupplied | hbefore
    · exact hd.not_mem_given hdefaulted hsupplied
    · obtain ⟨source, hsource, heq⟩ := List.mem_map.mp hbefore
      obtain ⟨hmem, hout⟩ := hfront source hsource
      obtain rfl := hd.eq_of_input (List.mem_append_right _ hmem)
        (List.mem_append_right _ hdefaulted) heq
      exact hout hother
  · rw [all, List.map_append, List.mem_append, not_or] at hmissing
    rcases hturn before given behind hsplit _ hinput with hsupplied | hbefore
    · exact hmissing.1 hsupplied
    · obtain ⟨source, hsource, rfl⟩ := List.mem_map.mp hbefore
      exact hmissing.2 (List.mem_map_of_mem (hfront source hsource).1)

end Signature

/-! ## The order -/

/-- **EXACT RESOLUTION**: for a signature with distinct inputs, resolving succeeds exactly when
    some order of the defaulted inputs lets each read only what is given or in front of it, and
    then it finds such an order.  When it fails, the inputs that it names are, in the order of the
    signature, the greatest set of defaulted inputs each of which reads a member of the set or an
    input that is not in the signature. -/
theorem resolutionOrder_exact {signature : Signature} (hd : signature.Distinct)
    (context : String) :
    ((∃ ordered, resolutionOrder signature context = .ok ordered)
        ↔ ∃ ordered, signature.Resolves ordered)
    ∧ (∀ ordered, resolutionOrder signature context = .ok ordered → signature.Resolves ordered)
    ∧ ∀ error, resolutionOrder signature context = .error error →
        ∃ blocked : List BuilderInput, blocked.Sublist signature.defaulted
          ∧ IsGreatest {stuck | signature.Stuck stuck} {given | given ∈ blocked}
          ∧ error = .unsupported context (.circularDefaults (blocked.map (·.name))) := by
  obtain ⟨ordered, blocked, hperm, hsub, hturn, hblocked, hrun⟩ :=
    orderFrom_run (signature.given.map (·.input)) signature.defaulted
  have hordered : ordered ⊆ signature.defaulted :=
    fun given hgiven => hperm.subset (List.mem_append_left _ hgiven)
  have hstuck : signature.Stuck {given | given ∈ blocked} := by
    intro given hgiven
    refine ⟨hsub.subset hgiven, ?_⟩
    obtain ⟨input, hinput, hsupplied, hbefore⟩ := hblocked given hgiven
    refine ⟨input, hinput, or_iff_not_imp_right.mpr fun hin => ?_⟩
    rw [not_not, Signature.all, List.map_append, List.mem_append] at hin
    obtain ⟨source, hsource, rfl⟩ := List.mem_map.mp (hin.resolve_left hsupplied)
    rcases List.mem_append.mp (hperm.mem_iff.mpr hsource) with hmem | hmem
    · exact absurd (List.mem_map_of_mem hmem) hbefore
    · exact ⟨source, hmem, rfl⟩
  have hgreatest : IsGreatest {stuck | signature.Stuck stuck} {given | given ∈ blocked} := by
    refine ⟨hstuck, fun stuck hstuck given hgiven => ?_⟩
    have hmem := hperm.mem_iff.mpr (hstuck given hgiven).1
    refine (List.mem_append.mp hmem).resolve_left fun hmem => ?_
    exact hstuck.not_mem hd hordered hturn given hmem hgiven
  unfold resolutionOrder
  rw [hrun]
  by_cases hnone : blocked = []
  · rw [if_pos hnone]
    subst hnone
    have hresolves : signature.Resolves ordered := ⟨by simpa using hperm, hturn⟩
    refine ⟨⟨fun _ => ⟨ordered, hresolves⟩, fun _ => ⟨ordered, rfl⟩⟩, fun found h => ?_,
      fun error h => nomatch h⟩
    rw [← Except.ok.inj h]
    exact hresolves
  · rw [if_neg hnone]
    refine ⟨⟨fun ⟨_, h⟩ => (nomatch h), fun ⟨any, hany⟩ => ?_⟩, fun _ h => (nomatch h),
      fun error h => ⟨blocked, hsub, hgreatest, (Except.error.inj h).symm⟩⟩
    obtain ⟨given, hgiven⟩ := List.exists_mem_of_ne_nil blocked hnone
    have hmem : given ∈ any := hany.perm.mem_iff.mpr (hsub.subset hgiven)
    exact absurd hgiven (hstuck.not_mem hd hany.perm.subset hany.inTurn given hmem)

/-- A signature with a chain and a diamond, whose defaults can be resolved in one order only. -/
def diamond : Signature where
  required := [⟨.account "payer", none⟩]
  optional := [⟨.account "guest", none⟩]
  defaulted := [
    ⟨.account "vault", some (.pda "Vault" [⟨"left", .account "left"⟩, ⟨"right", .argument "left"⟩])⟩,
    ⟨.account "left", some (.account "root")⟩,
    ⟨.argument "left", some (.pda "Side" [⟨"root", .account "root"⟩, ⟨"by", .account "guest"⟩])⟩,
    ⟨.account "root", some (.account "payer")⟩]

/-- A signature with a cycle, an input that reads from it, one that reads what is not there, and
    one that can be resolved. -/
def tangle : Signature where
  required := [⟨.account "payer", none⟩]
  optional := []
  defaulted := [⟨.account "tail", some (.account "a")⟩, ⟨.account "a", some (.account "b")⟩,
    ⟨.account "free", some (.account "payer")⟩, ⟨.account "b", some (.account "a")⟩,
    ⟨.account "lost", some (.argument "payer")⟩]

theorem resolutionOrder_exact_cases : diamond.Distinct ∧ tangle.Distinct
    ∧ (∃ ordered, diamond.Resolves ordered
      ∧ ordered.map (·.input)
          = [.account "root", .account "left", .argument "left", .account "vault"])
    ∧ (¬ ∃ ordered, tangle.Resolves ordered)
    ∧ ∃ blocked : List BuilderInput, IsGreatest {stuck | tangle.Stuck stuck} {given | given ∈ blocked}
      ∧ blocked.map (·.name) = ["tail", "a", "b", "lost"] := by
  have hdiamond : diamond.Distinct := by unfold Signature.Distinct; decide
  have htangle : tangle.Distinct := by unfold Signature.Distinct; decide
  obtain ⟨-, hfinds, -⟩ := resolutionOrder_exact hdiamond "deposit"
  obtain ⟨hiff, -, hnames⟩ := resolutionOrder_exact htangle "deposit"
  obtain ⟨ordered, hordered, horder⟩ : ∃ ordered, resolutionOrder diamond "deposit" = .ok ordered
      ∧ decide (ordered.map (·.input)
          = [.account "root", .account "left", .argument "left", .account "vault"]) = true :=
    exists_ok_of_any (by decide +kernel)
  have herror : resolutionOrder tangle "deposit"
      = .error (.unsupported "deposit" (.circularDefaults ["tail", "a", "b", "lost"])) := by
    decide +kernel
  obtain ⟨blocked, -, hgreatest, heq⟩ := hnames _ herror
  refine ⟨hdiamond, htangle, ⟨ordered, hfinds ordered hordered, of_decide_eq_true horder⟩, ?_,
    blocked, hgreatest, ?_⟩
  · rw [← hiff, herror]
    exact fun ⟨_, h⟩ => nomatch h
  · injection heq with _ hfault
    injection hfault with hblocked
    exact hblocked.symm

end Bindery
