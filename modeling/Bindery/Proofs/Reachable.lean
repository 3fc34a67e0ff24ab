import Bindery.Pipeline
import Bindery.Proofs.Tags

/-! # Reachable trees — what every stage of a run keeps

    A run loads documents and applies operations one after another, each to the
    tree that the one before gave (`step_of_runDocuments`).  All its stages are
    reachable (`reachable_of_runDocuments`), so what loading establishes and every
    operation preserves holds in all of them, and what is told of a stage and its
    place is told step by step (`stage_induction`).  Being well-formed is the first of
    these properties: each operation keeps it (`apply_wellFormed`), hence every
    stage of every run has it (`runDocuments_wellFormed`). -/

namespace Bindery

/-- The trees that loading and operations lead to. -/
inductive Tree.Reachable : Tree → Prop
  | load {documents : List Document} {tree : Tree} (h : Tree.load documents = .ok tree) :
      tree.Reachable
  | step {tree next : Tree} {operation : Operation} (hr : tree.Reachable)
      (h : operation.apply (Index.of tree) = .ok next) : next.Reachable

/-- The stages behind a tree begin with what the first operation gives, and the others are behind
    that. -/
theorem runFrom_cons_eq_ok {named : NamedOperation} {operations : List NamedOperation}
    {position : Nat} {tree : Tree} {stages : List Stage} :
    Pipeline.runFrom position tree (named :: operations) = .ok stages ↔
      ∃ next rest, named.operation.apply (Index.of tree) = .ok next
        ∧ Pipeline.runFrom (position + 1) next operations = .ok rest
        ∧ ⟨some named.name, next⟩ :: rest = stages := by
  cases happly : named.operation.apply (Index.of tree) with
  | error cause =>
      simp only [Pipeline.runFrom, happly]
      exact iff_of_false nofun fun ⟨_, _, h, _⟩ => nomatch h
  | ok next =>
      simp only [Pipeline.runFrom, happly, bind_eq_ok, pure_eq_ok, Except.ok.injEq, exists_and_left,
        exists_eq_left']

/-- What every operation preserves, the stages behind a tree have that has it. -/
theorem forall_of_runFrom {P : Tree → Prop}
    (hstep : ∀ {tree next : Tree} {operation : Operation}, P tree →
      operation.apply (Index.of tree) = .ok next → P next) :
    ∀ {operations : List NamedOperation} {position : Nat} {tree : Tree} {stages : List Stage},
      P tree → Pipeline.runFrom position tree operations = .ok stages →
        ∀ stage ∈ stages, P stage.tree := by
  intro operations
  induction operations with
  | nil =>
      intro position tree stages _ h stage hmem
      rw [← Except.ok.inj h] at hmem
      exact nomatch hmem
  | cons named operations ih =>
      intro position tree stages hP h stage hmem
      obtain ⟨next, rest, happly, hrest, rfl⟩ := runFrom_cons_eq_ok.mp h
      rcases List.mem_cons.mp hmem with rfl | hmem
      · exact hstep hP happly
      · exact ih (hstep hP happly) hrest stage hmem

/-- What every operation preserves, every stage of a run has whose base has it. -/
theorem forall_of_run {P : Tree → Prop}
    (hstep : ∀ {tree next : Tree} {operation : Operation}, P tree →
      operation.apply (Index.of tree) = .ok next → P next)
    {base : Tree} {operations : List NamedOperation} {stages : List Stage} (hP : P base)
    (h : Pipeline.run base operations = .ok stages) : ∀ stage ∈ stages, P stage.tree := by
  obtain ⟨rest, hrest, h⟩ := bind_eq_ok.mp h
  rw [← pure_eq_ok.mp h]
  exact List.forall_mem_cons.mpr ⟨hP, forall_of_runFrom hstep hP hrest⟩

/-- **STAGES ARE REACHABLE**: every stage of a run that succeeds is reachable. -/
theorem reachable_of_runDocuments {documents : List Document}
    {operations : List NamedOperation} {stages : List Stage}
    (h : Pipeline.runDocuments documents operations = .ok stages) :
    ∀ stage ∈ stages, stage.tree.Reachable := by
  obtain ⟨base, hbase, h⟩ := bind_eq_ok.mp h
  exact forall_of_run Tree.Reachable.step (.load (mapError_eq_ok.mp hbase)) (mapError_eq_ok.mp h)

/-! ## Steps -/

/-- A step of a run: the operation in a place of a list, applied to the stage in that
    place. -/
structure Pipeline.Step (operations : List NamedOperation) (stages : List Stage) (k : Nat)
    (operation : Operation) (tree : Tree) : Prop where
  operation : ∃ named, operations[k]? = some named ∧ named.operation = operation
  tree : ∃ stage, stages[k]? = some stage ∧ stage.tree = tree

/-- A place has one step. -/
theorem Pipeline.Step.unique {operations : List NamedOperation} {stages : List Stage} {k : Nat}
    {operation operation' : Operation} {tree tree' : Tree}
    (h : Pipeline.Step operations stages k operation tree)
    (h' : Pipeline.Step operations stages k operation' tree') :
    operation = operation' ∧ tree = tree' := by
  obtain ⟨⟨named, hnamed, rfl⟩, stage, hstage, rfl⟩ := h
  obtain ⟨⟨named', hnamed', rfl⟩, stage', hstage', rfl⟩ := h'
  obtain rfl := Option.some.inj (hnamed.symm.trans hnamed')
  obtain rfl := Option.some.inj (hstage.symm.trans hstage')
  exact ⟨rfl, rfl⟩

/-- Each stage behind a tree comes from the one before it by a step. -/
theorem step_of_runFrom : ∀ {operations : List NamedOperation} {position : Nat}
    (first : Stage) {stages : List Stage},
      Pipeline.runFrom position first.tree operations = .ok stages →
        ∀ {k : Nat} {after : Stage}, stages[k]? = some after →
          ∃ operation tree, Pipeline.Step operations (first :: stages) k operation tree
            ∧ operation.apply (Index.of tree) = .ok after.tree := by
  intro operations
  induction operations with
  | nil =>
      intro position first stages h k after hk
      rw [← Except.ok.inj h] at hk
      exact nomatch hk
  | cons named operations ih =>
      intro position first stages h k after hk
      obtain ⟨next, rest, happly, hrest, rfl⟩ := runFrom_cons_eq_ok.mp h
      cases k with
      | zero =>
          rw [← Option.some.inj hk]
          exact ⟨_, _, ⟨⟨named, rfl, rfl⟩, ⟨first, rfl, rfl⟩⟩, happly⟩
      | succ k =>
          obtain ⟨operation, tree, hstep, happly⟩ := ih ⟨some named.name, next⟩ hrest hk
          exact ⟨operation, tree, ⟨hstep.operation, hstep.tree⟩, happly⟩

/-- **STEP BY STEP**: the first stage of a run is loaded, and each other comes from the one
    before it by a step. -/
theorem step_of_runDocuments {documents : List Document} {operations : List NamedOperation}
    {stages : List Stage} (h : Pipeline.runDocuments documents operations = .ok stages) :
    (∀ stage, stages[0]? = some stage → Tree.load documents = .ok stage.tree)
      ∧ ∀ {k : Nat} {after : Stage}, stages[k + 1]? = some after →
          ∃ operation tree, Pipeline.Step operations stages k operation tree
            ∧ operation.apply (Index.of tree) = .ok after.tree := by
  obtain ⟨base, hbase, h⟩ := bind_eq_ok.mp h
  obtain ⟨rest, hrest, h⟩ := bind_eq_ok.mp (mapError_eq_ok.mp h)
  rw [← pure_eq_ok.mp h]
  refine ⟨fun stage hstage => ?_, fun {k after} hafter => ?_⟩
  · rw [← Option.some.inj hstage]
    exact mapError_eq_ok.mp hbase
  · exact step_of_runFrom ⟨none, base⟩ hrest hafter

/-- **ALONG A RUN**: what is so of the tree that is loaded, and behind every step from a reachable
    tree that it was so of, is so in every stage, whatever it says of the place of the stage. -/
theorem stage_induction {documents : List Document} {operations : List NamedOperation}
    {stages : List Stage} {P : Nat → Tree → Prop}
    (h : Pipeline.runDocuments documents operations = .ok stages)
    (hload : ∀ {tree : Tree}, Tree.load documents = .ok tree → P 0 tree)
    (hstep : ∀ {k : Nat} {operation : Operation} {tree next : Tree},
      Pipeline.Step operations stages k operation tree → tree.Reachable →
        operation.apply (Index.of tree) = .ok next → P k tree → P (k + 1) next) :
    ∀ {k : Nat} {stage : Stage}, stages[k]? = some stage → P k stage.tree := by
  obtain ⟨hfirst, hsteps⟩ := step_of_runDocuments h
  intro k
  induction k with
  | zero => exact fun hk => hload (hfirst _ hk)
  | succ k ih =>
      intro stage hk
      obtain ⟨operation, tree, hplace, happly⟩ := hsteps hk
      obtain ⟨before, hbefore, rfl⟩ := hplace.tree
      have hr := reachable_of_runDocuments h before (List.mem_of_getElem? hbefore)
      exact hstep hplace hr happly (ih hbefore)

/-! ## Well-formed stages -/

/-- Every operation keeps a tree well-formed. -/
theorem apply_wellFormed {tree next : Tree} {operation : Operation} (hw : tree.WellFormed)
    (h : operation.apply (Index.of tree) = .ok next) : next.WellFormed := by
  cases operation with
  | rename op =>
      obtain ⟨hadm, rfl⟩ := Rename.apply_eq_ok hw.distinct h
      exact hw.substitute hadm
  | setSeeds op => exact hw.congr rfl (SetSeeds.frame h)
  | assignDiscriminators op => exact op.apply_wellFormed hw h
  | setDefaults op => exact hw.congr rfl (SetDefaults.frame h)

/-- Every reachable tree is well-formed. -/
theorem Tree.Reachable.wellFormed {tree : Tree} (hr : tree.Reachable) : tree.WellFormed := by
  induction hr with
  | load h => exact load_wellFormed h
  | step _ h ih => exact apply_wellFormed ih h

/-- **WHAT LOADING PROMISES, EVERY STAGE KEEPS**: in every stage of a run that
    succeeds, names are proper in every scope, links name types of their program,
    and tags tell instructions apart and fit their formats. -/
theorem runDocuments_wellFormed {documents : List Document} {operations : List NamedOperation}
    {stages : List Stage} (h : Pipeline.runDocuments documents operations = .ok stages) :
    ∀ stage ∈ stages, stage.tree.WellFormed := by
  intro stage hmem
  exact (reachable_of_runDocuments h stage hmem).wellFormed

/-- A run over the bank: a recipe for the vault, the address of the vault as a
    default, accounts, types and inputs that exchange their names, and a new tag
    for one of two instructions. -/
def bankRun : List NamedOperation := [
  ⟨"seeds", .setSeeds ⟨.account "bank" "Vault", [.variable ⟨"payer", .publicKey, []⟩]⟩⟩,
  ⟨"defaults", .setDefaults ⟨[
    ⟨.instructionAccount "bank" "open" "vault", .pda "Vault" []⟩,
    ⟨.instructionAccount "bank" "open" "guest", .absent⟩]⟩⟩,
  ⟨"names", .rename ⟨SortedMap.ofList [
    (.account "bank" "Pool", "Vault"), (.account "bank" "Vault", "Pool"),
    (.definedType "bank" "Side", "Turn"), (.definedType "bank" "Turn", "Side"),
    (.instructionAccount "bank" "open" "payer", "vault"),
    (.instructionAccount "bank" "open" "vault", "payer")]⟩⟩,
  ⟨"tags", .assignDiscriminators
    ⟨.program "bank", .instructions, ["close"], .sequential 7 .u16, 0⟩⟩]

/-- A run over the tree of the bank is a run over the bank. -/
theorem runDocuments_bank {operations : List NamedOperation} {test : List Stage → Bool}
    (h : (Pipeline.run bankTree operations).toOption.any test = true) :
    ∃ stages, Pipeline.runDocuments [bank] operations = .ok stages ∧ test stages = true := by
  obtain ⟨stages, hstages, htest⟩ := exists_ok_of_any h
  refine ⟨stages, ?_, htest⟩
  rw [Pipeline.runDocuments, load_bank]
  show (Pipeline.run bankTree operations).mapError PipelineError.operation = .ok stages
  exact mapError_eq_ok.mpr hstages

theorem runDocuments_wellFormed_bank : ∃ stages,
    Pipeline.runDocuments [bank] bankRun = .ok stages ∧ stages.length = 5
      ∧ ∀ stage ∈ stages, stage.tree.WellFormed := by
  obtain ⟨stages, hrun, hlength⟩ : ∃ stages,
      Pipeline.runDocuments [bank] bankRun = .ok stages ∧ decide (stages.length = 5) = true :=
    runDocuments_bank (by decide +kernel)
  exact ⟨stages, hrun, of_decide_eq_true hlength, runDocuments_wellFormed hrun⟩

end Bindery
