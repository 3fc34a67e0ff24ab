import Bindery.Pipeline
import Bindery.Proofs.Views

/-! # Batches of rules — one operation, or one for each rule

    A batch settles all its rules in the tree that it received, while the tree
    that it gives takes in one default after another.  Operations of one rule
    each settle theirs in the tree that the ones before gave.  The two walks go
    side by side, since no rule looks at what rules write: a tree with more
    defaults settles a rule as before, with the same slot and value or with the
    same failure (`DefaultRule.store_eq_apply`).

    So a batch gives what the run of its rules ends with, and where it fails,
    the run breaks off with the same failure at the rule that was the first to
    fail in the batch (`SetDefaults.apply_eq_run`). -/

namespace Bindery

/-- The last tree of a run is that of its last stage. -/
theorem Pipeline.finalTree_cons (base : Tree) (stage : Stage) (stages : List Stage) :
    finalTree base (stage :: stages) = finalTree stage.tree stages := by
  unfold finalTree
  rw [List.getLast?_cons]
  cases stages.getLast? <;> rfl

/-- The tree behind a rule that is settled in another tree, the one that its batch received. -/
def DefaultRule.store (index : Index) (tree : Tree) (rule : DefaultRule) :
    Except TransformError Tree := do
  let (slot, value) ← rule.settle index
  return tree.setDefault slot value

namespace SetDefaults

/-- The first rules of a batch. -/
def upTo (operation : SetDefaults) (count : Nat) : SetDefaults := ⟨operation.rules.take count⟩

/-- The rules of a batch as operations of their own, under one name. -/
def oneByOne (operation : SetDefaults) (name : String) : List NamedOperation :=
  operation.rules.map fun rule => ⟨name, .setDefaults ⟨[rule]⟩⟩

/-- A batch fails at the rule in a place: the rules before it apply, and with it they do not. -/
structure FailsAt (operation : SetDefaults) (tree : Tree) (place : Nat) (cause : TransformError) :
    Prop where
  before : ∃ next, (operation.upTo place).apply (Index.of tree) = .ok next
  here : (operation.upTo (place + 1)).apply (Index.of tree) = .error cause

end SetDefaults

section Walks

variable {tree : Tree} {name : String}

/-- **RULES DO NOT SEE RULES**: in a tree that is the received one up to defaults, a rule of a
    batch does what it does by itself. -/
theorem DefaultRule.store_eq_apply {t : Tree} (rule : DefaultRule)
    (h : t.keeping (Attachment.allBut .default) = tree.keeping (Attachment.allBut .default)) :
    rule.store (Index.of tree) t = SetDefaults.apply ⟨[rule]⟩ (Index.of t) := by
  have hsettle : rule.settle (Index.of tree) = rule.settle (Index.of t) := by
    have hkept : Attachment.allBut .default .recipe = true := rfl
    rw [← settle_keeping hkept, ← h, settle_keeping hkept]
  have hsingle : SetDefaults.apply ⟨[rule]⟩ (Index.of t) = rule.store (Index.of t) t := by
    show (rule.store (Index.of t) t >>= pure) = _
    rw [bind_pure]
  rw [hsingle, store, hsettle, store]

/-- A tree behind a rule is the one before it up to defaults. -/
theorem DefaultRule.frame_of_store {rule : DefaultRule} {index : Index} {t next : Tree}
    (h : rule.store index t = .ok next) :
    next.keeping (Attachment.allBut .default) = t.keeping (Attachment.allBut .default) := by
  obtain ⟨⟨slot, value⟩, -, h⟩ := bind_eq_ok.mp h
  rw [← pure_eq_ok.mp h]
  exact Tree.setDefault_frame slot value

/-- The first of some rules is a step of their run, and the others run from the tree that it
    gives. -/
theorem runFrom_oneByOne_cons {rule : DefaultRule} {rules : List DefaultRule} {position : Nat}
    {t : Tree} (h : t.keeping (Attachment.allBut .default)
      = tree.keeping (Attachment.allBut .default)) :
    Pipeline.runFrom position t (SetDefaults.oneByOne ⟨rule :: rules⟩ name)
      = match rule.store (Index.of tree) t with
        | .error cause => .error ⟨name, position, cause⟩
        | .ok next => do
          return ⟨some name, next⟩ ::
            (← Pipeline.runFrom (position + 1) next (SetDefaults.oneByOne ⟨rules⟩ name)) := by
  rw [rule.store_eq_apply h]
  rfl

/-- Rules that are stored one after another end where their run ends, or fail as it does. -/
theorem foldlM_store_eq_runFrom : ∀ {rules : List DefaultRule} {position : Nat} {t : Tree},
    t.keeping (Attachment.allBut .default) = tree.keeping (Attachment.allBut .default) →
      rules.foldlM (fun t rule => rule.store (Index.of tree) t) t
        = ((Pipeline.runFrom position t (SetDefaults.oneByOne ⟨rules⟩ name)).map
            (Pipeline.finalTree t)).mapError (·.cause) := by
  intro rules
  induction rules with
  | nil => intro position t _; rfl
  | cons rule rules ih =>
      intro position t h
      rw [List.foldlM_cons, runFrom_oneByOne_cons h]
      cases hstore : rule.store (Index.of tree) t with
      | error cause => rfl
      | ok next =>
          refine (@ih (position + 1) next ((DefaultRule.frame_of_store hstore).trans h)).trans ?_
          dsimp only
          cases Pipeline.runFrom (position + 1) next (SetDefaults.oneByOne ⟨rules⟩ name) with
          | error step => rfl
          | ok stages =>
              exact congrArg Except.ok (Pipeline.finalTree_cons t ⟨some name, next⟩ stages).symm

/-- A run of rules breaks off behind the rules that can be stored, at the first that cannot. -/
theorem runFrom_oneByOne_eq_error : ∀ {rules : List DefaultRule} {position : Nat} {t : Tree}
    {step : FailedStep},
    t.keeping (Attachment.allBut .default) = tree.keeping (Attachment.allBut .default) →
      (Pipeline.runFrom position t (SetDefaults.oneByOne ⟨rules⟩ name) = .error step ↔
        ∃ place, step.operation = name ∧ step.position = position + place
          ∧ (∃ next, (rules.take place).foldlM (fun t rule => rule.store (Index.of tree) t) t
              = .ok next)
          ∧ (rules.take (place + 1)).foldlM (fun t rule => rule.store (Index.of tree) t) t
              = .error step.cause) := by
  intro rules
  induction rules with
  | nil =>
      intro position t step _
      constructor
      · intro h; exact nomatch h
      · rintro ⟨place, -, -, -, h⟩; exact nomatch h
  | cons rule rules ih =>
      intro position t step h
      rw [runFrom_oneByOne_cons h]
      cases hstore : rule.store (Index.of tree) t with
      | error cause =>
          have hfirst : ∀ count, ((rule :: rules).take (count + 1)).foldlM
              (fun t rule => rule.store (Index.of tree) t) t = .error cause := by
            intro count
            rw [List.take_succ_cons, List.foldlM_cons, hstore]
            rfl
          constructor
          · intro hrun
            obtain rfl := Except.error.inj hrun
            exact ⟨0, rfl, rfl, ⟨t, rfl⟩, hfirst 0⟩
          · rintro ⟨place, hname, hposition, ⟨next, hbefore⟩, hhere⟩
            cases place with
            | zero =>
                rw [hfirst 0] at hhere
                obtain ⟨operation, _, cause'⟩ := step
                obtain rfl : operation = name := hname
                obtain rfl : _ = position := hposition
                obtain rfl : cause = cause' := Except.error.inj hhere
                rfl
            | succ place => exact nomatch (hfirst place).symm.trans hbefore
      | ok next =>
          have hrest : ∀ count, ((rule :: rules).take (count + 1)).foldlM
              (fun t rule => rule.store (Index.of tree) t) t
                = (rules.take count).foldlM (fun t rule => rule.store (Index.of tree) t) next := by
            intro count
            rw [List.take_succ_cons, List.foldlM_cons, hstore]
            rfl
          show (_ >>= fun stages => pure _) = Except.error step ↔ _
          rw [return_eq_error, ih ((DefaultRule.frame_of_store hstore).trans h)]
          constructor
          · rintro ⟨place, hname, hposition, hbefore, hhere⟩
            refine ⟨place + 1, hname, by omega, ?_, ?_⟩
            · rw [hrest]
              exact hbefore
            · rw [hrest]
              exact hhere
          · rintro ⟨place, hname, hposition, hbefore, hhere⟩
            rw [hrest] at hhere
            cases place with
            | zero => exact nomatch hhere
            | succ place =>
                rw [hrest] at hbefore
                exact ⟨place, hname, by omega, hbefore, hhere⟩

end Walks

/-- **A BATCH IS THE RUN OF ITS RULES**: on every tree, a list of rules gives the tree that the
    operations of one rule each end with, and fails with the failure that their run breaks off
    with.  The run breaks off at the rule that the batch fails at. -/
theorem SetDefaults.apply_eq_run (operation : SetDefaults) (name : String) (tree : Tree) :
    operation.apply (Index.of tree)
        = ((Pipeline.run tree (operation.oneByOne name)).map
            (Pipeline.finalTree tree)).mapError (·.cause)
      ∧ ∀ step, Pipeline.run tree (operation.oneByOne name) = .error step ↔
          ∃ place, step.operation = name ∧ step.position = place + 1
            ∧ operation.FailsAt tree place step.cause := by
  constructor
  · refine (@foldlM_store_eq_runFrom tree name operation.rules 1 tree rfl).trans ?_
    unfold Pipeline.run
    cases Pipeline.runFrom 1 tree (oneByOne ⟨operation.rules⟩ name) with
    | error step => rfl
    | ok stages =>
        exact congrArg Except.ok (Pipeline.finalTree_cons tree ⟨none, tree⟩ stages).symm
  · intro step
    refine return_eq_error.trans ((runFrom_oneByOne_eq_error rfl).trans ?_)
    refine exists_congr fun place => and_congr_right fun _ => ?_
    rw [Nat.add_comm 1 place]
    exact and_congr_right fun _ => ⟨fun ⟨hbefore, hhere⟩ => ⟨hbefore, hhere⟩,
      fun ⟨hbefore, hhere⟩ => ⟨hbefore, hhere⟩⟩

end Bindery
