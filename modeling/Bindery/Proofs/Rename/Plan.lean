import Bindery.Operation.Rename
import Bindery.Proofs.Slots
import Bindery.Proofs.SortedMap

/-! # What a rename plans — new names without clashes

    A plan succeeds when every path resolves, every new name fits in a path and
    no two nodes of a scope end up with one name (`planFrom_eq_ok`).  Said of
    the map of an operation, these are the conditions of `Rename.Admissible`;
    they keep the names of every scope proper (`Admissible.properNames`),
    whatever names are exchanged. -/

namespace Bindery

/-- A scope: a family of paths, one for each name, that differ in their last
    segment only. -/
structure NodePath.IsScope (scope : String → NodePath) : Prop where
  name : ∀ name, (scope name).name = name
  withName : ∀ name newName, (scope name).withName newName = scope newName

namespace NodePath

theorem isScope_program : IsScope .program := ⟨fun _ => rfl, fun _ _ => rfl⟩

theorem isScope_account (p : String) : IsScope (.account p) := ⟨fun _ => rfl, fun _ _ => rfl⟩

theorem isScope_definedType (p : String) : IsScope (.definedType p) :=
  ⟨fun _ => rfl, fun _ _ => rfl⟩

theorem isScope_instruction (p : String) : IsScope (.instruction p) :=
  ⟨fun _ => rfl, fun _ _ => rfl⟩

theorem isScope_instructionAccount (p i : String) : IsScope (.instructionAccount p i) :=
  ⟨fun _ => rfl, fun _ _ => rfl⟩

theorem isScope_instructionArgument (p i : String) : IsScope (.instructionArgument p i) :=
  ⟨fun _ => rfl, fun _ _ => rfl⟩

theorem isScope_sharedType : IsScope .sharedType := ⟨fun _ => rfl, fun _ _ => rfl⟩

end NodePath

/-- A planned renaming carries out an entry: it names the slot that the path
    resolves to. -/
structure Renaming.CarriesOut (index : Index) (entry : NodePath × String) (r : Renaming) :
    Prop where
  path : r.path = entry.1
  newName : r.newName = entry.2
  slot : ∃ found, index.find? entry.1 = some found ∧ r.slot = found.slot

namespace Rename

/-- The path that an entry of a rename leads to. -/
def target (entry : NodePath × String) : NodePath := entry.1.withName entry.2

/-- A new name fits in a path, and no node that keeps its name has it. -/
structure Allows (operation : Rename) (index : Index) (entry : NodePath × String) : Prop where
  valid : NodePath.ValidName entry.2
  free : target entry ≠ entry.1 → index.contains (target entry) = true →
    operation.renames.contains (target entry) = true

variable {operation : Rename} {index : Index}

/-- **EXACT PLANNING**: a plan succeeds when every path resolves, every entry is
    allowed and all targets differ, and then it carries out the entries in
    order. -/
theorem planFrom_eq_ok : ∀ {entries : List (NodePath × String)} {planned : List NodePath}
    {renamings : List Renaming},
    planFrom index operation planned entries = .ok renamings ↔
      List.Forall₂ (Renaming.CarriesOut index) entries renamings
        ∧ (∀ entry ∈ entries, operation.Allows index entry)
        ∧ (entries.map target).Nodup ∧ ∀ entry ∈ entries, target entry ∉ planned := by
  intro entries
  induction entries with
  | nil =>
      intro planned renamings
      show (.ok [] : Except TransformError (List Renaming)) = .ok renamings ↔ _
      constructor
      · intro h
        rw [← Except.ok.inj h]
        exact ⟨.nil, fun _ he => (nomatch he), List.nodup_nil, fun _ he => (nomatch he)⟩
      · rintro ⟨h, -⟩
        cases h
        rfl
  | cons entry entries ih =>
      intro planned renamings
      obtain ⟨path, newName⟩ := entry
      simp only [planFrom, unless_eq_ok, bind_eq_ok, pure_eq_ok, Index.resolve_eq_ok, ih]
      constructor
      · rintro ⟨hvalid, found, hfound, hclash, rest, ⟨hrest, hallow, hnodup, hplanned⟩, rfl⟩
        obtain ⟨hfree, hnew⟩ := not_or.mp hclash
        have hhead : operation.Allows index (path, newName) := by
          refine ⟨not_not.mp hvalid, fun hne hcontains => ?_⟩
          by_contra hkeep
          exact hfree ⟨hne, hcontains, hkeep⟩
        refine ⟨.cons ⟨rfl, rfl, found, hfound, rfl⟩ hrest,
          List.forall_mem_cons.mpr ⟨hhead, hallow⟩, ?_, ?_⟩
        · rw [List.map_cons, List.nodup_cons]
          refine ⟨fun hmem => ?_, hnodup⟩
          obtain ⟨e, he, heq⟩ := List.mem_map.mp hmem
          exact hplanned e he (heq ▸ List.mem_cons_self)
        · refine List.forall_mem_cons.mpr ⟨hnew, fun e he hmem => ?_⟩
          exact hplanned e he (List.mem_cons_of_mem _ hmem)
      · rintro ⟨hall, hallow, hnodup, hplanned⟩
        cases hall with
        | @cons _ r _ rest hcarry hrest =>
            obtain ⟨rpath, rslot, rname⟩ := r
            obtain ⟨rfl, rfl, found, hfound, rfl⟩ := hcarry
            obtain ⟨hhead, hallow⟩ := List.forall_mem_cons.mp hallow
            obtain ⟨hnew, hplanned⟩ := List.forall_mem_cons.mp hplanned
            rw [List.map_cons, List.nodup_cons] at hnodup
            refine ⟨not_not.mpr hhead.valid, found, hfound, ?_, rest,
              ⟨hrest, hallow, hnodup.2, ?_⟩, rfl⟩
            · rintro (⟨hne, hcontains, hkeep⟩ | hmem)
              · exact hkeep (hhead.free hne hcontains)
              · exact hnew hmem
            · intro e he hmem
              rcases List.mem_cons.mp hmem with heq | hmem
              · have hmap := List.mem_map_of_mem (f := target) he
                rw [heq] at hmap
                exact hnodup.1 hmap
              · exact hplanned e he hmem

/-- **WHY PLANS FAIL**: a name that does not fit in a path, a path that resolves to
    nothing, or a name that is taken, each of some entry. -/
theorem planFrom_eq_error : ∀ {entries : List (NodePath × String)} {planned : List NodePath}
    {fault : TransformError},
    planFrom index operation planned entries = .error fault →
      ∃ entry ∈ entries, ¬ NodePath.ValidName entry.2 ∨ index.find? entry.1 = none
        ∨ fault = .duplicateName entry.1.parent? entry.2 := by
  intro entries
  induction entries with
  | nil => exact fun h => (nomatch h)
  | cons entry entries ih =>
      intro planned fault h
      obtain ⟨path, newName⟩ := entry
      simp only [planFrom, unless_eq_error, bind_eq_error] at h
      rcases h with ⟨hinvalid, -⟩ | ⟨-, hresolve | ⟨found, -, ⟨-, hclash⟩ | ⟨-, hrest⟩⟩⟩
      · exact ⟨_, List.mem_cons_self, .inl hinvalid⟩
      · exact ⟨_, List.mem_cons_self, .inr (.inl (Index.resolve_eq_error hresolve).1)⟩
      · exact ⟨_, List.mem_cons_self, .inr (.inr hclash.symm)⟩
      · rcases hrest with hrest | ⟨renamings, -, hdone⟩
        · obtain ⟨entry, hentry, hwhy⟩ := ih hrest
          exact ⟨entry, List.mem_cons_of_mem _ hentry, hwhy⟩
        · exact nomatch hdone

/-! ## The same, said of paths -/

/-- The name that an operation leaves the node of a path with. -/
def nameOf (operation : Rename) (path : NodePath) : String :=
  (operation.renames.get? path).getD path.name

/-- The renames of an operation apply together: every path selects something,
    every new name fits in a path, and none is taken by a node that keeps its
    name or given twice in a scope. -/
structure Admissible (operation : Rename) (index : Index) : Prop where
  resolved : ∀ {path newName}, operation.renames.get? path = some newName →
    index.contains path = true
  valid : ∀ {path newName}, operation.renames.get? path = some newName →
    NodePath.ValidName newName
  free : ∀ {path newName}, operation.renames.get? path = some newName →
    path.withName newName ≠ path → index.contains (path.withName newName) = true →
      ∃ other, operation.renames.get? (path.withName newName) = some other
  apart : ∀ {path path' newName newName'}, operation.renames.get? path = some newName →
    operation.renames.get? path' = some newName' →
      path.withName newName = path'.withName newName' → path = path'

/-- A plan that succeeds has an admissible operation. -/
theorem admissible_of_plan {renamings : List Renaming} (h : operation.plan index = .ok renamings) :
    operation.Admissible index := by
  obtain ⟨hall, hallow, hnodup, -⟩ := planFrom_eq_ok.mp h
  constructor
  · intro path newName hget
    obtain ⟨r, -, hcarry⟩ := exists_of_forall₂_left hall (SortedMap.get?_eq_some_iff.mp hget)
    obtain ⟨found, hfound, -⟩ := hcarry.slot
    exact Option.isSome_iff_exists.mpr ⟨found, hfound⟩
  · intro path newName hget
    exact (hallow _ (SortedMap.get?_eq_some_iff.mp hget)).valid
  · intro path newName hget hne hcontains
    have hfree := (hallow _ (SortedMap.get?_eq_some_iff.mp hget)).free hne hcontains
    exact SortedMap.contains_iff.mp hfree
  · intro path path' newName newName' hget hget' htarget
    have heq := List.inj_on_of_nodup_map hnodup (SortedMap.get?_eq_some_iff.mp hget)
      (SortedMap.get?_eq_some_iff.mp hget') htarget
    exact congrArg Prod.fst heq

/-- An admissible operation has a plan that succeeds. -/
theorem exists_plan (h : operation.Admissible index) :
    ∃ renamings, operation.plan index = .ok renamings := by
  have hget : ∀ entry ∈ operation.renames.entries,
      operation.renames.get? entry.1 = some entry.2 :=
    fun entry hentry => SortedMap.get?_eq_some_iff.mpr hentry
  have hcarried : ∀ entry ∈ operation.renames.entries, ∃ r, Renaming.CarriesOut index entry r := by
    intro entry hentry
    obtain ⟨found, hfound⟩ := Option.isSome_iff_exists.mp (h.resolved (hget entry hentry))
    exact ⟨⟨entry.1, found.slot, entry.2⟩, rfl, rfl, found, hfound, rfl⟩
  obtain ⟨renamings, hall⟩ := exists_forall₂ hcarried
  refine ⟨renamings, planFrom_eq_ok.mpr ⟨hall, fun entry hentry => ⟨?_, ?_⟩, ?_, ?_⟩⟩
  · exact h.valid (hget entry hentry)
  · intro hne hcontains
    exact SortedMap.contains_iff.mpr (h.free (hget entry hentry) hne hcontains)
  · have hnodup := List.Nodup.of_map _ operation.renames.nodup_keys
    refine (List.nodup_map_iff_inj_on hnodup).mpr fun e he e' he' htarget => ?_
    have hpath := h.apart (hget e he) (hget e' he') htarget
    exact List.inj_on_of_nodup_map operation.renames.nodup_keys he he' hpath
  · exact fun _ _ hmem => (nomatch hmem)

namespace Admissible

variable {scope : String → NodePath} {old old' newName : String}

/-- A new name is not that of another node of the scope that keeps its name. -/
theorem eq_of_kept (h : operation.Admissible index) (hscope : NodePath.IsScope scope)
    (hget : operation.renames.get? (scope old) = some newName)
    (hkept : operation.renames.get? (scope newName) = none)
    (hheld : index.contains (scope newName) = true) : old = newName := by
  by_contra hne
  have hmoved : (scope old).withName newName ≠ scope old := by
    rw [hscope.withName]
    intro hsame
    have hname := congrArg NodePath.name hsame
    rw [hscope.name, hscope.name] at hname
    exact hne hname.symm
  have hheld' : index.contains ((scope old).withName newName) = true := by
    rw [hscope.withName]
    exact hheld
  obtain ⟨other, hother⟩ := h.free hget hmoved hheld'
  rw [hscope.withName, hkept] at hother
  exact nomatch hother

/-- **NO CLASH**: nodes of a scope that have different names end up with
    different names. -/
theorem nameOf_injective (h : operation.Admissible index) (hscope : NodePath.IsScope scope)
    (hold : index.contains (scope old) = true) (hold' : index.contains (scope old') = true)
    (heq : operation.nameOf (scope old) = operation.nameOf (scope old')) : old = old' := by
  unfold nameOf at heq
  cases hget : operation.renames.get? (scope old) with
  | none =>
      cases hget' : operation.renames.get? (scope old') with
      | none =>
          rw [hget, hget', Option.getD_none, Option.getD_none, hscope.name, hscope.name] at heq
          exact heq
      | some newName' =>
          rw [hget, hget', Option.getD_none, Option.getD_some, hscope.name] at heq
          subst heq
          exact (h.eq_of_kept hscope hget' hget hold).symm
  | some newName =>
      cases hget' : operation.renames.get? (scope old') with
      | none =>
          rw [hget, hget', Option.getD_none, Option.getD_some, hscope.name] at heq
          subst heq
          exact h.eq_of_kept hscope hget hget' hold'
      | some newName' =>
          rw [hget, hget', Option.getD_some, Option.getD_some] at heq
          have htarget : (scope old).withName newName = (scope old').withName newName' := by
            rw [hscope.withName, hscope.withName, heq]
          have hname := congrArg NodePath.name (h.apart hget hget' htarget)
          rw [hscope.name, hscope.name] at hname
          exact hname

/-- The names of a scope stay distinct when its nodes are renamed. -/
theorem nodup_names {α : Type} {l : List α} {name : α → String} (h : operation.Admissible index)
    (hscope : NodePath.IsScope scope)
    (hheld : ∀ a ∈ l, index.contains (scope (name a)) = true)
    (hnames : (l.map name).Nodup) : (l.map fun a => operation.nameOf (scope (name a))).Nodup := by
  refine (List.nodup_map_iff_inj_on (List.Nodup.of_map _ hnames)).mpr ?_
  intro a ha b hb heq
  exact List.inj_on_of_nodup_map hnames ha hb
    (h.nameOf_injective hscope (hheld a ha) (hheld b hb) heq)

/-- The names of a scope stay proper when its nodes are renamed. -/
theorem properNames {α : Type} {l : List α} {name : α → String} (h : operation.Admissible index)
    (hscope : NodePath.IsScope scope)
    (hheld : ∀ a ∈ l, index.contains (scope (name a)) = true)
    (hnames : ProperNames (l.map name)) :
    ProperNames (l.map fun a => operation.nameOf (scope (name a))) := by
  refine ⟨h.nodup_names hscope hheld hnames.distinct, fun newName hmem => ?_⟩
  obtain ⟨a, ha, rfl⟩ := List.mem_map.mp hmem
  show NodePath.ValidName ((operation.renames.get? (scope (name a))).getD _)
  cases hget : operation.renames.get? (scope (name a)) with
  | none =>
      rw [Option.getD_none, hscope.name]
      exact hnames.valid _ (List.mem_map_of_mem ha)
  | some newName => exact h.valid hget

end Admissible

end Rename

end Bindery
