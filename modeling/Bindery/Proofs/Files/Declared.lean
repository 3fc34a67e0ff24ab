import Bindery.Proofs.Disk.Paths
import Bindery.Proofs.Files.Output
import Bindery.Proofs.Identifiers

/-! # Declared modules — which items lead to which files

    An index declares modules by items, and an item leads to the file of its name
    next to the index, or to the index of the directory of that name
    (`Item.LeadsTo`).  A crate is closed when every item leads to a file, and every
    file but the index at the top has exactly one item that leads to it
    (`Crate.Closed`).

    Files have the names of nodes in snake case, items their identifiers.  A plan
    whose files and children belong together (`Forest`) is closed as long as no
    identifier differs from the name it is for, and is not closed otherwise: an item
    never has a name that is no word of an identifier, so that nothing leads to the
    file of such a name (`Forest.closed_iff`). -/

namespace Bindery.Crate

/-! ## Items -/

/-- An item that declares a module: the names that lead to the directory of its index, and the name
    of the module. -/
structure Item where
  directory : List String
  name : String
deriving DecidableEq

/-- An item leads to a file: that of its name, or the index in the directory of its name. -/
def Item.LeadsTo (item : Item) (names : List String) : Prop :=
  names = item.directory ++ [item.name ++ ".rs"] ∨ names = item.directory ++ [item.name, "mod.rs"]

instance (item : Item) (names : List String) : Decidable (item.LeadsTo names) :=
  inferInstanceAs (Decidable (_ ∨ _))

/-- An identifier as names of files have it: without the mark of raw ones. -/
def unmarked (text : String) : String :=
  match text.toList with
  | 'r' :: '#' :: word => String.ofList word
  | _ => text

/-- The identifier of the module that source starts to declare. -/
def declared? : Code → Option String
  | "pub" :: "mod" :: name :: ";" :: _ => some name
  | _ => none

/-- The identifiers of the modules that source declares. -/
def declaredIn (words : Code) : List String := words.tails.filterMap declared?

/-- The items of a file, which are those of its source if it is an index. -/
def itemsOf (mount : ModulePath) (file : ModuleFile Module) : List Item :=
  let names := FilePath.names file.path
  if names.getLast? = some "mod.rs" then
    (declaredIn (file.module.words mount)).map fun text => ⟨names.dropLast, unmarked text⟩
  else []

/-- Files that are closed: every item leads to one of them, and to each but the index at the top
    exactly one item does. -/
structure Closed (mount : ModulePath) (files : List (ModuleFile Module)) : Prop where
  found : ∀ item ∈ files.flatMap (itemsOf mount),
    ∃ file ∈ files, item.LeadsTo (FilePath.names file.path)
  declared : ∀ file ∈ files, FilePath.names file.path ≠ ["mod.rs"] →
    ∃ item, (files.flatMap (itemsOf mount)).filter
      (fun item => item.LeadsTo (FilePath.names file.path)) = [item]

/-! ## Items of source -/

variable {name text next : String} {rest : Code}

/-- The name of a file is no mark and has no sign of one. -/
theorem unmarked_of_notMem (h : '#' ∉ text.toList) : unmarked text = text := by
  unfold unmarked
  split
  · next heq => exact absurd (heq ▸ List.mem_cons_of_mem _ List.mem_cons_self) h
  · rfl

/-- What is behind the mark of an identifier is its word. -/
theorem unmarked_text (text : String) : unmarked (Name.of text).text = (Name.of text).word := by
  unfold Name.text
  split
  · rw [unmarked, String.toList_append]
    exact String.ofList_toList
  · refine unmarked_of_notMem fun hmem => ?_
    exact absurd ((Name.spoken_word text).kept '#' hmem) (by decide)

/-- The modules of source are the one that it starts to declare and those of the rest. -/
theorem declaredIn_cons : declaredIn (text :: rest)
    = (declared? (text :: rest)).toList ++ declaredIn rest := by
  unfold declaredIn
  rw [List.tails, List.filterMap_cons]
  cases declared? (text :: rest) <;> rfl

/-- A word that no item starts with declares nothing, -/
theorem declaredIn_skip (h : text ≠ "pub") : declaredIn (text :: rest) = declaredIn rest := by
  have hnone : declared? (text :: rest) = none := by
    unfold declared?
    split
    · next heq => exact absurd (List.cons.inj heq).1 h
    · rfl
  rw [declaredIn_cons, hnone]
  rfl

/-- nor does one in front of a word that no item goes on with. -/
theorem declaredIn_skip_before (h : next ≠ "mod") :
    declaredIn (text :: next :: rest) = declaredIn (next :: rest) := by
  have hnone : declared? (text :: next :: rest) = none := by
    unfold declared?
    split
    · next heq => exact absurd (List.cons.inj (List.cons.inj heq).2).1 h
    · rfl
  rw [declaredIn_cons, hnone]
  rfl

/-- An item declares its module. -/
theorem declaredIn_item :
    declaredIn ("pub" :: "mod" :: name :: ";" :: rest) = name :: declaredIn rest := by
  have hrest : declaredIn ("mod" :: name :: ";" :: rest) = declaredIn rest := by
    simp (disch := decide) only [declaredIn_skip, declaredIn_skip_before]
  rw [declaredIn_cons, hrest]
  rfl

/-- A child of an index is declared once, whether or not it is re-exported. -/
theorem declaredIn_childWords (reexported : Bool) (child : String) :
    declaredIn (childWords reexported child ++ rest)
      = (Name.of child).text :: declaredIn rest := by
  cases reexported with
  | false => exact declaredIn_item
  | true =>
      have hrest : declaredIn ("pub" :: "use" :: "self" :: "::" :: (Name.of child).text :: "::"
          :: "*" :: ";" :: rest) = declaredIn rest := by
        simp (disch := decide) only [declaredIn_skip, declaredIn_skip_before]
      exact declaredIn_item.trans (congrArg (_ :: ·) hrest)

/-- An index declares its children in order. -/
theorem declaredIn_index (mount : ModulePath) (reexported : Bool) : ∀ children : List String,
    declaredIn (Module.words mount (.index children reexported))
      = children.map fun child => (Name.of child).text := by
  intro children
  induction children with
  | nil => rfl
  | cons child children ih =>
      exact (declaredIn_childWords reexported child).trans (congrArg (_ :: ·) ih)

/-! ## Items of a plan -/

open Modules (namesOf)

/-- An item with the word of its identifier for its name. -/
def Item.spoken (item : Item) : Item := ⟨item.directory, (Name.of item.name).word⟩

/-- The children that a planned module lists. -/
def childrenOf (planned : Planned Module) : List String :=
  match planned.build with
  | .ok (.index children _) => children
  | _ => []

/-- The items of a planned module, with its children as they are planned. -/
def plannedItems (planned : Planned Module) : List Item :=
  if planned.names.getLast? = some "mod.rs" then
    (childrenOf planned).map (Item.mk planned.names.dropLast)
  else []

/-- A planned module that is an index, or in a file that has no name of an index. -/
inductive Orderly : Planned Module → Prop
  | leaf {directory : List String} {name : String} {build : Except RenderError Module}
      (h : name ≠ "mod") : Orderly ⟨directory ++ [name ++ ".rs"], build⟩
  | index (directory children : List String) (reexported : Bool) :
      Orderly ⟨directory ++ ["mod.rs"], .ok (.index children reexported)⟩

variable {directory names : List String} {item other : Item} {planned : Planned Module}
  {mount : ModulePath} {file : ModuleFile Module}

/-- Files of modules are told apart by the names of these. -/
theorem file_injective {a b : String} (h : a ++ ".rs" = b ++ ".rs") : a = b :=
  (String.append_left_inj _).mp h

/-- Only a module named so is in a file with the name of an index. -/
theorem eq_mod_of_file (h : name ++ ".rs" = "mod.rs") : name = "mod" := by
  have hmod : "mod.rs" = "mod" ++ ".rs" := by decide
  exact file_injective (h.trans hmod)

/-- An index has an item for each of its children. -/
theorem plannedItems_index (directory children : List String) (reexported : Bool) :
    plannedItems ⟨directory ++ ["mod.rs"], .ok (.index children reexported)⟩
      = children.map (Item.mk directory) := by
  rw [plannedItems, if_pos (List.getLast?_concat ..), List.dropLast_concat]
  rfl

/-- Any other module has none. -/
theorem plannedItems_leaf (build : Except RenderError Module) (h : name ≠ "mod") :
    plannedItems ⟨directory ++ [name ++ ".rs"], build⟩ = [] := by
  refine if_neg fun hlast => h (eq_mod_of_file ?_)
  exact Option.some.inj ((List.getLast?_concat ..).symm.trans hlast)

/-- The items of a module are next to it, and it is an index. -/
theorem names_of_mem_plannedItems (h : item ∈ plannedItems planned) :
    planned.names = item.directory ++ ["mod.rs"] := by
  unfold plannedItems at h
  split at h
  · next hlast =>
      obtain ⟨child, -, rfl⟩ := List.mem_map.mp h
      exact (List.dropLast_append_getLast? _ hlast).symm
  · exact nomatch h

/-- What is built as planned has the items that are planned, with identifiers for names. -/
theorem Orderly.itemsOf_eq (h : Orderly planned) (hbuilt : planned.BuiltAs file) :
    itemsOf mount file = (plannedItems planned).map Item.spoken := by
  have hnames := hbuilt.path.names_path
  cases h with
  | leaf hname =>
      rw [plannedItems_leaf _ hname, itemsOf, hnames]
      refine if_neg fun hlast => hname (eq_mod_of_file ?_)
      exact Option.some.inj ((List.getLast?_concat ..).symm.trans hlast)
  | index directory children reexported =>
      have hmodule : file.module = .index children reexported := (Except.ok.inj hbuilt.module).symm
      rw [plannedItems_index, itemsOf, hnames, if_pos (List.getLast?_concat ..), hmodule,
        declaredIn_index, List.dropLast_concat, List.map_map, List.map_map]
      refine List.map_congr_left fun child _ => ?_
      exact congrArg (Item.mk directory) (unmarked_text child)

/-! ## Where items lead -/

/-- Items that lead to one file are the same, unless one is the child of the other that has the
    name of an index. -/
theorem Item.LeadsTo.cases (h : item.LeadsTo names) (h' : other.LeadsTo names) :
    item = other ∨ item.name = "mod" ∧ item.directory = other.directory ++ [other.name]
      ∨ other.name = "mod" ∧ other.directory = item.directory ++ [item.name] := by
  obtain ⟨directory, name⟩ := item
  obtain ⟨directory', name'⟩ := other
  have hpair : ∀ (directory : List String) (name : String),
      directory ++ [name, "mod.rs"] = directory ++ [name] ++ ["mod.rs"] := fun directory name =>
    (List.append_assoc directory [name] ["mod.rs"]).symm
  rcases h with rfl | rfl <;> rcases h' with h' | h'
  · obtain ⟨hdirectory, hname⟩ := List.append_inj' h' rfl
    exact .inl (congrArg₂ Item.mk hdirectory (file_injective (List.singleton_inj.mp hname)))
  · rw [hpair] at h'
    obtain ⟨hdirectory, hname⟩ := List.append_inj' h' rfl
    exact .inr (.inl ⟨eq_mod_of_file (List.singleton_inj.mp hname), hdirectory⟩)
  · rw [hpair] at h'
    obtain ⟨hdirectory, hname⟩ := List.append_inj' h' rfl
    exact .inr (.inr ⟨eq_mod_of_file (List.singleton_inj.mp hname.symm), hdirectory.symm⟩)
  · obtain ⟨hdirectory, hname⟩ := List.append_inj' h' rfl
    exact .inl (congrArg₂ Item.mk hdirectory (List.cons.inj hname).1)

/-- An item that leads to the index at the top has the name of an index. -/
theorem Item.LeadsTo.name_of_top (h : item.LeadsTo ["mod.rs"]) : item.name = "mod" := by
  rcases h with h | h
  · have hsame : [] ++ ["mod.rs"] = item.directory ++ [item.name ++ ".rs"] := h
    obtain ⟨-, hname⟩ := List.append_inj' hsame rfl
    exact eq_mod_of_file (List.singleton_inj.mp hname.symm)
  · have hlength := congrArg List.length h
    rw [List.length_append] at hlength
    exact absurd hlength (by simp)

/-! ## Forests -/

/-- The plan of what children of a directory have: each child and each item leads to a module, each
    module has a child or an item that leads to it, and no child of an index has the name of one. -/
structure Forest (directory children : List String) (plan : List (Planned Module))
    (inner : List Item) : Prop where
  items : plan.flatMap plannedItems = inner
  leads : ∀ item ∈ children.map (Item.mk directory) ++ inner,
    ∃ planned ∈ plan, item.LeadsTo planned.names
  listed : ∀ planned ∈ plan, ∃ item ∈ children.map (Item.mk directory) ++ inner,
    item.LeadsTo planned.names
  orderly : ∀ planned ∈ plan, Orderly planned
  distinct : ∀ planned ∈ plan, (plannedItems planned).Nodup
  deep : ∀ item ∈ inner, item.name ≠ "mod"

/-- The plan of an index at the top. -/
def topIndex (children : List String) (reexported : Bool) : Planned Module :=
  ⟨["mod.rs"], .ok (.index children reexported)⟩

namespace Forest

variable {children : List String} {plan : List (Planned Module)} {inner : List Item}
  {reexported : Bool} {files : List (ModuleFile Module)}

/-- The items of a plan with its index at the top. -/
theorem items_top (h : Forest [] children plan inner) (reexported : Bool) :
    (plan ++ [topIndex children reexported]).flatMap plannedItems
      = inner ++ children.map (Item.mk []) := by
  rw [List.flatMap_append, h.items, List.flatMap_singleton]
  exact congrArg (inner ++ ·) (plannedItems_index [] children reexported)

/-- No item of a plan is there twice if no file is. -/
theorem nodup_items (h : Forest [] children plan inner) (hchildren : children.Nodup)
    (hnames : (namesOf (plan ++ [topIndex children reexported])).Nodup) :
    (inner ++ children.map (Item.mk [])).Nodup := by
  have hmk : Function.Injective (Item.mk []) := fun a b heq => congrArg Item.name heq
  rw [← h.items_top reexported, List.nodup_flatMap]
  constructor
  · refine List.forall_mem_append.mpr ⟨h.distinct, List.forall_mem_singleton.mpr ?_⟩
    have htop : plannedItems (topIndex children reexported) = children.map (Item.mk []) :=
      plannedItems_index [] children reexported
    rw [htop]
    exact hchildren.map hmk
  · refine (List.pairwise_map.mp hnames).imp fun {planned planned'} hne item hitem hitem' => hne ?_
    rw [names_of_mem_plannedItems hitem, names_of_mem_plannedItems hitem']

/-- At most one item of a plan leads to a file other than the index at the top. -/
theorem item_unique (h : Forest [] children plan inner) {names : List String} {item other : Item}
    (hmem : item ∈ inner ++ children.map (Item.mk []))
    (hmem' : other ∈ inner ++ children.map (Item.mk [])) (hleads : item.LeadsTo names)
    (hleads' : other.LeadsTo names) : item = other := by
  -- only a child at the top has the name of an index, and it is in no directory
  have htop : ∀ {item : Item} {directory : List String} {name : String},
      item ∈ inner ++ children.map (Item.mk []) → item.name = "mod" →
        item.directory ≠ directory ++ [name] := by
    intro item directory name hmem hname
    rcases List.mem_append.mp hmem with hmem | hmem
    · exact absurd hname (h.deep item hmem)
    · obtain ⟨child, -, rfl⟩ := List.mem_map.mp hmem
      exact (List.concat_ne_nil _ _).symm
  rcases hleads.cases hleads' with heq | ⟨hname, hdirectory⟩ | ⟨hname, hdirectory⟩
  · exact heq
  · exact absurd hdirectory (htop hmem hname)
  · exact absurd hdirectory (htop hmem' hname)

/-- Each module of a plan but its index has an item that leads to it. -/
theorem exists_item (h : Forest [] children plan inner) {planned : Planned Module}
    (hmem : planned ∈ plan ++ [topIndex children reexported]) (htop : planned.names ≠ ["mod.rs"]) :
    ∃ item ∈ inner ++ children.map (Item.mk []), item.LeadsTo planned.names := by
  rcases List.mem_append.mp hmem with hmem | hmem
  · obtain ⟨item, hitem, hleads⟩ := h.listed planned hmem
    exact ⟨item, List.mem_append.mpr (List.mem_append.mp hitem).symm, hleads⟩
  · rw [List.mem_singleton.mp hmem] at htop
    exact absurd rfl htop

/-- Each item leads to a file. -/
theorem exists_file (h : Forest [] children plan inner)
    (hbuilt : List.Forall₂ Planned.BuiltAs (plan ++ [topIndex children reexported]) files)
    {item : Item} (hmem : item ∈ inner ++ children.map (Item.mk [])) :
    ∃ file ∈ files, item.LeadsTo (FilePath.names file.path) := by
  obtain ⟨planned, hplanned, hleads⟩ :=
    h.leads item (List.mem_append.mpr (List.mem_append.mp hmem).symm)
  obtain ⟨file, hfile, hpath⟩ :=
    exists_of_forall₂_left hbuilt (List.mem_append_left _ hplanned)
  exact ⟨file, hfile, hpath.path.names_path ▸ hleads⟩

/-- The items of the files are those of the plan with identifiers for names. -/
theorem itemsOf_files (h : Forest [] children plan inner)
    (hbuilt : List.Forall₂ Planned.BuiltAs (plan ++ [topIndex children reexported]) files)
    (mount : ModulePath) :
    files.flatMap (itemsOf mount) = (inner ++ children.map (Item.mk [])).map Item.spoken := by
  have horderly : ∀ planned ∈ plan ++ [topIndex children reexported], Orderly planned :=
    List.forall_mem_append.mpr
      ⟨h.orderly, List.forall_mem_singleton.mpr (.index [] children reexported)⟩
  rw [← h.items_top reexported, List.flatMap_def, List.flatMap_def, List.map_flatten,
    List.map_map]
  refine congrArg List.flatten (map_eq_map_iff_forall₂.mpr ?_).symm
  refine ((List.forall₂_and_left _ _).mpr ⟨horderly, hbuilt⟩).imp fun planned file hboth => ?_
  exact (hboth.1.itemsOf_eq hboth.2).symm

/-- In a closed forest the name of an item is the word of an identifier: the file that it leads to
    has an item whose name is. -/
theorem spoken_of_closed (h : Forest [] children plan inner)
    (hbuilt : List.Forall₂ Planned.BuiltAs (plan ++ [topIndex children reexported]) files)
    (hclosed : Closed mount files) {item : Item}
    (hitem : item ∈ inner ++ children.map (Item.mk [])) : Spoken item.name := by
  have hmod : Spoken "mod" := by decide
  obtain ⟨file, hfile, hleads⟩ := h.exists_file hbuilt hitem
  by_cases htop : FilePath.names file.path = ["mod.rs"]
  · rw [htop] at hleads
    exact hleads.name_of_top ▸ hmod
  · obtain ⟨found, hfound⟩ := hclosed.declared file hfile htop
    obtain ⟨hfound, hleads'⟩ := List.mem_filter.mp (hfound ▸ List.mem_singleton_self found)
    rw [h.itemsOf_files hbuilt] at hfound
    obtain ⟨listed, hlisted, rfl⟩ := List.mem_map.mp hfound
    rcases hleads.cases (of_decide_eq_true hleads') with heq | ⟨hname, -⟩ | ⟨hname, hdirectory⟩
    · rw [heq]
      exact Name.spoken_word listed.name
    · exact hname ▸ hmod
    · -- a child with the name of an index is at the top, and not below the item
      have hunspaced : '_' ∉ (Name.of listed.name).word.toList := by
        rw [show (Name.of listed.name).word = "mod" from hname]
        decide
      have hmodName : listed.name = "mod" :=
        (Name.word_of_eq_of_notMem hunspaced).symm.trans hname
      rcases List.mem_append.mp hlisted with hmem | hmem
      · exact absurd hmodName (h.deep listed hmem)
      · obtain ⟨child, -, rfl⟩ := List.mem_map.mp hmem
        exact absurd hdirectory (List.concat_ne_nil _ _).symm

/-- A forest is closed where the names of its items are words of identifiers. -/
theorem closed_of_spoken (h : Forest [] children plan inner) (hchildren : children.Nodup)
    (hbuilt : List.Forall₂ Planned.BuiltAs (plan ++ [topIndex children reexported]) files)
    (hnames : (namesOf (plan ++ [topIndex children reexported])).Nodup)
    (hspoken : ∀ item ∈ inner ++ children.map (Item.mk []), Spoken item.name) :
    Closed mount files := by
  have hitems : files.flatMap (itemsOf mount) = inner ++ children.map (Item.mk []) := by
    rw [h.itemsOf_files hbuilt]
    refine (List.map_congr_left fun item hitem => ?_).trans (List.map_id _)
    exact congrArg (Item.mk item.directory) (Name.word_of_eq_iff.mpr (hspoken item hitem))
  constructor
  · intro item hitem
    exact h.exists_file hbuilt (hitems ▸ hitem)
  · intro file hfile htop
    obtain ⟨planned, hplanned, hpath⟩ := exists_of_forall₂_right hbuilt hfile
    rw [hpath.path.names_path] at htop ⊢
    obtain ⟨item, hitem, hleads⟩ := h.exists_item hplanned htop
    refine ⟨item, ?_⟩
    rw [hitems]
    -- no item is there twice, so it is enough that no other leads to the file
    refine List.perm_singleton.mp ((List.perm_ext_iff_of_nodup
      ((h.nodup_items hchildren hnames).filter _) (List.nodup_singleton item)).mpr fun other => ?_)
    rw [List.mem_filter, List.mem_singleton, decide_eq_true_iff]
    constructor
    · rintro ⟨hmem, hleads'⟩
      exact h.item_unique hmem hitem hleads' hleads
    · rintro rfl
      exact ⟨hitem, hleads⟩

/-- **CLOSED**: a forest with its index is closed exactly when all names of its items are words of
    identifiers. -/
theorem closed_iff (h : Forest [] children plan inner) (hchildren : children.Nodup)
    (hbuilt : List.Forall₂ Planned.BuiltAs (plan ++ [topIndex children reexported]) files)
    (hnames : (namesOf (plan ++ [topIndex children reexported])).Nodup) :
    Closed mount files ↔ ∀ item ∈ inner ++ children.map (Item.mk []), Spoken item.name :=
  ⟨fun hclosed _ hitem => h.spoken_of_closed hbuilt hclosed hitem,
    h.closed_of_spoken hchildren hbuilt hnames⟩

end Forest

end Bindery.Crate
