import Bindery.Proofs.Attachments
import Bindery.Proofs.Loading

/-! # Assigned tags — distinct and in their formats

    A collection without a collision has tags that differ in place or bytes
    (`collision?_eq_none`).  What each source gives is a relation of its own
    (`DiscriminatorSource.Gives`); an operation has a tag for a name exactly when its
    source gives a value that fits (`valueFor_eq_ok_iff`).  So a program stays
    properly tagged when the members of a collection get tags, whichever are selected
    (`Program.Tagged.setTags`). -/

namespace Bindery

/-- Siblings do not collide when their tags differ from each other and from those
    seen. -/
theorem collision?_eq_none : ∀ {siblings : List Sibling} {seen : List (Discriminator × String)},
    Sibling.collision? seen siblings = none ↔
      RepeatsNothing (seen.map (·.1.key)) ((siblings.filterMap (·.tag)).map (·.key)) := by
  intro siblings
  induction siblings with
  | nil => exact fun {_} => ⟨fun _ => repeatsNothing_nil, fun _ => rfl⟩
  | cons sibling siblings ih =>
      intro seen
      obtain ⟨name, tag⟩ := sibling
      cases tag with
      | none => exact ih
      | some tag =>
          have hcons : ((Sibling.mk name (some tag) :: siblings).filterMap (·.tag)).map (·.key)
              = tag.key :: (siblings.filterMap (·.tag)).map (·.key) := rfl
          rw [hcons, repeatsNothing_cons, Sibling.collision?]
          cases hfound : seen.find? (·.1.key = tag.key) with
          | some first =>
              exact ⟨fun h => (nomatch h), fun h => absurd (mem_names_of_find? hfound) h.1⟩
          | none =>
              have hnew := notMem_names_of_find? hfound
              exact ⟨fun h => ⟨hnew, ih.mp h⟩, fun h => ih.mpr h.2⟩

/-! ## What sources give -/

/-- A hashed tag has eight bytes. -/
theorem length_sighash (namespaceName name : String) :
    (sighash namespaceName name).length = 8 := by
  simp [sighash, Sha256.digest, Sha256.wordBytes, sighashLength]

/-- What a source has for a name of some rank among those selected; `variants` are those
    it draws on. -/
inductive DiscriminatorSource.Gives (variants : List EnumVariant) :
    DiscriminatorSource → String → Nat → DiscriminatorValue → Prop
  | sequential {start : UInt64} {size : NumberFormat} {name : String} {rank : Nat}
      (hroom : start.toNat + rank < wordCount 64) :
      Gives variants (.sequential start size) name rank
        (.number size (UInt64.ofNat (start.toNat + rank)))
  | explicit {values : SortedMap String UInt64} {size : NumberFormat} {name : String}
      {rank : Nat} {value : UInt64} (hlisted : values.get? name = some value) :
      Gives variants (.explicit values size) name rank (.number size value)
  | enumVariants {enumType : NodePath} {size : NumberFormat} {name : String} {rank k : Nat}
      {variant : EnumVariant} (hvariant : variants[k]? = some variant)
      (hname : Text.snakeCase variant.name = Text.snakeCase name)
      (hfirst : ∀ j < k, ∀ earlier, variants[j]? = some earlier →
        Text.snakeCase earlier.name ≠ Text.snakeCase name) :
      Gives variants (.enumVariants enumType size) name rank (.number size (variant.tag k))
  | sighash {namespaceName name : String} {rank : Nat} {bytes : List UInt8}
      (hhash : bytes = Bindery.sighash namespaceName name) (height : bytes.length = 8) :
      Gives variants (.sighash namespaceName) name rank (.bytes bytes)

/-- The first item with a property, with its position. -/
theorem find?_zipIdx_eq_some_iff {α : Type} {p : α → Bool} {l : List α} {a : α} {k : Nat} :
    l.zipIdx.find? (fun item => p item.1) = some (a, k) ↔
      l[k]? = some a ∧ p a = true ∧ ∀ j < k, ∀ b, l[j]? = some b → p b = false := by
  rw [List.find?_eq_some_iff_getElem]
  simp only [List.length_zipIdx, List.getElem_zipIdx, Nat.zero_add, Prod.mk.injEq,
    Bool.not_eq_true']
  constructor
  · rintro ⟨ha, i, hi, ⟨hat, rfl⟩, hfirst⟩
    refine ⟨List.getElem?_eq_some_iff.mpr ⟨hi, hat⟩, ha, fun j hj b hb => ?_⟩
    obtain ⟨_, rfl⟩ := List.getElem?_eq_some_iff.mp hb
    exact hfirst j hj
  · rintro ⟨hat, ha, hfirst⟩
    obtain ⟨hk, hat⟩ := List.getElem?_eq_some_iff.mp hat
    exact ⟨ha, k, hk, ⟨hat, rfl⟩, fun j hj =>
      hfirst j hj _ (List.getElem?_eq_getElem (hj.trans hk))⟩

namespace AssignDiscriminators

variable {operation : AssignDiscriminators} {variants : List EnumVariant}

/-- A list of values has a number for the names in it. -/
theorem numberFor_explicit_iff {values : SortedMap String UInt64} {format size : NumberFormat}
    {name : String} {rank : Nat} {value : UInt64} :
    numberFor (.explicit values format) variants name rank = .ok (size, value) ↔
      size = format ∧ values.get? name = some value := by
  cases hlisted : values.get? name with
  | none =>
      simp only [numberFor, hlisted]
      exact iff_of_false (by simp) (by simp)
  | some given =>
      simp only [numberFor, hlisted, Except.ok.injEq, Prod.mk.injEq, Option.some.injEq]
      exact and_congr_left fun _ => eq_comm

/-- An enum has a number for the names of its variants, in snake case: the tag of the first. -/
theorem numberFor_enumVariants_iff {enumType : NodePath} {format size : NumberFormat}
    {name : String} {rank : Nat} {value : UInt64} :
    numberFor (.enumVariants enumType format) variants name rank = .ok (size, value) ↔
      ∃ (variant : EnumVariant) (k : Nat), (variants[k]? = some variant
          ∧ Text.snakeCase variant.name = Text.snakeCase name
          ∧ ∀ j < k, ∀ earlier : EnumVariant, variants[j]? = some earlier →
            Text.snakeCase earlier.name ≠ Text.snakeCase name)
        ∧ size = format ∧ value = variant.tag k := by
  have hfirst : ∀ (variant : EnumVariant) (k : Nat), variants.zipIdx.find? (fun item =>
      decide (Text.snakeCase item.1.name = Text.snakeCase name)) = some (variant, k) ↔
        variants[k]? = some variant ∧ Text.snakeCase variant.name = Text.snakeCase name
          ∧ ∀ j < k, ∀ earlier : EnumVariant, variants[j]? = some earlier →
            Text.snakeCase earlier.name ≠ Text.snakeCase name := by
    intro variant k
    rw [find?_zipIdx_eq_some_iff (p := fun variant : EnumVariant =>
      decide (Text.snakeCase variant.name = Text.snakeCase name))]
    simp only [decide_eq_true_eq, decide_eq_false_iff_not, ne_eq]
  simp only [← hfirst, numberFor]
  cases variants.zipIdx.find? (fun item =>
      decide (Text.snakeCase item.1.name = Text.snakeCase name)) with
  | none => exact iff_of_false (fun h => (nomatch h)) fun ⟨_, _, h, _⟩ => (nomatch h)
  | some found =>
      constructor
      · intro h
        obtain ⟨rfl, rfl⟩ := Prod.mk.inj (Except.ok.inj h)
        exact ⟨found.1, found.2, rfl, rfl, rfl⟩
      · rintro ⟨variant, k, hfound, rfl, rfl⟩
        rw [Option.some.inj hfound]

/-- A source has a number for a name exactly when it gives it. -/
theorem numberFor_eq_ok_iff {source : DiscriminatorSource} {name : String} {rank : Nat}
    {size : NumberFormat} {value : UInt64} :
    numberFor source variants name rank = .ok (size, value) ↔
      source.Gives variants name rank (.number size value) := by
  cases source with
  | sequential start format =>
      rw [numberFor, ite_eq_ok, Prod.mk.injEq]
      constructor
      · rintro ⟨hroom, rfl, rfl⟩
        have hsum : start + UInt64.ofNat rank = UInt64.ofNat (start.toNat + rank) := by
          rw [UInt64.ofNat_add, UInt64.ofNat_toNat]
        exact hsum ▸ .sequential hroom
      · rintro ⟨hroom⟩
        exact ⟨hroom, rfl, by rw [UInt64.ofNat_add, UInt64.ofNat_toNat]⟩
  | explicit values format =>
      rw [numberFor_explicit_iff]
      constructor
      · rintro ⟨rfl, hgiven⟩
        exact .explicit hgiven
      · intro h
        cases h with
        | explicit hgiven => exact ⟨rfl, hgiven⟩
  | enumVariants enumType format =>
      rw [numberFor_enumVariants_iff]
      constructor
      · rintro ⟨variant, k, ⟨hvariant, hname, hfirst⟩, rfl, rfl⟩
        exact .enumVariants hvariant hname hfirst
      · intro h
        cases h with
        | enumVariants hvariant hname hfirst =>
            exact ⟨_, _, ⟨hvariant, hname, hfirst⟩, rfl, rfl⟩
  | sighash ns =>
      constructor
      · intro h; exact nomatch h
      · intro h; exact nomatch h

/-- An operation has a tag for a name exactly when its source gives a value that fits. -/
theorem valueFor_eq_ok_iff {name : String} {rank : Nat} {tag : Discriminator} :
    operation.valueFor variants name rank = .ok tag ↔
      ∃ value, operation.source.Gives variants name rank value ∧ value.Fits
        ∧ tag = ⟨value, operation.offset⟩ := by
  unfold valueFor
  cases operation.source
  case sighash ns =>
    constructor
    · intro h
      exact ⟨_, .sighash rfl (length_sighash ns name), trivial, (Except.ok.inj h).symm⟩
    · rintro ⟨value, hgives, -, rfl⟩
      cases hgives with
      | sighash hhash _ => rw [hhash]
  all_goals
    refine bind_eq_ok.trans ?_
    constructor
    · rintro ⟨⟨size, value⟩, hnumber, h⟩
      obtain ⟨hfits, h⟩ := ite_eq_ok.mp h
      exact ⟨_, numberFor_eq_ok_iff.mp hnumber, encodeUnsigned_isSome_iff.mp hfits, h.symm⟩
    · rintro ⟨value, hgives, hfits, rfl⟩
      cases value with
      | number size value =>
          exact ⟨(size, value), numberFor_eq_ok_iff.mpr hgives,
            ite_eq_ok.mpr ⟨encodeUnsigned_isSome_iff.mpr hfits, rfl⟩⟩
      | bytes bytes => exact nomatch hgives

/-- The tag that an operation has for a sibling fits. -/
theorem valueFor_fits {name : String} {ordinal : Nat} {tag : Discriminator}
    (h : operation.valueFor variants name ordinal = .ok tag) : tag.value.Fits := by
  obtain ⟨value, -, hfits, rfl⟩ := valueFor_eq_ok_iff.mp h
  exact hfits

/-- Tags are assigned exactly when there is one for every selected sibling, by its rank. -/
theorem assigned_eq_ok_iff {siblings : List Sibling} {tags : List (String × Discriminator)} :
    operation.assigned variants siblings = .ok tags ↔
      List.Forall₂ (fun item entry => entry.1 = item.1.name
          ∧ operation.valueFor variants item.1.name item.2 = .ok entry.2)
        (siblings.filter fun s => operation.selects s.name).zipIdx tags := by
  constructor
  · intro h
    refine (forall₂_of_mapM_eq_ok h).imp fun item entry hitem => ?_
    cases hvalue : operation.valueFor variants item.1.name item.2 with
    | error fault => simp only [hvalue] at hitem; exact nomatch hitem
    | ok tag =>
        simp only [hvalue] at hitem
        rw [← Except.ok.inj hitem]
        exact ⟨rfl, rfl⟩
  · intro h
    refine mapM_eq_ok_of_forall₂ (h.imp fun item entry hitem => ?_)
    obtain ⟨name, tag⟩ := entry
    obtain ⟨rfl, hvalue⟩ := hitem
    simp only [hvalue]

/-- A tag that is found for a name is one that the operation has for a sibling of some rank. -/
theorem exists_valueFor {siblings : List Sibling} {tags : List (String × Discriminator)}
    (h : operation.assigned variants siblings = .ok tags) {name : String} {tag : Discriminator}
    (htag : tagOf? tags name = some tag) :
    ∃ sibling rank, operation.valueFor variants sibling rank = .ok tag := by
  obtain ⟨⟨found, _⟩, hfound, rfl⟩ := Option.map_eq_some_iff.mp htag
  have hmem := List.mem_reverse.mp (List.mem_of_find?_eq_some hfound)
  obtain ⟨item, -, -, hvalue⟩ := exists_of_forall₂_right (assigned_eq_ok_iff.mp h) hmem
  exact ⟨item.1.name, item.2, hvalue⟩

end AssignDiscriminators

/-! ## Programs stay tagged -/

namespace Program

variable {program : Program} {set : SiblingSet} {tagOf? : String → Option Discriminator}

/-- The tags of instructions are those of siblings. -/
theorem instructionTags_eq (program : Program) :
    program.instructions.filterMap (·.discriminator)
      = (program.siblings .instructions).filterMap (·.tag) := by
  simp only [siblings, List.filterMap_map]
  rfl

/-- The tags of a program are those of its siblings. -/
theorem forall_tags_iff {P : Discriminator → Prop} (program : Program) :
    (∀ tag ∈ program.tags, P tag) ↔
      ∀ set, ∀ s ∈ program.siblings set, ∀ tag, s.tag = some tag → P tag := by
  have haccounts : program.accounts.filterMap (·.discriminator)
      = (program.siblings .accounts).filterMap (·.tag) := by
    simp only [siblings, List.filterMap_map]
    rfl
  rw [tags, haccounts, instructionTags_eq, List.forall_mem_append]
  simp only [List.mem_filterMap]
  constructor
  · rintro ⟨haccount, hinstruction⟩ set s hs tag htag
    cases set with
    | accounts => exact haccount tag ⟨s, hs, htag⟩
    | instructions => exact hinstruction tag ⟨s, hs, htag⟩
  · intro h
    exact ⟨fun tag ⟨s, hs, htag⟩ => h .accounts s hs tag htag,
      fun tag ⟨s, hs, htag⟩ => h .instructions s hs tag htag⟩

/-- The members of a collection that gets tags keep their own where they get none. -/
theorem siblings_setTags (program : Program) (set : SiblingSet) :
    (program.setTags set tagOf?).siblings set
      = (program.siblings set).map fun s => ⟨s.name, tagOf? s.name <|> s.tag⟩ := by
  cases set with
  | accounts => simp only [setTags, siblings, List.map_map]; rfl
  | instructions => simp only [setTags, siblings, List.map_map]; rfl

/-- The members of the other collection keep their tags. -/
theorem siblings_setTags_of_ne {other : SiblingSet} (h : other ≠ set) :
    (program.setTags set tagOf?).siblings other = program.siblings other := by
  cases set with
  | accounts =>
      cases other with
      | accounts => exact absurd rfl h
      | instructions => rfl
  | instructions =>
      cases other with
      | accounts => rfl
      | instructions => exact absurd rfl h

/-- What holds of all tags and of those that are given holds of all tags then. -/
theorem forall_tags_setTags {P : Discriminator → Prop} (hbefore : ∀ tag ∈ program.tags, P tag)
    (hnew : ∀ name tag, tagOf? name = some tag → P tag) :
    ∀ tag ∈ (program.setTags set tagOf?).tags, P tag := by
  have hbefore := (forall_tags_iff program).mp hbefore
  refine (forall_tags_iff _).mpr fun other => ?_
  by_cases hother : other = set
  · subst hother
    rw [siblings_setTags]
    refine List.forall_mem_map.mpr fun s hs tag htag => ?_
    -- a tag is a new one or was there before
    cases hgiven : tagOf? s.name with
    | some given =>
        simp only [hgiven] at htag
        exact hnew s.name tag (hgiven.trans htag)
    | none =>
        simp only [hgiven] at htag
        exact hbefore other s hs tag htag
  · rw [siblings_setTags_of_ne hother]
    exact hbefore other

/-- A program whose members get tags without a collision stays properly tagged. -/
theorem Tagged.setTags (h : program.Tagged)
    (hcollision : Sibling.collision? [] ((program.siblings set).map fun s =>
      ⟨s.name, tagOf? s.name <|> s.tag⟩) = none)
    (hfits : ∀ name tag, tagOf? name = some tag → tag.value.Fits) :
    (program.setTags set tagOf?).Tagged where
  distinct := by
    rw [← siblings_setTags] at hcollision
    cases set with
    | accounts => exact h.distinct
    | instructions =>
        rw [instructionTags_eq]
        exact repeatsNothing_iff_nodup.mp (collision?_eq_none.mp hcollision)
  fits := forall_tags_setTags h.fits hfits

end Program

/-- **TAGS STAY APART**: assigning tags keeps a tree well-formed. -/
theorem AssignDiscriminators.apply_wellFormed {tree next : Tree}
    {operation : AssignDiscriminators} (hw : tree.WellFormed)
    (h : operation.apply (Index.of tree) = .ok next) : next.WellFormed := by
  refine hw.of_keeping_eq (AssignDiscriminators.frame h) ?_
  obtain ⟨p, program, variants, tags, hp, -, hassigned, hcollision, rfl⟩ := apply_eq_ok h
  refine forall_mem_modify hw.tagged fun found hfound => ?_
  obtain rfl := Option.some.inj (hp.symm.trans hfound)
  have htagged := hw.tagged program (List.mem_of_getElem? hp)
  refine htagged.setTags hcollision fun name tag htag => ?_
  obtain ⟨sibling, rank, hvalue⟩ := exists_valueFor hassigned htag
  exact valueFor_fits hvalue

end Bindery
