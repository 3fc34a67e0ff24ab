import Bindery.Description.Load
import Bindery.Operation.Rename

/-! # Links of types and programs — reading, testing and rewriting visit the same ones

    `links` lists the links of a type, `hasLink` tests them and `mapLinks`
    rewrites them, each by a recursion of its own.  The three agree: a test
    holds when it holds of a listed link (`hasLink_iff`), a rewritten type
    lists the images (`links_mapLinks`), and a rewrite is decided by its values
    on the listed links (`mapLinks_congr`), so that one which moves none of
    them changes nothing (`mapLinks_of_fixed`).  Two rewrites one after the
    other are one (`mapLinks_mapLinks`).

    Nothing but links changes: `TypeNode.SameButLinks` relates types that differ
    in the names of links at most, and a type is fixed by its links together
    with one that it differs from in this way (`SameButLinks.eq_of_links`).

    Programs and nodes are tested before they are rewritten, and skipped where
    the test finds nothing.  The test looks at the links that the rewrite looks
    up, so a skip leaves out what the rewrite would leave as it is, and with
    skips or without the result is the same (`SkipsUnchanged`, `mapLinks_exact`). -/

namespace Bindery

namespace TypeNode

mutual

/-- A test holds of some link when it holds of a listed one. -/
theorem hasLink_iff (test : String → Bool) :
    (type : TypeNode) → (type.hasLink test = true ↔ ∃ name ∈ type.links, test name = true)
  | .link name => by
      show test name = true ↔ ∃ n ∈ [name], test n = true
      simp only [List.mem_singleton, exists_eq_left]
  | .fixedSize inner _ => hasLink_iff test inner
  | .option item => hasLink_iff test item
  | .array item _ => hasLink_iff test item
  | .struct fields => anyFieldLink_iff test fields
  | .enum variants => anyVariantLink_iff test variants
  | .number _ | .boolean | .publicKey | .string | .bytes => by simp [hasLink, links]

/-- A test holds of some link of the fields when it holds of a listed one. -/
theorem anyFieldLink_iff (test : String → Bool) : (fields : List StructField) →
    (anyFieldLink test fields = true ↔ ∃ name ∈ fieldLinks fields, test name = true)
  | [] => by simp [anyFieldLink, fieldLinks]
  | ⟨_, type, _⟩ :: fields => by
      rw [anyFieldLink, fieldLinks, Bool.or_eq_true, hasLink_iff test type,
        anyFieldLink_iff test fields]
      simp only [List.mem_append, or_and_right, exists_or]

/-- A test holds of some link of the variants when it holds of a listed one. -/
theorem anyVariantLink_iff (test : String → Bool) : (variants : List EnumVariant) →
    (anyVariantLink test variants = true ↔ ∃ name ∈ variantLinks variants, test name = true)
  | [] => by simp [anyVariantLink, variantLinks]
  | ⟨_, _, none⟩ :: variants => by
      rw [anyVariantLink, variantLinks, anyVariantLink_iff test variants]
  | ⟨_, _, some fields⟩ :: variants => by
      rw [anyVariantLink, variantLinks, Bool.or_eq_true, anyFieldLink_iff test fields,
        anyVariantLink_iff test variants]
      simp only [List.mem_append, or_and_right, exists_or]

end

mutual

/-- The links of a rewritten type are the images of its links, in order. -/
theorem links_mapLinks (rename : String → String) :
    (type : TypeNode) → (type.mapLinks rename).links = type.links.map rename
  | .link _ => rfl
  | .fixedSize inner _ => links_mapLinks rename inner
  | .option item => links_mapLinks rename item
  | .array item _ => links_mapLinks rename item
  | .struct fields => fieldLinks_mapFieldLinks rename fields
  | .enum variants => variantLinks_mapVariantLinks rename variants
  | .number _ | .boolean | .publicKey | .string | .bytes => rfl

/-- The links of rewritten fields are the images of their links, in order. -/
theorem fieldLinks_mapFieldLinks (rename : String → String) : (fields : List StructField) →
    fieldLinks (mapFieldLinks rename fields) = (fieldLinks fields).map rename
  | [] => rfl
  | ⟨_, type, _⟩ :: fields => by
      rw [mapFieldLinks, fieldLinks, fieldLinks, List.map_append, links_mapLinks rename type,
        fieldLinks_mapFieldLinks rename fields]

/-- The links of rewritten variants are the images of their links, in order. -/
theorem variantLinks_mapVariantLinks (rename : String → String) :
    (variants : List EnumVariant) →
      variantLinks (mapVariantLinks rename variants) = (variantLinks variants).map rename
  | [] => rfl
  | ⟨_, _, none⟩ :: variants => by
      rw [mapVariantLinks, variantLinks, variantLinks,
        variantLinks_mapVariantLinks rename variants]
  | ⟨_, _, some fields⟩ :: variants => by
      rw [mapVariantLinks, variantLinks, variantLinks, List.map_append,
        fieldLinks_mapFieldLinks rename fields, variantLinks_mapVariantLinks rename variants]

end

mutual

/-- Rewrites that agree on the links of a type rewrite it alike. -/
theorem mapLinks_congr {f g : String → String} : (type : TypeNode) →
    (∀ name ∈ type.links, f name = g name) → type.mapLinks f = type.mapLinks g
  | .link name, h => congrArg TypeNode.link (h name List.mem_cons_self)
  | .fixedSize inner size, h => congrArg (fixedSize · size) (mapLinks_congr inner h)
  | .option item, h => congrArg option (mapLinks_congr item h)
  | .array item count, h => congrArg (array · count) (mapLinks_congr item h)
  | .struct fields, h => congrArg struct (mapFieldLinks_congr fields h)
  | .enum variants, h => congrArg TypeNode.enum (mapVariantLinks_congr variants h)
  | .number _, _ | .boolean, _ | .publicKey, _ | .string, _ | .bytes, _ => rfl

/-- Rewrites that agree on the links of some fields rewrite them alike. -/
theorem mapFieldLinks_congr {f g : String → String} : (fields : List StructField) →
    (∀ name ∈ fieldLinks fields, f name = g name) →
      mapFieldLinks f fields = mapFieldLinks g fields
  | [], _ => rfl
  | ⟨_, type, _⟩ :: fields, h => by
      rw [mapFieldLinks, mapFieldLinks,
        mapLinks_congr type fun name hn => h name (List.mem_append_left _ hn),
        mapFieldLinks_congr fields fun name hn => h name (List.mem_append_right _ hn)]

/-- Rewrites that agree on the links of some variants rewrite them alike. -/
theorem mapVariantLinks_congr {f g : String → String} : (variants : List EnumVariant) →
    (∀ name ∈ variantLinks variants, f name = g name) →
      mapVariantLinks f variants = mapVariantLinks g variants
  | [], _ => rfl
  | ⟨_, _, none⟩ :: variants, h => by
      rw [mapVariantLinks, mapVariantLinks, mapVariantLinks_congr variants h]
  | ⟨_, _, some fields⟩ :: variants, h => by
      rw [mapVariantLinks, mapVariantLinks,
        mapFieldLinks_congr fields fun name hn => h name (List.mem_append_left _ hn),
        mapVariantLinks_congr variants fun name hn => h name (List.mem_append_right _ hn)]

end

mutual

/-- Rewriting every link to itself changes nothing. -/
theorem mapLinks_id : (type : TypeNode) → type.mapLinks id = type
  | .link _ => rfl
  | .fixedSize inner size => congrArg (fixedSize · size) (mapLinks_id inner)
  | .option item => congrArg option (mapLinks_id item)
  | .array item count => congrArg (array · count) (mapLinks_id item)
  | .struct fields => congrArg struct (mapFieldLinks_id fields)
  | .enum variants => congrArg TypeNode.enum (mapVariantLinks_id variants)
  | .number _ | .boolean | .publicKey | .string | .bytes => rfl

/-- Rewriting every link of some fields to itself changes nothing. -/
theorem mapFieldLinks_id : (fields : List StructField) → mapFieldLinks id fields = fields
  | [] => rfl
  | ⟨_, type, _⟩ :: fields => by
      rw [mapFieldLinks, mapLinks_id type, mapFieldLinks_id fields]

/-- Rewriting every link of some variants to itself changes nothing. -/
theorem mapVariantLinks_id : (variants : List EnumVariant) →
    mapVariantLinks id variants = variants
  | [] => rfl
  | ⟨_, _, none⟩ :: variants => by rw [mapVariantLinks, mapVariantLinks_id variants]
  | ⟨_, _, some fields⟩ :: variants => by
      rw [mapVariantLinks, mapFieldLinks_id fields, mapVariantLinks_id variants]

end

mutual

/-- Rewriting the links of a type twice is rewriting each by both rewrites. -/
theorem mapLinks_mapLinks (f g : String → String) : (type : TypeNode) →
    (type.mapLinks f).mapLinks g = type.mapLinks fun name => g (f name)
  | .link _ => rfl
  | .fixedSize inner size => congrArg (fixedSize · size) (mapLinks_mapLinks f g inner)
  | .option item => congrArg option (mapLinks_mapLinks f g item)
  | .array item count => congrArg (array · count) (mapLinks_mapLinks f g item)
  | .struct fields => congrArg struct (mapFieldLinks_mapFieldLinks f g fields)
  | .enum variants => congrArg TypeNode.enum (mapVariantLinks_mapVariantLinks f g variants)
  | .number _ | .boolean | .publicKey | .string | .bytes => rfl

/-- Rewriting the links of some fields twice is rewriting each by both rewrites. -/
theorem mapFieldLinks_mapFieldLinks (f g : String → String) : (fields : List StructField) →
    mapFieldLinks g (mapFieldLinks f fields) = mapFieldLinks (fun name => g (f name)) fields
  | [] => rfl
  | ⟨_, type, _⟩ :: fields => by
      rw [mapFieldLinks, mapFieldLinks, mapFieldLinks, mapLinks_mapLinks f g type,
        mapFieldLinks_mapFieldLinks f g fields]

/-- Rewriting the links of some variants twice is rewriting each by both rewrites. -/
theorem mapVariantLinks_mapVariantLinks (f g : String → String) :
    (variants : List EnumVariant) →
      mapVariantLinks g (mapVariantLinks f variants)
        = mapVariantLinks (fun name => g (f name)) variants
  | [] => rfl
  | ⟨_, _, none⟩ :: variants => by
      rw [mapVariantLinks, mapVariantLinks, mapVariantLinks,
        mapVariantLinks_mapVariantLinks f g variants]
  | ⟨_, _, some fields⟩ :: variants => by
      rw [mapVariantLinks, mapVariantLinks, mapVariantLinks,
        mapFieldLinks_mapFieldLinks f g fields, mapVariantLinks_mapVariantLinks f g variants]

end

/-- A rewrite that moves no link of a type leaves it as it is. -/
theorem mapLinks_of_fixed {f : String → String} {type : TypeNode}
    (h : ∀ name ∈ type.links, f name = name) : type.mapLinks f = type := by
  rw [mapLinks_congr (g := id) type h, mapLinks_id]

/-- A rewrite that moves no link of some fields leaves them as they are. -/
theorem mapFieldLinks_of_fixed {f : String → String} {fields : List StructField}
    (h : ∀ name ∈ fieldLinks fields, f name = name) : mapFieldLinks f fields = fields := by
  rw [mapFieldLinks_congr (g := id) fields h, mapFieldLinks_id]

/-- The links of some fields are those of their types, in order. -/
theorem fieldLinks_eq_flatMap :
    ∀ fields : List StructField, fieldLinks fields = fields.flatMap (·.type.links)
  | [] => rfl
  | ⟨_, type, _⟩ :: fields => by
      rw [fieldLinks, List.flatMap_cons, fieldLinks_eq_flatMap fields]

/-- The links of some variants are those of their fields, in order. -/
theorem variantLinks_eq_flatMap (variants : List EnumVariant) :
    variantLinks variants = variants.flatMap fun v => fieldLinks (v.fields.getD []) := by
  induction variants with
  | nil => rfl
  | cons variant variants ih =>
      obtain ⟨name, discriminant, fields⟩ := variant
      rw [List.flatMap_cons, ← ih]
      cases fields <;> rfl

/-! ## What a rewrite leaves alone -/

/-- A rewritten type is an option when the type is. -/
theorem isOption_mapLinks (rename : String → String) (type : TypeNode) :
    (type.mapLinks rename).isOption = type.isOption := by
  cases type <;> rfl

/-- The type under an option is rewritten with it. -/
theorem unwrapOption_mapLinks (rename : String → String) (type : TypeNode) :
    (type.mapLinks rename).unwrapOption = type.unwrapOption.mapLinks rename := by
  cases type <;> rfl

/-- A rewritten type is an address when the type is. -/
theorem mapLinks_eq_publicKey {rename : String → String} {type : TypeNode} :
    type.mapLinks rename = .publicKey ↔ type = .publicKey := by
  cases type <;> simp [mapLinks]

end TypeNode

/-! ## Links of a program -/

/-- A map that fixes every item of a list leaves it as it is. -/
theorem map_of_fixed {α : Type} {l : List α} {f : α → α} (h : ∀ a ∈ l, f a = a) :
    l.map f = l := by
  rw [List.map_congr_left h, List.map_id']

namespace Account

/-- A test holds of some link of an account when it holds of a listed one. -/
theorem hasLink_iff (test : String → Bool) (account : Account) :
    account.hasLink test = true
      ↔ ∃ name ∈ account.fields.flatMap (·.type.links), test name = true := by
  simp only [hasLink, List.any_eq_true, TypeNode.hasLink_iff, List.mem_flatMap]
  exact ⟨fun ⟨f, hf, name, hn, ht⟩ => ⟨name, ⟨f, hf, hn⟩, ht⟩,
    fun ⟨name, ⟨f, hf, hn⟩, ht⟩ => ⟨f, hf, name, hn, ht⟩⟩

/-- A rewrite that moves no link of an account leaves it as it is. -/
theorem mapLinks_of_fixed {f : String → String} {account : Account}
    (h : ∀ name ∈ account.fields.flatMap (·.type.links), f name = name) :
    account.mapLinks f = account := by
  rw [mapLinks, TypeNode.mapFieldLinks_of_fixed]
  rwa [TypeNode.fieldLinks_eq_flatMap]

end Account

namespace Instruction

/-- A test holds of some link of an instruction when it holds of a listed one. -/
theorem hasLink_iff (test : String → Bool) (instruction : Instruction) :
    instruction.hasLink test = true
      ↔ ∃ name ∈ instruction.arguments.flatMap (·.type.links), test name = true := by
  simp only [hasLink, List.any_eq_true, TypeNode.hasLink_iff, List.mem_flatMap]
  exact ⟨fun ⟨a, ha, name, hn, ht⟩ => ⟨name, ⟨a, ha, hn⟩, ht⟩,
    fun ⟨name, ⟨a, ha, hn⟩, ht⟩ => ⟨a, ha, name, hn, ht⟩⟩

/-- A rewrite that moves no link of an instruction leaves it as it is. -/
theorem mapLinks_of_fixed {f : String → String} {instruction : Instruction}
    (h : ∀ name ∈ instruction.arguments.flatMap (·.type.links), f name = name) :
    instruction.mapLinks f = instruction := by
  rw [mapLinks, map_of_fixed fun a ha => ?_]
  rw [TypeNode.mapLinks_of_fixed fun name hn => h name (List.mem_flatMap.mpr ⟨a, ha, hn⟩)]

end Instruction

namespace Program

/-- A test holds of some link of a program when it holds of a listed one. -/
theorem hasLink_iff (test : String → Bool) (program : Program) :
    program.hasLink test = true ↔ ∃ name ∈ program.links, test name = true := by
  simp only [hasLink, links, Account.hasLink, Instruction.hasLink, Bool.or_eq_true,
    List.any_eq_true, TypeNode.hasLink_iff, List.mem_append, List.mem_flatMap]
  constructor
  · rintro ((⟨a, ha, f, hf, name, hn, ht⟩ | ⟨i, hi, a, ha, name, hn, ht⟩)
      | ⟨t, ht', name, hn, ht⟩)
    · exact ⟨name, .inl (.inl ⟨a, ha, f, hf, hn⟩), ht⟩
    · exact ⟨name, .inl (.inr ⟨i, hi, a, ha, hn⟩), ht⟩
    · exact ⟨name, .inr ⟨t, ht', hn⟩, ht⟩
  · rintro ⟨name, (⟨a, ha, f, hf, hn⟩ | ⟨i, hi, a, ha, hn⟩) | ⟨t, ht', hn⟩, ht⟩
    · exact .inl (.inl ⟨a, ha, f, hf, name, hn, ht⟩)
    · exact .inl (.inr ⟨i, hi, a, ha, name, hn, ht⟩)
    · exact .inr ⟨t, ht', name, hn, ht⟩

/-- A rewrite that moves no link of a program leaves it as it is. -/
theorem mapLinks_of_fixed {f : String → String} {program : Program}
    (h : ∀ name ∈ program.links, f name = name) : program.mapLinks f = program := by
  simp only [links, List.mem_append] at h
  have haccounts : program.accounts.map (·.mapLinks f) = program.accounts := by
    refine map_of_fixed fun a ha => Account.mapLinks_of_fixed fun name hn => ?_
    exact h name (.inl (.inl (List.mem_flatMap.mpr ⟨a, ha, hn⟩)))
  have hinstructions : program.instructions.map (·.mapLinks f) = program.instructions := by
    refine map_of_fixed fun i hi => Instruction.mapLinks_of_fixed fun name hn => ?_
    exact h name (.inl (.inr (List.mem_flatMap.mpr ⟨i, hi, hn⟩)))
  have htypes : program.definedTypes.map (·.mapLinks f) = program.definedTypes := by
    refine map_of_fixed fun t ht => ?_
    rw [DefinedType.mapLinks, TypeNode.mapLinks_of_fixed]
    exact fun name hn => h name (.inr (List.mem_flatMap.mpr ⟨t, ht, hn⟩))
  rw [mapLinks, haccounts, hinstructions, htypes]

end Program

/-! ## What a rewrite of links keeps -/

mutual

/-- Two types are the same but for the names in links. -/
inductive TypeNode.SameButLinks : TypeNode → TypeNode → Prop
  | link (old new : String) : SameButLinks (.link old) (.link new)
  | fixedSize {inner inner' : TypeNode} (size : UInt64) (h : inner.SameButLinks inner') :
      SameButLinks (.fixedSize inner size) (.fixedSize inner' size)
  | option {item item' : TypeNode} (h : item.SameButLinks item') :
      SameButLinks (.option item) (.option item')
  | array {item item' : TypeNode} (count : Option UInt64) (h : item.SameButLinks item') :
      SameButLinks (.array item count) (.array item' count)
  | struct {fields fields' : List StructField} (h : TypeNode.SameFields fields fields') :
      SameButLinks (.struct fields) (.struct fields')
  | enum {variants variants' : List EnumVariant} (h : TypeNode.SameVariants variants variants') :
      SameButLinks (.enum variants) (.enum variants')
  | number (format : NumberFormat) : SameButLinks (.number format) (.number format)
  | boolean : SameButLinks .boolean .boolean
  | publicKey : SameButLinks .publicKey .publicKey
  | string : SameButLinks .string .string
  | bytes : SameButLinks .bytes .bytes

/-- Two lists of fields are the same but for the names in links. -/
inductive TypeNode.SameFields : List StructField → List StructField → Prop
  | nil : SameFields [] []
  | cons {type type' : TypeNode} {fields fields' : List StructField} (name : String)
      (docs : List String) (h : type.SameButLinks type') (hrest : SameFields fields fields') :
      SameFields (⟨name, type, docs⟩ :: fields) (⟨name, type', docs⟩ :: fields')

/-- Two lists of variants are the same but for the names in links. -/
inductive TypeNode.SameVariants : List EnumVariant → List EnumVariant → Prop
  | nil : SameVariants [] []
  | empty {variants variants' : List EnumVariant} (name : String) (discriminant : Option UInt64)
      (hrest : SameVariants variants variants') :
      SameVariants (⟨name, discriminant, none⟩ :: variants)
        (⟨name, discriminant, none⟩ :: variants')
  | data {fields fields' : List StructField} {variants variants' : List EnumVariant}
      (name : String) (discriminant : Option UInt64) (h : TypeNode.SameFields fields fields')
      (hrest : SameVariants variants variants') :
      SameVariants (⟨name, discriminant, some fields⟩ :: variants)
        (⟨name, discriminant, some fields'⟩ :: variants')

end

namespace TypeNode

mutual

/-- A rewritten type is the same but for the names in links. -/
theorem sameButLinks_mapLinks (rename : String → String) :
    (type : TypeNode) → type.SameButLinks (type.mapLinks rename)
  | .link old => .link old (rename old)
  | .fixedSize inner size => .fixedSize size (sameButLinks_mapLinks rename inner)
  | .option item => .option (sameButLinks_mapLinks rename item)
  | .array item count => .array count (sameButLinks_mapLinks rename item)
  | .struct fields => .struct (sameFields_mapFieldLinks rename fields)
  | .enum variants => .enum (sameVariants_mapVariantLinks rename variants)
  | .number format => .number format
  | .boolean => .boolean
  | .publicKey => .publicKey
  | .string => .string
  | .bytes => .bytes

/-- Rewritten fields are the same but for the names in links. -/
theorem sameFields_mapFieldLinks (rename : String → String) :
    (fields : List StructField) → SameFields fields (mapFieldLinks rename fields)
  | [] => .nil
  | ⟨name, type, docs⟩ :: fields =>
      .cons name docs (sameButLinks_mapLinks rename type) (sameFields_mapFieldLinks rename fields)

/-- Rewritten variants are the same but for the names in links. -/
theorem sameVariants_mapVariantLinks (rename : String → String) :
    (variants : List EnumVariant) → SameVariants variants (mapVariantLinks rename variants)
  | [] => .nil
  | ⟨name, discriminant, none⟩ :: variants =>
      .empty name discriminant (sameVariants_mapVariantLinks rename variants)
  | ⟨name, discriminant, some fields⟩ :: variants =>
      .data name discriminant (sameFields_mapFieldLinks rename fields)
        (sameVariants_mapVariantLinks rename variants)

end

mutual

/-- Types that are the same but for the names in links have as many links. -/
theorem SameButLinks.length_links : {type other : TypeNode} → type.SameButLinks other →
    type.links.length = other.links.length
  | _, _, .link _ _ => rfl
  | _, _, .fixedSize _ h | _, _, .option h | _, _, .array _ h => h.length_links
  | _, _, .struct h => h.length_links
  | _, _, .enum h => h.length_links
  | _, _, .number _ | _, _, .boolean | _, _, .publicKey | _, _, .string | _, _, .bytes => rfl

/-- Fields that are the same but for the names in links have as many links. -/
theorem SameFields.length_links : {fields other : List StructField} → SameFields fields other →
    (fieldLinks fields).length = (fieldLinks other).length
  | _, _, .nil => rfl
  | _, _, .cons _ _ h hrest => by
      rw [fieldLinks, fieldLinks, List.length_append, List.length_append, h.length_links,
        hrest.length_links]

/-- Variants that are the same but for the names in links have as many links. -/
theorem SameVariants.length_links : {variants other : List EnumVariant} →
    SameVariants variants other → (variantLinks variants).length = (variantLinks other).length
  | _, _, .nil => rfl
  | _, _, .empty _ _ hrest => hrest.length_links
  | _, _, .data _ _ h hrest => by
      rw [variantLinks, variantLinks, List.length_append, List.length_append, h.length_links,
        hrest.length_links]

end

mutual

/-- **LINKS AND THE REST**: a type that is the same as another one but for the names in links is
    told by its links. -/
theorem SameButLinks.eq_of_links : {type one other : TypeNode} → type.SameButLinks one →
    type.SameButLinks other → one.links = other.links → one = other
  | _, _, _, .link _ one, .link _ other, h => congrArg link (List.cons.inj h).1
  | _, _, _, .fixedSize size h, .fixedSize _ h', hlinks =>
      congrArg (fixedSize · size) (h.eq_of_links h' hlinks)
  | _, _, _, .option h, .option h', hlinks => congrArg option (h.eq_of_links h' hlinks)
  | _, _, _, .array count h, .array _ h', hlinks =>
      congrArg (array · count) (h.eq_of_links h' hlinks)
  | _, _, _, .struct h, .struct h', hlinks => congrArg struct (h.eq_of_links h' hlinks)
  | _, _, _, .enum h, .enum h', hlinks => congrArg TypeNode.enum (h.eq_of_links h' hlinks)
  | _, _, _, .number _, .number _, _ | _, _, _, .boolean, .boolean, _
  | _, _, _, .publicKey, .publicKey, _ | _, _, _, .string, .string, _
  | _, _, _, .bytes, .bytes, _ => rfl

/-- Fields that are the same as others but for the names in links are told by their links. -/
theorem SameFields.eq_of_links : {fields one other : List StructField} → SameFields fields one →
    SameFields fields other → fieldLinks one = fieldLinks other → one = other
  | _, _, _, .nil, .nil, _ => rfl
  | _, _, _, .cons _ _ h hrest, .cons _ _ h' hrest', hlinks => by
      obtain ⟨htype, hfields⟩ :=
        List.append_inj hlinks (h.length_links.symm.trans h'.length_links)
      rw [h.eq_of_links h' htype, hrest.eq_of_links hrest' hfields]

/-- Variants that are the same as others but for the names in links are told by their links. -/
theorem SameVariants.eq_of_links : {variants one other : List EnumVariant} →
    SameVariants variants one → SameVariants variants other →
      variantLinks one = variantLinks other → one = other
  | _, _, _, .nil, .nil, _ => rfl
  | _, _, _, .empty _ _ hrest, .empty _ _ hrest', hlinks => by
      rw [hrest.eq_of_links hrest' hlinks]
  | _, _, _, .data _ _ h hrest, .data _ _ h' hrest', hlinks => by
      obtain ⟨hfields, hvariants⟩ :=
        List.append_inj hlinks (h.length_links.symm.trans h'.length_links)
      rw [h.eq_of_links h' hfields, hrest.eq_of_links hrest' hvariants]

end

/-- **A REWRITTEN TYPE**: it is the same but for the names in links, and it has the images of
    the links, in order; no other type is and has. -/
theorem eq_mapLinks_iff {rename : String → String} {type other : TypeNode} :
    other = type.mapLinks rename
      ↔ type.SameButLinks other ∧ other.links = type.links.map rename := by
  constructor
  · rintro rfl
    exact ⟨sameButLinks_mapLinks rename type, links_mapLinks rename type⟩
  · rintro ⟨hsame, hlinks⟩
    exact hsame.eq_of_links (sameButLinks_mapLinks rename type)
      (hlinks.trans (links_mapLinks rename type).symm)

end TypeNode

/-! ## Skips -/

/-- A rewrite with a test in front of it: what the test skips is left alone, which the rewrite
    would do as well, so that the result is that of the rewrite. -/
structure SkipsUnchanged {α : Type} (test : α → Bool) (rewrite skipping : α → α) : Prop where
  skipped : ∀ a, test a = false → skipping a = a ∧ rewrite a = a
  same : ∀ a, skipping a = rewrite a

/-- A test in front of a rewrite skips what is unchanged if the rewrite changes nothing that
    fails the test. -/
theorem SkipsUnchanged.of_ite {α : Type} {test : α → Bool} {rewrite skipping : α → α}
    (hskipping : ∀ a, skipping a = if test a then rewrite a else a)
    (hskipped : ∀ a, ¬ test a = true → rewrite a = a) :
    SkipsUnchanged test rewrite skipping where
  skipped a h := by
    have hskip : ¬ test a = true := Bool.eq_false_iff.mp h
    rw [hskipping, if_neg hskip]
    exact ⟨rfl, hskipped a hskip⟩
  same a := by
    rw [hskipping]
    exact ite_eq_left_iff.mpr fun hskip => (hskipped a hskip).symm

/-- A change that fixes every default of an instruction leaves it as it is. -/
theorem Instruction.mapDefaults_of_fixed {change : DefaultValue → DefaultValue}
    {instruction : Instruction} (h : ∀ value ∈ instruction.defaults, change value = value) :
    instruction.mapDefaults change = instruction := by
  simp only [defaults, List.mem_append, List.mem_filterMap] at h
  have hfixed : ∀ {value : Option DefaultValue},
      (∀ v, value = some v → change v = v) → value.map change = value := by
    intro value hvalue
    cases value with
    | none => rfl
    | some v => exact congrArg some (hvalue v rfl)
  have haccounts : instruction.accounts.map (fun a =>
      { a with defaultValue := a.defaultValue.map change }) = instruction.accounts := by
    refine map_of_fixed fun a ha => ?_
    rw [hfixed fun v hv => h v (.inl ⟨a, ha, hv⟩)]
  have harguments : instruction.arguments.map (fun a =>
      { a with defaultValue := a.defaultValue.map change }) = instruction.arguments := by
    refine map_of_fixed fun a ha => ?_
    rw [hfixed fun v hv => h v (.inr ⟨a, ha, hv⟩)]
  rw [mapDefaults, haccounts, harguments]

section Skips

variable (renamed : String → Option String)

/-- Among names of which none has become another, each is as it was. -/
theorem nameAfter_of_skipped {links : List String}
    (h : ¬ ∃ name ∈ links, (renamed name).isSome = true) :
    ∀ name ∈ links, nameAfter renamed name = name := by
  intro name hname
  have hnone : renamed name = none :=
    Option.not_isSome_iff_eq_none.mp fun hsome => h ⟨name, hname, hsome⟩
  rw [nameAfter, hnone, Option.getD_none]

/-- An account is skipped where its links stay as they are. -/
theorem Account.renameLinks_skips :
    SkipsUnchanged (Account.hasLink fun name => (renamed name).isSome)
      (Account.mapLinks (nameAfter renamed)) (Account.renameLinks renamed) := by
  refine .of_ite (fun _ => rfl) fun account hskip => mapLinks_of_fixed ?_
  exact nameAfter_of_skipped renamed (mt (hasLink_iff _ _).mpr hskip)

/-- An instruction is skipped where its links stay as they are. -/
theorem Instruction.renameLinks_skips :
    SkipsUnchanged (Instruction.hasLink fun name => (renamed name).isSome)
      (Instruction.mapLinks (nameAfter renamed)) (Instruction.renameLinks renamed) := by
  refine .of_ite (fun _ => rfl) fun instruction hskip => mapLinks_of_fixed ?_
  exact nameAfter_of_skipped renamed (mt (hasLink_iff _ _).mpr hskip)

/-- A defined type is skipped where its links stay as they are. -/
theorem DefinedType.renameLinks_skips :
    SkipsUnchanged (fun defined : DefinedType => defined.type.hasLink fun name =>
        (renamed name).isSome)
      (DefinedType.mapLinks (nameAfter renamed)) (DefinedType.renameLinks renamed) := by
  refine .of_ite (fun _ => rfl) fun defined hskip => ?_
  rw [mapLinks, TypeNode.mapLinks_of_fixed]
  exact nameAfter_of_skipped renamed (mt (TypeNode.hasLink_iff _ _).mpr hskip)

/-- A program is skipped where its links stay as they are, and so are nodes of a program that is
    not. -/
theorem Program.renameLinks_skips :
    SkipsUnchanged (Program.hasLink fun name => (renamed name).isSome)
      (Program.mapLinks (nameAfter renamed)) (Program.renameLinks renamed) := by
  refine .of_ite (fun program => ?_) fun program hskip => mapLinks_of_fixed ?_
  · rw [renameLinks, mapLinks, funext (Account.renameLinks_skips renamed).same,
      funext (Instruction.renameLinks_skips renamed).same,
      funext (DefinedType.renameLinks_skips renamed).same]
  · exact nameAfter_of_skipped renamed (mt (hasLink_iff _ _).mpr hskip)

/-- An instruction is skipped where the accounts whose addresses it derives stay as they are. -/
theorem Instruction.renameOwners_skips :
    SkipsUnchanged (Instruction.derives fun name => (renamed name).isSome)
      (Instruction.mapDefaults (·.renameAccount renamed)) (Instruction.renameOwners renamed) := by
  refine .of_ite (fun _ => rfl) fun instruction hskip => mapDefaults_of_fixed fun value hvalue => ?_
  cases value with
  | pda owner seeds =>
      have hnone : renamed owner = none := by
        rw [← Option.not_isSome_iff_eq_none]
        exact fun hsome => hskip (List.any_eq_true.mpr ⟨_, hvalue, hsome⟩)
      show DefaultValue.pda ((renamed owner).getD owner) seeds = _
      rw [hnone, Option.getD_none]
  | _ => rfl

/-- **LINKS ARE READ, TESTED AND REWRITTEN ALIKE**: a type in which every link is looked up once
    is the one type that is the same but for the names in links and has the images of its
    links, in order.  A test holds of some link exactly when it holds of a listed one.  Hence a
    program, account, instruction or type that is skipped, since none of its links or none of
    the accounts whose addresses it derives is renamed, is one that the rewrite would leave as
    it is, and with skips the result is that of the rewrite. -/
theorem mapLinks_exact :
    (∀ type other : TypeNode, other = type.mapLinks (nameAfter renamed)
        ↔ type.SameButLinks other ∧ other.links = type.links.map (nameAfter renamed))
      ∧ (∀ (type : TypeNode) (test : String → Bool),
          type.hasLink test = true ↔ ∃ name ∈ type.links, test name = true)
      ∧ SkipsUnchanged (Program.hasLink fun name => (renamed name).isSome)
          (Program.mapLinks (nameAfter renamed)) (Program.renameLinks renamed)
      ∧ SkipsUnchanged (Account.hasLink fun name => (renamed name).isSome)
          (Account.mapLinks (nameAfter renamed)) (Account.renameLinks renamed)
      ∧ SkipsUnchanged (Instruction.hasLink fun name => (renamed name).isSome)
          (Instruction.mapLinks (nameAfter renamed)) (Instruction.renameLinks renamed)
      ∧ SkipsUnchanged (fun defined : DefinedType => defined.type.hasLink fun name =>
            (renamed name).isSome)
          (DefinedType.mapLinks (nameAfter renamed)) (DefinedType.renameLinks renamed)
      ∧ SkipsUnchanged (Instruction.derives fun name => (renamed name).isSome)
          (Instruction.mapDefaults (·.renameAccount renamed))
          (Instruction.renameOwners renamed) :=
  ⟨fun _ _ => TypeNode.eq_mapLinks_iff, fun type test => type.hasLink_iff test,
    Program.renameLinks_skips renamed, Account.renameLinks_skips renamed,
    Instruction.renameLinks_skips renamed, DefinedType.renameLinks_skips renamed,
    Instruction.renameOwners_skips renamed⟩

end Skips

end Bindery
