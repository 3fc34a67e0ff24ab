import Bindery.Crate.Render
import Bindery.Package.Render
import Bindery.Proofs.Except
import Mathlib.Data.List.Chain

/-! # Values of enums — what variants stand for in both outputs

    In both generated languages a member of an enum may have a literal.  One
    without follows the member before it, and the first of all is zero
    (`enumValues`).  A crate writes either a literal for every variant, its tag,
    or none at all; so its values are the tags or the positions
    (`Crate.values_of_ok`).  A package writes the discriminants that are said and
    leaves the rest to the rule.

    The two agree exactly when a variant that says its discriminant, with one
    behind it that does not, says its own position (`values_agree_iff`).  They do
    not agree always (`exists_values_disagree`): where a variant says 5 and the
    next is silent, the crate has 1 for it, which is its tag, and the package
    6. -/

namespace Bindery

/-- The values of the members of an enum by their literals; `next` is the value of the first
    if it has none. -/
def enumValues (next : Nat) : List (Option Nat) → List Nat
  | [] => []
  | literal :: rest => literal.getD next :: enumValues (literal.getD next + 1) rest

/-- Literals for all members are their values. -/
theorem enumValues_map_some (next : Nat) (values : List Nat) :
    enumValues next (values.map some) = values := by
  induction values generalizing next with
  | nil => rfl
  | cons value values ih =>
      show value :: enumValues (value + 1) (values.map some) = value :: values
      rw [ih]

/-- Members without literals are counted. -/
theorem enumValues_replicate_none (next length : Nat) :
    enumValues next (List.replicate length none) = List.range' next length := by
  induction length generalizing next with
  | zero => rfl
  | succ length ih =>
      rw [List.replicate_succ, List.range'_succ]
      show next :: enumValues (next + 1) (List.replicate length none) = _
      rw [ih]

/-- The tags of variants, the first of which has a position. -/
def tagsFrom (position : Nat) (variants : List EnumVariant) : List Nat :=
  (variants.zipIdx position).map fun item => (item.1.tag item.2).toNat

/-- Wherever a variant says its discriminant and the next one does not, it says its position.
    The first variant has a position. -/
def InPlace (position : Nat) (variants : List EnumVariant) : Prop :=
  (variants.zipIdx position).IsChain fun before after =>
    after.1.discriminant = none → ∀ value, before.1.discriminant = some value →
      value = UInt64.ofNat before.2

/-- Variants are in place when those behind the first are, and the first says its position if
    the second says nothing. -/
theorem inPlace_cons_iff {position : Nat} {variant : EnumVariant} {rest : List EnumVariant} :
    InPlace position (variant :: rest) ↔
      (∀ after ∈ rest.head?, after.discriminant = none → ∀ value,
        variant.discriminant = some value → value = UInt64.ofNat position)
      ∧ InPlace (position + 1) rest := by
  unfold InPlace
  rw [List.zipIdx_cons, List.isChain_cons]
  refine and_congr_left fun _ => ?_
  cases rest with
  | nil => exact ⟨fun _ _ h => (nomatch h), fun _ _ h => (nomatch h)⟩
  | cons after rest =>
      simp only [List.zipIdx_cons, List.head?_cons, Option.mem_some_iff, forall_eq']

/-- A byte follows the tag of a position when it is that tag. -/
theorem succ_eq_position_iff {value : UInt64} (hbyte : value < 256) (position : Nat) :
    value.toNat + 1 = (UInt64.ofNat (position + 1)).toNat ↔ value = UInt64.ofNat position := by
  have hbyte' : value.toNat < 256 := UInt64.lt_iff_toNat_lt.mp hbyte
  rw [← UInt64.toNat_inj, UInt64.toNat_ofNat', UInt64.toNat_ofNat']
  omega

/-- Where all tags are bytes, the rule gives them exactly when they are in place. -/
theorem enumValues_eq_tagsFrom_iff : ∀ {variants : List EnumVariant} {next position : Nat},
    (∀ item ∈ variants.zipIdx position, item.1.tag item.2 < 256) →
      (enumValues next (variants.map fun v => v.discriminant.map UInt64.toNat)
          = tagsFrom position variants ↔
        (∀ variant ∈ variants.head?, variant.discriminant = none →
          next = (UInt64.ofNat position).toNat) ∧ InPlace position variants) := by
  intro variants
  induction variants with
  | nil =>
      intro next position _
      exact ⟨fun _ => ⟨fun _ h => (nomatch h), .nil⟩, fun _ => rfl⟩
  | cons variant rest ih =>
      intro next position hbytes
      rw [List.zipIdx_cons, List.forall_mem_cons] at hbytes
      obtain ⟨hbyte, hbytes⟩ := hbytes
      rw [inPlace_cons_iff]
      show List.cons _ (enumValues _ _) = List.cons _ (tagsFrom (position + 1) rest) ↔ _
      rw [List.cons.injEq, ih hbytes, List.head?_cons]
      simp only [Option.mem_some_iff, forall_eq']
      have hsucc := succ_eq_position_iff hbyte position
      cases hsaid : variant.discriminant with
      | none =>
          -- the rule has to come out at this position, and then does at the next
          simp only [EnumVariant.tag, hsaid, Option.getD_none, Option.map_none] at hsucc ⊢
          constructor
          · rintro ⟨hnext, -, hrest⟩
            exact ⟨fun _ => hnext, fun _ _ _ _ h => (nomatch h), hrest⟩
          · rintro ⟨hnext, -, hrest⟩
            refine ⟨hnext trivial, fun after _ _ => ?_, hrest⟩
            rw [hnext trivial]
            exact hsucc.mpr trivial
      | some value =>
          -- the rule starts afresh behind the value that is said
          simp only [EnumVariant.tag, hsaid, Option.getD_some, Option.map_some] at hsucc ⊢
          constructor
          · rintro ⟨-, hafter, hrest⟩
            refine ⟨fun h => (nomatch h), fun after hmem hsilent said hsame => ?_, hrest⟩
            rw [← Option.some.inj hsame]
            exact hsucc.mp (hafter after hmem hsilent)
          · rintro ⟨-, hafter, hrest⟩
            exact ⟨trivial, fun after hmem hsilent =>
              hsucc.mpr (hafter after hmem hsilent value rfl), hrest⟩

/-! ## The crate -/

namespace Crate

/-- The literal of a variant. -/
def Variant.literal? (variant : Variant) : Option Nat :=
  match variant.body with
  | .discriminant value => some value.toNat
  | .unit | .data _ => none

/-- The values of the variants of an enum; other shapes have none. -/
def Shape.values : Shape → List Nat
  | .enum _ variants => enumValues 0 (variants.map (·.literal?))
  | .struct _ | .alias _ => []

/-- A variant without data has its tag for a literal, a byte, or in an enum without
    discriminants none. -/
theorem literal?_of_ok {scope : Scope} {context : String} {explicit : Bool} {position : Nat}
    {variant : EnumVariant} {name : Name} {body : VariantBody} (hdata : variant.fields = none)
    (h : VariantBody.of scope context explicit position variant = .ok body) :
    (Variant.mk name body).literal?
        = (if explicit then some (variant.tag position).toNat else none)
      ∧ (explicit = true → variant.tag position < 256) := by
  simp only [VariantBody.of, hdata] at h
  cases explicit with
  | false =>
      rw [← Except.ok.inj h]
      exact ⟨rfl, fun h => (nomatch h)⟩
  | true =>
      obtain ⟨hbyte, rfl⟩ := ite_eq_ok.mp h
      refine ⟨?_, fun _ => hbyte⟩
      have hvalue : (variant.tag position).toUInt8.toNat = (variant.tag position).toNat :=
        Nat.mod_eq_of_lt (UInt64.lt_iff_toNat_lt.mp hbyte)
      exact congrArg some hvalue

/-- The literals of an enum without data: the tags, all of them bytes, or none. -/
theorem literals_of_ok {scope : Scope} {context : String} {variants : List EnumVariant}
    {shape : Shape} (hdata : hasData variants = false)
    (h : Shape.ofVariants scope context variants = .ok shape) :
    (∃ bodies, shape = .enum (hasDiscriminant variants) bodies
        ∧ bodies.map (·.literal?) = variants.zipIdx.map fun item =>
          if hasDiscriminant variants then some (item.1.tag item.2).toNat else none)
      ∧ (hasDiscriminant variants = true →
        ∀ item ∈ variants.zipIdx, item.1.tag item.2 < 256) := by
  obtain ⟨-, h⟩ := unless_eq_ok.mp h
  obtain ⟨bodies, hbodies, h⟩ := bind_eq_ok.mp h
  have hfields : ∀ item ∈ variants.zipIdx, item.1.fields = none := by
    intro item hmem
    have hnone := List.any_eq_false.mp hdata item.1 (List.fst_mem_of_mem_zipIdx hmem)
    exact Option.not_isSome_iff_eq_none.mp hnone
  have hitems := (List.forall₂_and_left _ _).mpr ⟨hfields, forall₂_of_mapM_eq_ok hbodies⟩
  have hliterals : List.Forall₂ (fun item variant => variant.literal?
        = (if hasDiscriminant variants then some (item.1.tag item.2).toNat else none)
      ∧ (hasDiscriminant variants = true → item.1.tag item.2 < 256)) variants.zipIdx bodies := by
    refine hitems.imp fun item variant hitem => ?_
    obtain ⟨body, hbody, hvariant⟩ := bind_eq_ok.mp hitem.2
    rw [← pure_eq_ok.mp hvariant]
    exact literal?_of_ok hitem.1 hbody
  refine ⟨⟨bodies, (pure_eq_ok.mp h).symm, ?_⟩, fun hexplicit item hmem => ?_⟩
  · exact map_eq_map_iff_forall₂.mpr (hliterals.imp fun _ _ hitem => hitem.1).flip
  · obtain ⟨variant, -, hitem⟩ := exists_of_forall₂_left hliterals hmem
    exact hitem.2 hexplicit

/-- **TAGS OR POSITIONS**: the variants of an enum without data have their tags for values, all
    of them bytes, if one of them says its discriminant, and else their positions. -/
theorem values_of_ok {scope : Scope} {defined : DefinedType} {variants : List EnumVariant}
    {declaration : Declaration} (htype : defined.type = .enum variants)
    (hdata : hasData variants = false) (h : Declaration.of scope defined = .ok declaration) :
    declaration.shape.values
        = (if hasDiscriminant variants then tagsFrom 0 variants else List.range variants.length)
      ∧ (hasDiscriminant variants = true →
        ∀ item ∈ variants.zipIdx, item.1.tag item.2 < 256) := by
  obtain ⟨shape, hshape, h⟩ := bind_eq_ok.mp h
  rw [htype] at hshape
  obtain ⟨⟨bodies, rfl, hliterals⟩, hbytes⟩ := literals_of_ok hdata hshape
  refine ⟨?_, hbytes⟩
  rw [← pure_eq_ok.mp h]
  show enumValues 0 (bodies.map (·.literal?)) = _
  rw [hliterals]
  cases hasDiscriminant variants with
  | true =>
      simp only [if_true]
      rw [← enumValues_map_some 0 (tagsFrom 0 variants), tagsFrom, List.map_map]
      rfl
  | false =>
      simp only [Bool.false_eq_true, if_false]
      rw [List.map_const', List.length_zipIdx, enumValues_replicate_none, List.range_eq_range']

end Crate

/-! ## The package -/

namespace Package

/-- The values of the members of an enum; other shapes have none. -/
def Shape.values : Shape → List Nat
  | .enum members => enumValues 0 (members.map fun member => member.2.map UInt64.toNat)
  | .struct _ | .union _ | .alias _ _ => []

/-- The members of an enum without data have the discriminants that are said for literals. -/
theorem values_of_ok {scope : Scope} {defined : DefinedType} {variants : List EnumVariant}
    {declaration : Declaration} (htype : defined.type = .enum variants)
    (hdata : Crate.hasData variants = false) (h : Declaration.of scope defined = .ok declaration) :
    declaration.shape.values
      = enumValues 0 (variants.map fun v => v.discriminant.map UInt64.toNat) := by
  have hall : (variants.all fun v => v.fields.isNone) = true := by
    rw [List.all_eq_true]
    intro v hmem
    have hnone := List.any_eq_false.mp hdata v hmem
    exact Option.isNone_iff_eq_none.mpr (Option.not_isSome_iff_eq_none.mp hnone)
  obtain ⟨shape, hshape, h⟩ := bind_eq_ok.mp h
  rw [htype] at hshape
  simp only [Shape.of, Shape.ofVariants, hall, if_true] at hshape
  rw [← pure_eq_ok.mp h, ← pure_eq_ok.mp hshape, Shape.values, List.map_map]
  rfl

end Package

/-- **AGREEMENT**: the values of an enum without data that both outputs have are the same
    exactly when its variants are in place. -/
theorem values_agree_iff {crateScope : Crate.Scope} {packageScope : Package.Scope}
    {defined : DefinedType} {variants : List EnumVariant} {inCrate : Crate.Declaration}
    {inPackage : Package.Declaration} (htype : defined.type = .enum variants)
    (hdata : Crate.hasData variants = false)
    (hcrate : Crate.Declaration.of crateScope defined = .ok inCrate)
    (hpackage : Package.Declaration.of packageScope defined = .ok inPackage) :
    inCrate.shape.values
        = (if Crate.hasDiscriminant variants then tagsFrom 0 variants
          else List.range variants.length)
      ∧ inPackage.shape.values
        = enumValues 0 (variants.map fun v => v.discriminant.map UInt64.toNat)
      ∧ (inPackage.shape.values = inCrate.shape.values ↔ InPlace 0 variants) := by
  obtain ⟨hvalues, hbytes⟩ := Crate.values_of_ok htype hdata hcrate
  have hvalues' := Package.values_of_ok htype hdata hpackage
  refine ⟨hvalues, hvalues', ?_⟩
  rw [hvalues, hvalues']
  cases hexplicit : Crate.hasDiscriminant variants with
  | true =>
      rw [if_pos rfl, enumValues_eq_tagsFrom_iff (hbytes hexplicit)]
      exact and_iff_right fun _ _ _ => rfl
  | false =>
      have hsilent : ∀ v ∈ variants, v.discriminant = none := fun v hmem =>
        Option.not_isSome_iff_eq_none.mp (List.any_eq_false.mp hexplicit v hmem)
      have hliterals : variants.map (fun v => v.discriminant.map UInt64.toNat)
          = List.replicate variants.length none :=
        List.map_eq_replicate_iff.mpr fun v hmem => by rw [hsilent v hmem]; rfl
      rw [if_neg Bool.false_ne_true, hliterals, enumValues_replicate_none, List.range_eq_range']
      refine iff_of_true rfl (List.isChain_iff_getElem.mpr fun k hk _ value hvalue => ?_)
      have hmem := List.fst_mem_of_mem_zipIdx (List.getElem_mem (Nat.lt_of_succ_lt hk))
      exact nomatch (hsilent _ hmem).symm.trans hvalue

/-- An enum whose variants are in place: 0 is said, 1 is not, 7 is said. -/
def placedEnum : List EnumVariant :=
  [⟨"Open", some 0, none⟩, ⟨"Close", none, none⟩, ⟨"Void", some 7, none⟩]

theorem values_agree_iff_placed : ∃ inCrate inPackage,
    Crate.Declaration.of ⟨false, none⟩ ⟨"Side", .enum placedEnum, []⟩ = .ok inCrate
      ∧ Package.Declaration.of ⟨false, none⟩ ⟨"Side", .enum placedEnum, []⟩ = .ok inPackage
      ∧ inCrate.shape.values = [0, 1, 7] ∧ inPackage.shape.values = [0, 1, 7]
      ∧ InPlace 0 placedEnum := by
  obtain ⟨inCrate, hcrate, hvalues⟩ : ∃ inCrate,
      Crate.Declaration.of ⟨false, none⟩ ⟨"Side", .enum placedEnum, []⟩ = .ok inCrate
        ∧ decide (inCrate.shape.values = [0, 1, 7]) = true := exists_ok_of_any (by decide +kernel)
  obtain ⟨inPackage, hpackage, hvalues'⟩ : ∃ inPackage,
      Package.Declaration.of ⟨false, none⟩ ⟨"Side", .enum placedEnum, []⟩ = .ok inPackage
        ∧ decide (inPackage.shape.values = [0, 1, 7]) = true := exists_ok_of_any (by decide +kernel)
  have hsame := (of_decide_eq_true hvalues').trans (of_decide_eq_true hvalues).symm
  exact ⟨inCrate, inPackage, hcrate, hpackage, of_decide_eq_true hvalues,
    of_decide_eq_true hvalues', (values_agree_iff rfl rfl hcrate hpackage).2.2.mp hsame⟩

/-- A type of which a variant says 5 and the next one says nothing. -/
def steppedType : DefinedType := ⟨"Side", .enum [⟨"Open", some 5, none⟩, ⟨"Close", none, none⟩], []⟩

/-- A program of that type alone. -/
def steppedProgram : Program where
  name := "bank"
  publicKey := "B"
  version := ""
  docs := []
  accounts := []
  instructions := []
  definedTypes := [steppedType]
  errors := []

/-- **A DISAGREEMENT**: both outputs have the type, and its second variant is 1 in the crate and
    6 in the package. -/
theorem exists_values_disagree :
    (∃ files, Crate.render ⟨[steppedProgram], []⟩ ⟨false, SortedMap.empty⟩ = .ok files)
      ∧ (∃ files, Package.render ⟨[steppedProgram], []⟩ ⟨false, SortedMap.empty⟩ = .ok files)
      ∧ ∃ inCrate inPackage,
        Crate.Declaration.of ⟨false, some steppedProgram⟩ steppedType = .ok inCrate
          ∧ Package.Declaration.of ⟨false, some steppedProgram⟩ steppedType = .ok inPackage
          ∧ inCrate.shape.values = [5, 1] ∧ inPackage.shape.values = [5, 6] := by
  obtain ⟨crateFiles, hcrateFiles⟩ : ∃ files,
      Crate.render ⟨[steppedProgram], []⟩ ⟨false, SortedMap.empty⟩ = .ok files :=
    exists_ok_of_isSome (by decide +kernel)
  obtain ⟨packageFiles, hpackageFiles⟩ : ∃ files,
      Package.render ⟨[steppedProgram], []⟩ ⟨false, SortedMap.empty⟩ = .ok files :=
    exists_ok_of_isSome (by decide +kernel)
  obtain ⟨inCrate, hcrate, hvalues⟩ : ∃ inCrate,
      Crate.Declaration.of ⟨false, some steppedProgram⟩ steppedType = .ok inCrate
        ∧ decide (inCrate.shape.values = [5, 1]) = true := exists_ok_of_any (by decide +kernel)
  obtain ⟨inPackage, hpackage, hvalues'⟩ : ∃ inPackage,
      Package.Declaration.of ⟨false, some steppedProgram⟩ steppedType = .ok inPackage
        ∧ decide (inPackage.shape.values = [5, 6]) = true := exists_ok_of_any (by decide +kernel)
  exact ⟨⟨crateFiles, hcrateFiles⟩, ⟨packageFiles, hpackageFiles⟩, inCrate, inPackage, hcrate,
    hpackage, of_decide_eq_true hvalues, of_decide_eq_true hvalues'⟩

end Bindery
