import Bindery.Crate.Module
import Bindery.Package.Module
import Bindery.Proofs.Encoding
import Bindery.Proofs.Reachable

/-! # Spans of tags — where the bytes of a tag start and end

    A generated reader cuts a span out of some data and compares it with the
    constant of a tag.  The crate ends the span after as many bytes as the
    constant has, the package after as many as the format is wide.  The two
    agree exactly for tags that fill their format (`size_eq_length_iff`), which
    every reachable tag does.  Ends are words, so the sum of offset and length
    must have room in one: both readers cut a tag out if and only if it has
    (`exact_crate_iff`, `exact_package_iff`).  Nothing but an operation gives a tag another
    offset than 0 (`offset_of_apply`), and no operation looks at the offset it
    gives, so there are runs whose tags end before they start
    (`exists_stop_before_start`). -/

namespace Bindery

/-! ## Widths -/

/-- A value has as many bytes as its format is wide. -/
def DiscriminatorValue.FillsFormat : DiscriminatorValue → Prop
  | .number format _ => format ≠ .i128
  | .bytes _ => True

/-- Whether a format is filled can be computed. -/
instance DiscriminatorValue.decidableFillsFormat (value : DiscriminatorValue) :
    Decidable value.FillsFormat :=
  match value with
  | .number format _ => inferInstanceAs (Decidable (format ≠ .i128))
  | .bytes _ => .isTrue trivial

namespace Discriminator

variable {tag : Discriminator}

/-- The bytes of a number are as many as its format is wide, or else eight at most. -/
theorem length_encoded_number (format : NumberFormat) (value offset : UInt64) :
    (encoded ⟨.number format value, offset⟩).length
      = if (format.encodeUnsigned value).isSome then format.size else min format.size 8 := by
  show ((format.encodeUnsigned value).getD _).length = _
  cases h : format.encodeUnsigned value with
  | some bytes => exact (NumberFormat.encodeUnsigned_eq_some_iff.mp h).2.1
  | none => exact length_littleEndian _ _

/-- No tag has more bytes than it is wide. -/
theorem length_encoded_le (tag : Discriminator) : tag.encoded.length ≤ tag.size := by
  obtain ⟨value, offset⟩ := tag
  cases value with
  | number format value =>
      rw [length_encoded_number]
      split
      · exact Nat.le_refl _
      · exact Nat.min_le_left _ _
  | bytes bytes => exact Nat.le_refl _

/-- Formats of eight bytes at most are filled by the fallback, and of the two wider ones the
    unsigned one has room for every value. -/
theorem size_eq_length_iff : tag.size = tag.encoded.length ↔ tag.value.FillsFormat := by
  obtain ⟨value, offset⟩ := tag
  cases value with
  | bytes bytes => exact iff_of_true rfl trivial
  | number format value =>
      rw [length_encoded_number]
      show format.size = _ ↔ format ≠ .i128
      cases format
      case i128 => exact iff_of_false (fun h : 16 = 8 => by omega) fun h => h rfl
      case u128 =>
        have hroom : value.toNat < wordCount (8 * 16) :=
          value.toNat_lt.trans (by decide)
        have hsome : (NumberFormat.u128.encodeUnsigned value).isSome = true :=
          encodeUnsigned_isSome_iff.mpr ⟨rfl, hroom⟩
        rw [if_pos hsome]
        exact iff_of_true rfl (by decide)
      all_goals exact iff_of_true (ite_self _).symm (by decide)

/-- A tag that fits its format fills it. -/
theorem fillsFormat_of_fits {value : DiscriminatorValue} (h : value.Fits) :
    value.FillsFormat := by
  cases value with
  | number format value =>
      rintro rfl
      exact nomatch h.1
  | bytes bytes => trivial

end Discriminator

/-! ## Readers -/

/-- A tag stands in data: its bytes are there, at its offset. -/
def Discriminator.StandsIn (tag : Discriminator) (data : List UInt8) : Prop :=
  ∃ before after, before.length = tag.offset.toNat ∧ data = before ++ tag.encoded ++ after

/-- A span between two words is that of a tag: it has the bytes of the tag, starts at its
    offset, and is as long as they are. -/
structure Discriminator.Exact (tag : Discriminator) (bytes : List UInt8)
    (start stop : UInt64) : Prop where
  content : bytes = tag.encoded
  first : start = tag.offset
  last : start.toNat + bytes.length = stop.toNat

/-- What the reader of a crate accepts: data that reaches to the end of the span and has the
    constant there. The span has to be in order. -/
def Crate.TagConstant.Accepts (tag : TagConstant) (data : List UInt8) : Prop :=
  tag.start.toNat ≤ tag.stop.toNat ∧ tag.stop.toNat ≤ data.length
    ∧ (data.drop tag.start.toNat).take (tag.stop.toNat - tag.start.toNat) = tag.bytes

/-- What the reader of a package accepts: data whose part in the span is the constant. A span
    that reaches over the end is cut off there. -/
def Package.TagConstant.Accepts (tag : TagConstant) (data : List UInt8) : Prop :=
  (data.drop tag.start.toNat).take (tag.stop.toNat - tag.start.toNat) = tag.bytes

namespace Discriminator

variable {tag : Discriminator} {data : List UInt8}

/-- A tag stands in data that reaches to its offset and goes on with its bytes. -/
theorem standsIn_iff : tag.StandsIn data ↔
    tag.offset.toNat ≤ data.length ∧ tag.encoded <+: data.drop tag.offset.toNat := by
  constructor
  · rintro ⟨before, after, hbefore, rfl⟩
    rw [List.append_assoc, ← hbefore, List.drop_left, List.length_append]
    exact ⟨Nat.le_add_right _ _, List.prefix_append _ _⟩
  · rintro ⟨hroom, after, hafter⟩
    refine ⟨data.take tag.offset.toNat, after, List.length_take_of_le hroom, ?_⟩
    rw [List.append_assoc, hafter, List.take_append_drop]

/-- A span as long as some bytes has them where data goes on with them. -/
theorem take_eq_iff {start stop : Nat} {bytes : List UInt8} (h : start + bytes.length = stop) :
    (data.drop start).take (stop - start) = bytes ↔ bytes <+: data.drop start := by
  rw [← h, Nat.add_sub_cancel_left, List.prefix_iff_eq_take, eq_comm]

/-- With an exact span the reader of a crate accepts the data that a tag stands in. -/
theorem Exact.accepts_crate {constant : Crate.TagConstant}
    (h : tag.Exact constant.bytes constant.start constant.stop) :
    constant.Accepts data ↔ tag.StandsIn data := by
  obtain ⟨name, bytes, start, stop⟩ := constant
  obtain ⟨rfl, rfl, hlast⟩ := h
  change tag.offset.toNat + tag.encoded.length = stop.toNat at hlast
  show tag.offset.toNat ≤ stop.toNat ∧ stop.toNat ≤ data.length ∧ _ ↔ _
  rw [take_eq_iff hlast, standsIn_iff, ← hlast]
  constructor
  · rintro ⟨-, hreaches, hgoes⟩
    exact ⟨(Nat.le_add_right _ _).trans hreaches, hgoes⟩
  · rintro ⟨hreaches, hgoes⟩
    have hlength := hgoes.length_le
    rw [List.length_drop] at hlength
    exact ⟨Nat.le_add_right _ _, by omega, hgoes⟩

/-- With an exact span the reader of a package accepts, of the data that reaches to the
    offset of a tag, what the tag stands in. -/
theorem Exact.accepts_package {constant : Package.TagConstant}
    (h : tag.Exact constant.bytes constant.start constant.stop)
    (hreaches : tag.offset.toNat ≤ data.length) :
    constant.Accepts data ↔ tag.StandsIn data := by
  obtain ⟨name, bytes, start, stop⟩ := constant
  obtain ⟨rfl, rfl, hlast⟩ := h
  rw [Package.TagConstant.Accepts, take_eq_iff hlast, standsIn_iff, and_iff_right hreaches]

/-! ## Ends -/

/-- A sum is exact where it has room in a word. -/
theorem toNat_add_ofNat_iff {start : UInt64} {length : Nat} :
    start.toNat + length = (start + UInt64.ofNat length).toNat
      ↔ start.toNat + length < wordCount 64 := by
  rw [UInt64.toNat_add, UInt64.toNat_ofNat', Nat.add_mod_mod]
  constructor
  · intro h
    rw [h]
    exact Nat.mod_lt _ (by decide)
  · intro h
    exact (Nat.mod_eq_of_lt h).symm

/-- A sum is no less than what is added to where it has room in a word. -/
theorem le_add_ofNat_iff {start : UInt64} {length : Nat} (h : length < wordCount 64) :
    start ≤ start + UInt64.ofNat length ↔ start.toNat + length < wordCount 64 := by
  have hstart : start.toNat < 18446744073709551616 := start.toNat_lt
  change length < 18446744073709551616 at h
  show _ ↔ _ < 18446744073709551616
  rw [UInt64.le_iff_toNat_le, UInt64.toNat_add, UInt64.toNat_ofNat', Nat.add_mod_mod]
  show _ ≤ _ % 18446744073709551616 ↔ _
  omega

/-- There is room in a word for the end of a tag. -/
def HasRoom (tag : Discriminator) : Prop := tag.offset.toNat + tag.encoded.length < wordCount 64

/-- Whether there is room can be computed. -/
instance decidableHasRoom (tag : Discriminator) : Decidable tag.HasRoom :=
  inferInstanceAs (Decidable (_ < _))

/-- The span of a crate is exact where there is room for its end. -/
theorem exact_crate_iff (node : String) :
    tag.Exact (Crate.TagConstant.of node tag).bytes (Crate.TagConstant.of node tag).start
      (Crate.TagConstant.of node tag).stop ↔ tag.HasRoom :=
  ⟨fun h => toNat_add_ofNat_iff.mp h.last, fun h => ⟨rfl, rfl, toNat_add_ofNat_iff.mpr h⟩⟩

/-- The span of a package is that of the crate where a tag fills its format. -/
theorem stop_package (node : String) (h : tag.value.FillsFormat) :
    (Package.TagConstant.of node tag).stop = (Crate.TagConstant.of node tag).stop := by
  show tag.offset + UInt64.ofNat tag.size = tag.offset + UInt64.ofNat tag.encoded.length
  rw [size_eq_length_iff.mpr h]

/-- The span of a package is exact where a tag fills its format and there is room for its
    end. -/
theorem exact_package_iff (node : String) (h : tag.value.FillsFormat) :
    tag.Exact (Package.TagConstant.of node tag).bytes (Package.TagConstant.of node tag).start
      (Package.TagConstant.of node tag).stop ↔ tag.HasRoom := by
  rw [stop_package node h]
  exact exact_crate_iff node

/-- **TWO WIDTHS, ONE SPAN**: where the span of a tag has room, the width of the tag is the
    number of its bytes exactly when it fills its format.  The crate cuts out the bytes of
    every tag, and accepts the data that they stand in; the package does so for the tags
    that fill their format and for no other. -/
theorem spans_agree_iff (node : String) (hroom : tag.offset.toNat + tag.size < wordCount 64) :
    (tag.size = tag.encoded.length ↔ tag.value.FillsFormat)
      ∧ tag.Exact (Crate.TagConstant.of node tag).bytes (Crate.TagConstant.of node tag).start
        (Crate.TagConstant.of node tag).stop
      ∧ (tag.Exact (Package.TagConstant.of node tag).bytes (Package.TagConstant.of node tag).start
          (Package.TagConstant.of node tag).stop ↔ tag.value.FillsFormat)
      ∧ (∀ data, (Crate.TagConstant.of node tag).Accepts data ↔ tag.StandsIn data)
      ∧ ((∀ data, tag.offset.toNat ≤ data.length →
          ((Package.TagConstant.of node tag).Accepts data ↔ tag.StandsIn data))
        ↔ tag.value.FillsFormat) := by
  have hfits : tag.HasRoom :=
    (Nat.add_le_add_left tag.length_encoded_le _).trans_lt hroom
  have hcrate := (exact_crate_iff node).mpr hfits
  have hstop : tag.offset.toNat + tag.size = (Package.TagConstant.of node tag).stop.toNat :=
    toNat_add_ofNat_iff.mpr hroom
  refine ⟨size_eq_length_iff, hcrate, ⟨fun h => ?_, fun h => ?_⟩,
    fun data => hcrate.accepts_crate, fun h => ?_, fun h data hreaches => ?_⟩
  · rw [← size_eq_length_iff]
    have hlast : tag.offset.toNat + tag.encoded.length = _ := h.last
    exact Nat.add_left_cancel (hstop.trans hlast.symm)
  · exact (exact_package_iff node h).mpr hfits
  · -- data that goes on behind the tag is cut as wide as the format
    rw [← size_eq_length_iff]
    have hstands : tag.StandsIn (List.replicate tag.offset.toNat 0 ++ tag.encoded
        ++ List.replicate tag.size 0) := ⟨_, _, List.length_replicate, rfl⟩
    have hcut : (List.drop tag.offset.toNat _).take
        ((Package.TagConstant.of node tag).stop.toNat - tag.offset.toNat) = tag.encoded :=
      (h _ (standsIn_iff.mp hstands).1).mpr hstands
    rw [← hstop, Nat.add_sub_cancel_left, List.append_assoc,
      List.drop_left' List.length_replicate] at hcut
    rw [← hcut, List.length_take, List.length_append, List.length_replicate,
      Nat.min_eq_left (Nat.le_add_left _ _)]
  · exact ((exact_package_iff node h).mpr hfits).accepts_package hreaches

/-- A tag of 128 bits behind a byte. -/
def wide : Discriminator := ⟨.number .u128 7, 1⟩

theorem spans_agree_wide : wide.offset.toNat + wide.size < wordCount 64 ∧ wide.size = 16
    ∧ wide.encoded.length = 16 ∧ (Package.TagConstant.of "wide" wide).stop = 17
    ∧ ∀ data, 1 ≤ data.length →
        ((Package.TagConstant.of "wide" wide).Accepts data ↔ wide.StandsIn data) := by
  have hroom : wide.offset.toNat + wide.size < wordCount 64 := by decide
  obtain ⟨hlength, -, -, -, haccepts⟩ := spans_agree_iff "wide" hroom
  have hfills : wide.value.FillsFormat := by decide
  exact ⟨hroom, rfl, (hlength.mpr hfills).symm, by decide, haccepts.mpr hfills⟩

/-- **A WIDTH THAT IS NOT FILLED**: a signed tag of 128 bits is sixteen bytes wide and has
    eight.  Its bytes stand at the start of some data that the crate accepts and the package
    does not. -/
theorem size_ne_length_i128 : ∃ tag : Discriminator, tag = ⟨.number .i128 1, 0⟩
    ∧ tag.offset.toNat + tag.size < wordCount 64
    ∧ tag.size = 16 ∧ tag.encoded = [1, 0, 0, 0, 0, 0, 0, 0]
    ∧ (Crate.TagConstant.of "node" tag).stop = 8 ∧ (Package.TagConstant.of "node" tag).stop = 16
    ∧ (Crate.TagConstant.of "node" tag).Accepts (tag.encoded ++ List.replicate 8 0)
    ∧ ¬ (Package.TagConstant.of "node" tag).Accepts (tag.encoded ++ List.replicate 8 0) :=
  ⟨_, rfl, by decide, rfl, by decide, by decide, by decide,
    ⟨by decide, by decide, by decide⟩, fun h : _ = _ => absurd h (by decide)⟩

end Discriminator

/-! ## Tags of a run -/

/-- No format is wider than sixteen bytes. -/
theorem NumberFormat.size_le (format : NumberFormat) : format.size ≤ 16 := by
  cases format <;> decide

/-- The tag that an operation has for a sibling stands at the offset of the operation, and has
    sixteen bytes at most. -/
theorem AssignDiscriminators.offset_of_valueFor {operation : AssignDiscriminators}
    {variants : List EnumVariant} {name : String} {rank : Nat} {tag : Discriminator}
    (h : operation.valueFor variants name rank = .ok tag) :
    tag.offset = operation.offset ∧ tag.encoded.length ≤ 16 := by
  obtain ⟨value, hgives, -, rfl⟩ := valueFor_eq_ok_iff.mp h
  refine ⟨rfl, ?_⟩
  cases value with
  | number format value => exact (Discriminator.length_encoded_le _).trans format.size_le
  | bytes bytes =>
      generalize operation.source = source at hgives
      cases hgives with
      | sighash _ height =>
          show bytes.length ≤ 16
          rw [height]
          decide

/-- The tags that a document means stand at the start. -/
theorem Description.offset_of_mem_tags {description : Description} {tag : Discriminator}
    (h : tag ∈ description.meaning.tags) : tag.offset = 0 := by
  rcases of_mem_tags h with ⟨raw, rfl⟩ | ⟨instruction, -, htag⟩
  · rfl
  · exact offset_of_meantTag htag

/-- The tags of a tree that is loaded stand at the start. -/
theorem offset_of_load {documents : List Document} {tree : Tree}
    (h : Tree.load documents = .ok tree) {program : Program} (hprogram : program ∈ tree.programs)
    {tag : Discriminator} (htag : tag ∈ program.tags) : tag.offset = 0 := by
  have hall : ∀ program ∈ tree.programs, ∀ tag ∈ program.tags, tag.offset = 0 :=
    forall_programs_of_load (fun _ _ _ => Description.offset_of_mem_tags) h
  exact hall program hprogram tag htag

/-- An operation gives a tag: it stands at the offset of the operation, and has sixteen bytes at
    most. -/
def Operation.GivesTag (operation : Operation) (tag : Discriminator) : Prop :=
  ∃ op, operation = .assignDiscriminators op ∧ tag.offset = op.offset ∧ tag.encoded.length ≤ 16

/-- Where tags are kept, each is one of before. -/
theorem Tree.mem_tags_of_keeping_eq {tree next : Tree} {kept : Attachment → Bool}
    (hkept : kept .tag = true) (h : next.keeping kept = tree.keeping kept) {program : Program}
    (hprogram : program ∈ next.programs) {tag : Discriminator} (htag : tag ∈ program.tags) :
    ∃ before ∈ tree.programs, tag ∈ before.tags := by
  obtain ⟨before, hbefore, hsame⟩ := exists_of_keeping_eq h hprogram
  refine ⟨before, hbefore, ?_⟩
  rwa [← before.tags_keeping hkept, hsame, program.tags_keeping hkept]

/-- Each tag behind an operation was there before, or the operation gives it. -/
theorem offset_of_apply {tree next : Tree} {operation : Operation} (hd : tree.Distinct)
    (h : operation.apply (Index.of tree) = .ok next) {program : Program}
    (hprogram : program ∈ next.programs) {tag : Discriminator} (htag : tag ∈ program.tags) :
    (∃ before ∈ tree.programs, tag ∈ before.tags) ∨ operation.GivesTag tag := by
  cases operation with
  | rename op =>
      obtain ⟨-, rfl⟩ := Rename.apply_eq_ok hd h
      obtain ⟨before, hbefore, rfl⟩ := List.mem_map.mp hprogram
      rw [Program.tags_substitute] at htag
      exact .inl ⟨before, hbefore, htag⟩
  | setSeeds op => exact .inl (Tree.mem_tags_of_keeping_eq rfl (SetSeeds.frame h) hprogram htag)
  | setDefaults op =>
      exact .inl (Tree.mem_tags_of_keeping_eq rfl (SetDefaults.frame h) hprogram htag)
  | assignDiscriminators op =>
      obtain ⟨p, found, variants, tags, hp, -, hassigned, -, rfl⟩ :=
        AssignDiscriminators.apply_eq_ok h
      have hold : ∀ before ∈ tree.programs, ∀ tag ∈ before.tags,
          (∃ before ∈ tree.programs, tag ∈ before.tags)
            ∨ (Operation.assignDiscriminators op).GivesTag tag :=
        fun before hbefore tag htag => .inl ⟨before, hbefore, htag⟩
      refine forall_mem_modify hold (fun program hprogram => ?_) program hprogram tag htag
      refine Program.forall_tags_setTags (hold program (List.mem_of_getElem? hprogram)) ?_
      intro name tag htag
      obtain ⟨sibling, rank, hvalue⟩ := AssignDiscriminators.exists_valueFor hassigned htag
      exact .inr ⟨op, rfl, AssignDiscriminators.offset_of_valueFor hvalue⟩

/-- Each tag stands at the start, or one of the first operations gives it. -/
def Tree.TagsGiven (operations : List NamedOperation) (k : Nat) (tree : Tree) : Prop :=
  ∀ program ∈ tree.programs, ∀ tag ∈ program.tags,
    tag.offset = 0 ∨ ∃ step < k, ∃ named, operations[step]? = some named
      ∧ named.operation.GivesTag tag

section Run

variable {documents : List Document} {operations : List NamedOperation} {stages : List Stage}

/-- Each tag of a stage stands at the start, or a step before gives it. -/
theorem tagsGiven_of_run (h : Pipeline.runDocuments documents operations = .ok stages) {k : Nat}
    {stage : Stage} (hk : stages[k]? = some stage) : stage.tree.TagsGiven operations k := by
  refine stage_induction h (P := Tree.TagsGiven operations) ?load ?step hk
  case load => exact fun hload _ hprogram _ htag => .inl (offset_of_load hload hprogram htag)
  case step =>
    intro k operation tree next hstep hr happly ih program hprogram tag htag
    rcases offset_of_apply hr.wellFormed.distinct happly hprogram htag with
      ⟨old, hold, htag⟩ | hgives
    · rcases ih old hold tag htag with hstart | ⟨step, hlt, hstep⟩
      · exact .inl hstart
      · exact .inr ⟨step, Nat.lt_succ_of_lt hlt, hstep⟩
    · obtain ⟨named, hnamed, rfl⟩ := hstep.operation
      exact .inr ⟨k, Nat.lt_succ_self k, named, hnamed, hgives⟩

/-- The operations of a run leave room: the offsets that they give are sixteen bytes and more
    below the last word. -/
def LeaveRoom (operations : List NamedOperation) : Prop :=
  ∀ named ∈ operations, ∀ op, named.operation = .assignDiscriminators op →
    op.offset.toNat + 16 < wordCount 64

/-- **SPANS OF A RUN**: in every stage of a run that succeeds, a tag stands at the start of its
    data or where an operation put it, with sixteen bytes at most.  Whatever it belongs to,
    the spans of both targets end in the same place; they are exact if and only if there is
    room for that end in a word.  As its bytes are fewer than there are words, just then they
    are in order as well, and all of this is so when the operations leave room. -/
theorem runDocuments_spans (h : Pipeline.runDocuments documents operations = .ok stages)
    {k : Nat} {stage : Stage} (hk : stages[k]? = some stage) {program : Program}
    (hprogram : program ∈ stage.tree.programs) {tag : Discriminator}
    (htag : tag ∈ program.tags) (node : String) :
    (tag.offset = 0 ∨ ∃ step < k, ∃ named, operations[step]? = some named
        ∧ named.operation.GivesTag tag)
      ∧ (Package.TagConstant.of node tag).stop = (Crate.TagConstant.of node tag).stop
      ∧ (tag.Exact (Crate.TagConstant.of node tag).bytes (Crate.TagConstant.of node tag).start
          (Crate.TagConstant.of node tag).stop ↔ tag.HasRoom)
      ∧ (tag.Exact (Package.TagConstant.of node tag).bytes (Package.TagConstant.of node tag).start
          (Package.TagConstant.of node tag).stop ↔ tag.HasRoom)
      ∧ (tag.encoded.length < wordCount 64 →
          ((Crate.TagConstant.of node tag).start ≤ (Crate.TagConstant.of node tag).stop
              ↔ tag.HasRoom)
            ∧ (LeaveRoom operations → tag.HasRoom)) := by
  have hw := (reachable_of_runDocuments h stage (List.mem_of_getElem? hk)).wellFormed
  have hfills : tag.value.FillsFormat :=
    Discriminator.fillsFormat_of_fits ((hw.tagged program hprogram).fits tag htag)
  have hwhere := tagsGiven_of_run h hk program hprogram tag htag
  refine ⟨hwhere, Discriminator.stop_package node hfills, Discriminator.exact_crate_iff node,
    Discriminator.exact_package_iff node hfills, fun hlength =>
      ⟨Discriminator.le_add_ofNat_iff hlength, fun hroom => ?_⟩⟩
  rcases hwhere with hstart | ⟨step, -, named, hnamed, op, hop, hoffset, hbytes⟩
  · show tag.offset.toNat + tag.encoded.length < wordCount 64
    rw [hstart]
    simpa using hlength
  · have hleft := hroom named (List.mem_of_getElem? hnamed) op hop
    rw [← hoffset] at hleft
    exact (Nat.add_le_add_left hbytes _).trans_lt hleft

end Run

/-- A run over the bank that gives its accounts tags of a byte at an offset. -/
def tagAccountsAt (offset : UInt64) : List NamedOperation := [
  ⟨"tags", .assignDiscriminators ⟨.program "bank", .accounts, [], .sequential 1 .u8, offset⟩⟩]

theorem runDocuments_spans_bank : ∃ stages stage program,
    Pipeline.runDocuments [bank] (tagAccountsAt 8) = .ok stages ∧ stages[1]? = some stage
      ∧ program ∈ stage.tree.programs ∧ ⟨.number .u8 2, 8⟩ ∈ program.tags
      ∧ (Crate.TagConstant.of "Pool" ⟨.number .u8 2, 8⟩).stop = 9
      ∧ Discriminator.HasRoom ⟨.number .u8 2, 8⟩ := by
  obtain ⟨stages, hrun, hstages⟩ : ∃ stages,
      Pipeline.runDocuments [bank] (tagAccountsAt 8) = .ok stages
        ∧ (stages[1]?.any fun stage => stage.tree.programs[0]?.any fun program =>
            program.tags.contains ⟨.number .u8 2, 8⟩) = true :=
    runDocuments_bank (by decide +kernel)
  obtain ⟨stage, hk, hstage⟩ := (Option.any_eq_true _ _).mp hstages
  obtain ⟨program, hp, hprogram⟩ := (Option.any_eq_true _ _).mp hstage
  have htag := List.contains_iff_mem.mp hprogram
  have hmem := List.mem_of_getElem? hp
  obtain ⟨-, -, -, -, hbytes⟩ := runDocuments_spans hrun hk hmem htag "Pool"
  refine ⟨stages, stage, program, hrun, hk, hmem, htag, by decide, (hbytes (by decide)).2 ?_⟩
  intro named hnamed op hop
  obtain rfl := List.mem_singleton.mp hnamed
  obtain rfl := Operation.assignDiscriminators.inj hop
  decide

/-- **AN END BEFORE THE START**: an operation may give tags the last offset there is.  In both
    targets the span of such a tag ends at 0, and no data at all passes the reader of the
    crate. -/
theorem exists_stop_before_start : ∃ stages stage program tag,
    Pipeline.runDocuments [bank] (tagAccountsAt 18446744073709551615) = .ok stages
      ∧ stages[1]? = some stage ∧ program ∈ stage.tree.programs ∧ tag ∈ program.tags
      ∧ tag = ⟨.number .u8 1, 18446744073709551615⟩
      ∧ ∀ node, (Crate.TagConstant.of node tag).start = 18446744073709551615
        ∧ (Crate.TagConstant.of node tag).stop = 0
        ∧ (Package.TagConstant.of node tag).stop = 0
        ∧ ¬ tag.HasRoom ∧ ∀ data, ¬ (Crate.TagConstant.of node tag).Accepts data := by
  obtain ⟨stages, hrun, hstages⟩ : ∃ stages,
      Pipeline.runDocuments [bank] (tagAccountsAt 18446744073709551615) = .ok stages
        ∧ (stages[1]?.any fun stage => stage.tree.programs[0]?.any fun program =>
            program.tags.contains ⟨.number .u8 1, 18446744073709551615⟩) = true :=
    runDocuments_bank (by decide +kernel)
  obtain ⟨stage, hk, hstage⟩ := (Option.any_eq_true _ _).mp hstages
  obtain ⟨program, hp, hprogram⟩ := (Option.any_eq_true _ _).mp hstage
  refine ⟨stages, stage, program, _, hrun, hk, List.mem_of_getElem? hp,
    List.contains_iff_mem.mp hprogram, rfl, fun node => ⟨rfl, rfl, rfl, by decide, ?_⟩⟩
  rintro data ⟨horder, -⟩
  change 18446744073709551615 ≤ 0 at horder
  exact absurd horder (by decide)

end Bindery
