import Bindery.Proofs.Json.Reordered
import Bindery.Proofs.SortedMap
import Bindery.Tree.Encode
import Mathlib.Data.List.Sublists

/-! # Forms of a value — documents that are decoded to it

    A document is a form of a value under a decoder when it is decoded to that
    value in every order of its members (`Decode.IsForm`).  Forms are put
    together the way decoders are: a list from forms of its items, a record
    from forms of its fields (`Fields.IsForm`), each with the members that it
    owns, and a value with a kind from the record of that kind.  Keys that
    repeat would make a reading depend on the order, so that a form has each key
    once in every object; its canonical form is decoded to the same value
    (`IsForm.decode_canonical`). -/

namespace Bindery.Decode

open Json (MembersReorder)

variable {α β : Type}

/-- A document is a form of a value: it repeats no key, and in every order of its members it is
    decoded to the value. -/
structure IsForm (decode : Json → Except Fault α) (value : α) (document : Json) : Prop where
  distinct : document.Distinct
  decoded : ∀ other, document.Reorders other → decode other = .ok value

namespace IsForm

variable {decode : Json → Except Fault α} {value : α} {document : Json}

/-- A form is decoded as it is written. -/
theorem decode_eq (h : IsForm decode value document) : decode document = .ok value :=
  h.decoded document (Json.reorders_refl document)

/-- A form is decoded in its canonical form, in which members are sorted by key. -/
theorem decode_canonical (h : IsForm decode value document) :
    decode document.canonical = .ok value :=
  h.decoded _ (Json.reorders_canonical document h.distinct)

end IsForm

/-! ## Scalars and lists -/

theorem isForm_str (text : String) : IsForm str text (.string text) :=
  ⟨trivial, fun _ h => by rw [Json.reorders_string.mp h]; rfl⟩

theorem isForm_bool (truth : Bool) : IsForm bool truth (.bool truth) :=
  ⟨trivial, fun _ h => by rw [Json.reorders_bool.mp h]; rfl⟩

/-- A number that fits is read back. -/
theorem unsigned_nat {bits n : Nat} (h : n < wordCount bits) :
    unsigned bits (Json.nat n) = .ok n := by
  show (if (0 : Int) ≤ n ∧ (n : Int).toNat < wordCount bits then Except.ok (n : Int).toNat else _)
    = .ok n
  rw [Int.toNat_natCast, if_pos ⟨Int.natCast_nonneg n, h⟩]

/-- Words are read as numbers that fit. -/
theorem isForm_word {bits : Nat} {read : Nat → α} {n : Nat} {word : α} (h : n < wordCount bits)
    (hread : read n = word) : IsForm (fun j => (unsigned bits j).map read) word (Json.nat n) :=
  ⟨trivial, fun other hother => by
    rw [Json.reorders_number.mp hother]
    show (unsigned bits (Json.nat n)).map read = _
    rw [unsigned_nat h, Except.map, hread]⟩

theorem isForm_byte (byte : UInt8) : IsForm Decode.byte byte (Json.nat byte.toNat) :=
  isForm_word byte.toNat_lt UInt8.ofNat_toNat

theorem isForm_word32 (word : UInt32) : IsForm word32 word (Json.nat word.toNat) :=
  isForm_word word.toNat_lt UInt32.ofNat_toNat

theorem isForm_word64 (word : UInt64) : IsForm word64 word (Json.word word) :=
  isForm_word word.toNat_lt UInt64.ofNat_toNat

theorem isForm_int64 (n : Int64) : IsForm int64 n (.number (.int n.toInt)) :=
  ⟨trivial, fun other hother => by
    rw [Json.reorders_number.mp hother]
    have hle := n.le_toInt
    have hlt := n.toInt_lt
    show ((if _ then Except.ok n.toInt else _) : Except Fault Int).map Int64.ofInt = _
    rw [if_pos ⟨hle, hlt⟩, Except.map, Int64.ofInt_toInt]⟩

/-- A list of forms is a form of the list of their values. -/
theorem isForm_listOf {item : Json → Except Fault α} {values : List α} {items : List Json}
    (h : List.Forall₂ (IsForm item) values items) : IsForm (listOf item) values (.array items) := by
  refine ⟨Json.distinctItems_iff.mpr fun j hj => ?_, fun other hother => ?_⟩
  · obtain ⟨value, -, hvalue⟩ := exists_of_forall₂_right h hj
    exact hvalue.distinct
  · obtain ⟨others, rfl, hothers⟩ := Json.reorders_array.mp hother
    show others.mapM item = .ok values
    refine mapM_eq_ok_of_forall₂ ?_
    clear hother
    induction h generalizing others with
    | nil =>
        cases hothers
        exact .nil
    | cons hvalue _ ih =>
        obtain ⟨_, _, hhead, hrest, rfl⟩ := List.forall₂_cons_left_iff.mp hothers
        exact .cons (hvalue.decoded _ hhead) (ih _ hrest)

/-- A list whose items are encoded one by one. -/
theorem isForm_listOf_map {item : Json → Except Fault α} {encode : α → Json}
    (h : ∀ value, IsForm item value (encode value)) (values : List α) :
    IsForm (listOf item) values (.array (values.map encode)) := by
  refine isForm_listOf (List.forall₂_map_right_iff.mpr ?_)
  exact List.forall₂_same.mpr fun value _ => h value

theorem isForm_strings (texts : List String) : IsForm (listOf str) texts (Json.strings texts) :=
  isForm_listOf_map isForm_str texts

theorem isForm_bytes (bytes : List UInt8) : IsForm (listOf byte) bytes (Json.bytes bytes) :=
  isForm_listOf_map isForm_byte bytes

/-- A value that is there is read as such, unless it is null. -/
theorem isForm_nullable {item : Json → Except Fault α} {value : α} {document : Json}
    (h : IsForm item value document) (hnull : document ≠ .null) :
    IsForm (nullable item) (some value) document := by
  refine ⟨h.distinct, fun other hother => ?_⟩
  have hother' : other ≠ .null := by
    rintro rfl
    cases document with
    | null => exact hnull rfl
    | array _ => obtain ⟨_, heq, -⟩ := Json.reorders_array.mp hother; exact nomatch heq
    | object _ => obtain ⟨_, heq, -⟩ := Json.reorders_object.mp hother; exact nomatch heq
    | bool _ => exact nomatch Json.reorders_bool.mp hother
    | number _ => exact nomatch Json.reorders_number.mp hother
    | string _ => exact nomatch Json.reorders_string.mp hother
  have hitem : nullable item other = (item other).map some := by
    cases other <;> first | rfl | exact absurd rfl hother'
  rw [hitem, h.decoded other hother]
  rfl

/-! ## Records -/

/-- Members of a larger object that are, up to their order, all it has under some keys. -/
structure Holds (keys : List String) (members others : List (String × Json)) : Prop where
  nodup : (others.map (·.1)).Nodup
  there : ∀ m ∈ members, ∃ other, (m.1, other) ∈ others ∧ m.2.Reorders other
  only : ∀ key ∈ keys, key ∈ others.map (·.1) → key ∈ members.map (·.1)

/-- Members are a form of a value for the fields of a record, whose keys are these: they stand
    under keys of the fields in the order of these, and the fields are read from every object that
    has them. -/
structure Fields.IsForm (fields : Fields Json α) (keys : List String) (value : α)
    (members : List (String × Json)) : Prop where
  keys_eq : fields.keys = keys
  sublist : (members.map (·.1)).Sublist keys
  distinct : ∀ m ∈ members, m.2.Distinct
  decoded : ∀ others, Holds keys members others → fields.fromMembers others = .ok value

/-- Reordered members are all there is under any keys. -/
theorem Holds.of_reorder {members others : List (String × Json)}
    (h : MembersReorder members others) (hnodup : (members.map (·.1)).Nodup)
    (keys : List String) : Holds keys members others where
  nodup := h.keys_perm.nodup_iff.mp hnodup
  there := fun _ hm => h.exists_mem hm
  only := fun _ _ hkey => h.keys_perm.mem_iff.mpr hkey

/-- Nothing is located under a key that is not there. -/
theorem locate_eq_none {key : String} {others : List (String × Json)}
    (h : key ∉ others.map (·.1)) (start : Nat) : locate [key] start others = none := by
  induction others generalizing start with
  | nil => rfl
  | cons head others ih =>
      obtain ⟨k, v⟩ := head
      rw [List.map_cons, List.mem_cons, not_or] at h
      rw [locate, if_neg, ih h.2]
      exact fun hmem => h.1 (List.mem_singleton.mp hmem).symm

/-- A key is located where its one member is. -/
theorem locate_of_mem {key : String} {value : Json} {others : List (String × Json)}
    (hnodup : (others.map (·.1)).Nodup) (hmem : (key, value) ∈ others) (start : Nat) :
    ∃ position rest, locate [key] start others = some (position, value, rest)
      ∧ key ∉ rest.map (·.1) := by
  induction others generalizing start with
  | nil => exact nomatch hmem
  | cons head others ih =>
      obtain ⟨k, v⟩ := head
      rw [List.map_cons, List.nodup_cons] at hnodup
      rcases List.mem_cons.mp hmem with heq | hmem
      · obtain ⟨rfl, rfl⟩ := Prod.mk.inj heq
        exact ⟨start, others, by rw [locate, if_pos List.mem_cons_self], hnodup.1⟩
      · have hkey : key ∈ others.map (·.1) := List.mem_map_of_mem (f := (·.1)) hmem
        have hne : k ∉ [key] := fun hk => hnodup.1 (List.mem_singleton.mp hk ▸ hkey)
        rw [locate, if_neg hne]
        exact ih hnodup.2 hmem (start + 1)

namespace Fields

variable {value : Json → Except Fault α} {a : α} {document : Json} {keys keys' : List String}
  {members others : List (String × Json)}

/-- A field under its name. -/
theorem isForm_present (name : String) (absent : Option α) (h : Decode.IsForm value a document) :
    (ofKeys name [] value absent).IsForm [name] a [(name, document)] where
  keys_eq := rfl
  sublist := .refl _
  distinct := fun m hm => by rw [List.mem_singleton.mp hm]; exact h.distinct
  decoded := fun others hothers => by
    obtain ⟨other, hmem, hother⟩ := hothers.there (name, document) List.mem_cons_self
    obtain ⟨position, rest, hfound, hrest⟩ := locate_of_mem hothers.nodup hmem 0
    simp only [ofKeys, hfound, h.decoded other hother, locate_eq_none hrest]

/-- A field that has to be there, under its name. -/
theorem isForm_required (name : String) (h : Decode.IsForm value a document) :
    (required name value).IsForm [name] a [(name, document)] := isForm_present name none h

/-- A field with a value for its absence, under its name. -/
theorem isForm_optional (name : String) {absent : α} (h : Decode.IsForm value a document) :
    (optional name value absent).IsForm [name] a [(name, document)] :=
  isForm_present name (some absent) h

/-- A field that is left out for its value. -/
theorem isForm_absent (name : String) : (optional name value a).IsForm [name] a [] where
  keys_eq := rfl
  sublist := List.nil_sublist _
  distinct := List.forall_mem_nil _
  decoded := fun others hothers => by
    have hnot : name ∉ others.map (·.1) := fun hmem =>
      List.not_mem_nil (hothers.only name List.mem_cons_self hmem)
    simp only [optional, ofKeys, locate_eq_none hnot]

/-- Fields of which something is made. -/
theorem IsForm.map {fields : Fields Json α} (f : α → β) (h : fields.IsForm keys a members) :
    (f <$> fields).IsForm keys (f a) members where
  keys_eq := h.keys_eq
  sublist := h.sublist
  distinct := h.distinct
  decoded := fun others hothers => by
    show (both (.ok f) (fields.fromMembers others)).map _ = _
    rw [h.decoded others hothers]
    rfl

/-- Fields of two records, those of one behind those of the other. -/
theorem IsForm.seq {first : Fields Json (α → β)} {second : Fields Json α} {f : α → β}
    (h : first.IsForm keys f members) (h' : second.IsForm keys' a others)
    (hapart : ∀ key ∈ keys, key ∉ keys') :
    (first <*> second).IsForm (keys ++ keys') (f a) (members ++ others) where
  keys_eq := by
    show first.keys ++ second.keys = _
    rw [h.keys_eq, h'.keys_eq]
  sublist := by
    rw [List.map_append]
    exact h.sublist.append h'.sublist
  distinct := fun m hm => (List.mem_append.mp hm).elim (h.distinct m) (h'.distinct m)
  decoded := fun all hall => by
    have honly : ∀ key ∈ keys ++ keys', key ∈ all.map (·.1) →
        key ∈ members.map (·.1) ∨ key ∈ others.map (·.1) := fun key hkey hmem => by
      rw [← List.mem_append, ← List.map_append]
      exact hall.only key hkey hmem
    have hfirst : Holds keys members all :=
      ⟨hall.nodup, fun m hm => hall.there m (List.mem_append_left _ hm), fun key hkey hmem =>
        (honly key (List.mem_append_left _ hkey) hmem).resolve_right
          fun hother => hapart key hkey (h'.sublist.subset hother)⟩
    have hsecond : Holds keys' others all :=
      ⟨hall.nodup, fun m hm => hall.there m (List.mem_append_right _ hm), fun key hkey hmem =>
        (honly key (List.mem_append_right _ hkey) hmem).resolve_left
          fun hother => hapart key (h.sublist.subset hother) hkey⟩
    show (both (first.fromMembers all) (second.fromMembers all)).map _ = _
    rw [h.decoded all hfirst, h'.decoded all hsecond]
    rfl

/-- An optional part is left out when it is absent. -/
theorem isForm_optionalMember (name : String) {encode : α → Json}
    (h : ∀ a, Decode.IsForm value a (encode a)) (hnull : ∀ a, encode a ≠ .null)
    (part : Option α) :
    (optional name (nullable value) none).IsForm [name] part
      (Json.optionalMember name encode part) := by
  cases part with
  | none => exact isForm_absent name
  | some a => exact isForm_optional name (isForm_nullable (h a) (hnull a))

end Fields

/-- Docs are left out when there are none. -/
theorem isForm_docs (docs : List String) :
    docsField.IsForm ["docs"] docs (Json.docsMember docs) := by
  cases docs with
  | nil => exact Fields.isForm_absent "docs"
  | cons first rest => exact Fields.isForm_optional "docs" (isForm_strings _)

/-- Passing over the members of an object that is read already is no fault. -/
theorem skipOthers_eq_ok (keys : List String) (others : List (String × Json)) (start : Nat) :
    skipOthers keys start others = .ok () := by
  induction others generalizing start with
  | nil => rfl
  | cons head others ih =>
      obtain ⟨k, v⟩ := head
      rw [skipOthers]
      split
      · exact ih _
      · exact ih _

/-- A record is read from an object that its fields are read from. -/
theorem record_object {fields : Fields Json α} {value : α} {others : List (String × Json)}
    (h : fields.fromMembers others = .ok value) : record fields (Json.object others) = .ok value := by
  simp only [record, Json.Readable.layer, bind, Except.bind, skipOthers_eq_ok, h, both]

/-- The object of forms of the fields is a form of the record. -/
theorem isForm_record {fields : Fields Json α} {keys : List String} {value : α}
    {members : List (String × Json)} (h : fields.IsForm keys value members) (hkeys : keys.Nodup) :
    IsForm (record fields) value (.object members) := by
  have hnodup := h.sublist.nodup hkeys
  refine ⟨⟨hnodup, Json.distinctMembers_iff.mpr h.distinct⟩, fun other hother => ?_⟩
  obtain ⟨others, rfl, hothers⟩ := Json.reorders_object.mp hother
  exact record_object (h.decoded others (.of_reorder hothers hnodup _))

/-! ## Kinds -/

/-- Once the kind is known and no other member names one, the others are set aside. -/
theorem splitKind_some {stage : Stage} {key : String} {kinds : List String} {kind : String}
    {others : List (String × Json)} (h : key ∉ others.map (·.1)) :
    splitKind stage key kinds (some kind) others = .ok (kind, others) := by
  induction others with
  | nil => rfl
  | cons head others ih =>
      obtain ⟨k, v⟩ := head
      rw [List.map_cons, List.mem_cons, not_or] at h
      rw [splitKind, if_neg (Ne.symm h.1), ih h.2]
      rfl

/-- The kind is that of the one member that names it; the others are set aside. -/
theorem splitKind_none {stage : Stage} {key : String} {kinds : List String} {kind : String}
    {others : List (String × Json)} (hkind : kind ∈ kinds) (hnodup : (others.map (·.1)).Nodup)
    (hmem : (key, .string kind) ∈ others) :
    splitKind stage key kinds none others = .ok (kind, others.filter (·.1 ≠ key)) := by
  induction others with
  | nil => exact nomatch hmem
  | cons head others ih =>
      obtain ⟨k, v⟩ := head
      rw [List.map_cons, List.nodup_cons] at hnodup
      rcases List.mem_cons.mp hmem with heq | hmem
      · obtain ⟨rfl, rfl⟩ := Prod.mk.inj heq
        have hvariant : variant stage kinds (Json.string kind) = .ok kind := by
          show variantName kinds kind = .ok kind
          rw [variantName, if_pos hkind]
        have hrest : others.filter (·.1 ≠ key) = others :=
          List.filter_eq_self.mpr fun m hm =>
            decide_eq_true fun heq => hnodup.1 (heq ▸ List.mem_map_of_mem (f := (·.1)) hm)
        rw [splitKind, if_pos rfl, hvariant, List.filter_cons_of_neg (by simp), hrest]
        exact splitKind_some hnodup.1
      · have hkey : key ∈ others.map (·.1) := List.mem_map_of_mem (f := (·.1)) hmem
        have hne : k ≠ key := fun heq => hnodup.1 (heq ▸ hkey)
        rw [splitKind, if_neg hne, ih hnodup.2 hmem, List.filter_cons_of_pos (by simpa using hne)]
        rfl

section Tagged

variable {decode : Json → Except Fault α} {stage : Stage} {key kind : String}
  (kinds : List String) {value : α} {members others : List (String × Json)}

/-- A value with a kind is split into its kind and all else. -/
theorem tagged_object {kinds : List String} (hkind : kind ∈ kinds)
    (h : MembersReorder ((key, .string kind) :: members) others)
    (hnodup : (key :: members.map (·.1)).Nodup) :
    tagged stage key kinds (Json.object others)
      = .ok (kind, .members (others.filter (·.1 ≠ key))) := by
  obtain ⟨other, hmem, hother⟩ := h.exists_mem List.mem_cons_self
  rw [Json.reorders_string.mp hother] at hmem
  show (splitKind stage key kinds none others >>= fun x => pure (x.1, Body.members x.2)) = _
  rw [splitKind_none hkind (h.keys_perm.nodup_iff.mp hnodup) hmem]
  rfl

/-- The object of a kind and forms of the fields of that kind is a form of the value. -/
theorem isForm_tagged {fields : Fields Json α} {keys : List String} (hkind : kind ∈ kinds)
    (h : fields.IsForm keys value members) (hkeys : (key :: keys).Nodup)
    (hdecode : ∀ other body, tagged stage key kinds other = .ok (kind, body) →
      decode other = body.decode fields) :
    IsForm decode value (.object ((key, .string kind) :: members)) := by
  have hnodup : (key :: members.map (·.1)).Nodup := (h.sublist.cons_cons key).nodup hkeys
  refine ⟨⟨hnodup, trivial, Json.distinctMembers_iff.mpr h.distinct⟩, fun other hother => ?_⟩
  obtain ⟨others, rfl, hothers⟩ := Json.reorders_object.mp hother
  rw [hdecode _ _ (tagged_object hkind hothers hnodup)]
  have hrest := hothers.filter_ne (List.nodup_cons.mp hnodup).1
  exact record_object (h.decoded _ (.of_reorder hrest (List.nodup_cons.mp hnodup).2 _))

/-- The object of a kind without fields is a form of the value. -/
theorem isForm_unit (hkind : kind ∈ kinds)
    (hdecode : ∀ other body, tagged stage key kinds other = .ok (kind, body) →
      decode other = body.unit value) :
    IsForm decode value (.object [(key, .string kind)]) := by
  have hnodup : (key :: ([] : List (String × Json)).map (·.1)).Nodup := List.nodup_singleton key
  refine ⟨⟨hnodup, trivial, trivial⟩, fun other hother => ?_⟩
  obtain ⟨others, rfl, hothers⟩ := Json.reorders_object.mp hother
  rw [hdecode _ _ (tagged_object hkind hothers hnodup)]
  rfl

/-- A value that is named by its only key. -/
theorem isForm_choice {payload : Json → Except Fault β} {carried : β} {document : Json}
    {name : String} (h : IsForm payload carried document)
    (hdecode : ∀ other, payload other = .ok carried → decode (.object [(name, other)]) = .ok value) :
    IsForm decode value (.object [(name, document)]) := by
  refine ⟨⟨List.nodup_singleton _, h.distinct, trivial⟩, fun other hother => ?_⟩
  obtain ⟨others, rfl, same, hsame, hperm⟩ := Json.reorders_object.mp hother
  obtain ⟨other, rest, rfl, hvalue, rfl⟩ := hsame
  rw [List.perm_singleton.mp hperm.symm]
  exact hdecode other (h.decoded other hvalue)

end Tagged

/-! ## Maps -/

section Maps

variable {K V : Type} [SortKey K] {key : String → Except Fault K} {value : Json → Except Fault V}
  {text : K → String} {encode : V → Json}

/-- Members that are decoded one by one are put into a map one by one. -/
theorem mapOf_object {members : List (String × Json)} {entries : List (K × V)}
    (h : List.Forall₂ (fun m e => key m.1 = .ok e.1 ∧ value m.2 = .ok e.2) members entries) :
    mapOf key value (Json.object members) = .ok (.ofList entries) := by
  show List.foldlM _ SortedMap.empty members = Except.ok (entries.foldl _ SortedMap.empty)
  generalize (SortedMap.empty : SortedMap K V) = done
  induction h generalizing done with
  | nil => rfl
  | @cons m e members entries hhead _ ih =>
      obtain ⟨k, j⟩ := m
      rw [List.foldlM_cons, List.foldl_cons]
      refine bind_eq_ok.mpr ⟨done.insert e.1 e.2, ?_, ih _⟩
      show (key k >>= fun k => value j >>= fun v => pure (done.insert k v)) = _
      rw [hhead.1, hhead.2]
      rfl

omit [SortKey K] in
/-- Members with forms of entries are decoded to these entries. -/
theorem forall₂_decoded : ∀ {entries : List (K × V)} {same : List (String × Json)},
    (∀ e ∈ entries, key (text e.1) = .ok e.1 ∧ IsForm value e.2 (encode e.2)) →
    Json.ReordersMembers (entries.map fun e => (text e.1, encode e.2)) same →
    List.Forall₂ (fun m e => key m.1 = .ok e.1 ∧ value m.2 = .ok e.2) same entries := by
  intro entries
  induction entries with
  | nil => rintro same - rfl; exact .nil
  | cons e entries ih =>
      rintro same h ⟨other, rest, rfl, hother, hrest⟩
      obtain ⟨⟨hkey, hvalue⟩, h⟩ := List.forall_mem_cons.mp h
      exact .cons ⟨hkey, hvalue.decoded other hother⟩ (ih h hrest)

/-- The object of the entries of a map is a form of it when every key is read back. -/
theorem isForm_mapOf {map : SortedMap K V} (hkey : ∀ e ∈ map.entries, key (text e.1) = .ok e.1)
    (hvalue : ∀ e ∈ map.entries, IsForm value e.2 (encode e.2)) :
    IsForm (mapOf key value) map
      (.object (map.entries.map fun e => (text e.1, encode e.2))) := by
  have htexts : ((map.entries.map fun e => (text e.1, encode e.2)).map (·.1)).Nodup := by
    rw [List.map_map]
    refine (List.nodup_map_iff_inj_on map.nodup_keys.of_map).mpr fun e he e' he' heq => ?_
    refine List.inj_on_of_nodup_map map.nodup_keys he he' ?_
    have hsame := (hkey e he).symm.trans ((congrArg key heq).trans (hkey e' he'))
    exact Except.ok.inj hsame
  refine ⟨⟨htexts, Json.distinctMembers_iff.mpr fun m hm => ?_⟩, fun other hother => ?_⟩
  · obtain ⟨e, he, rfl⟩ := List.mem_map.mp hm
    exact (hvalue e he).distinct
  · obtain ⟨others, rfl, same, hsame, hperm⟩ := Json.reorders_object.mp hother
    have hread := forall₂_decoded (fun e he => ⟨hkey e he, hvalue e he⟩) hsame
    obtain ⟨entries, hentries, hsorted⟩ := List.perm_comp_forall₂ hperm.symm hread
    rw [mapOf_object hentries, SortedMap.ofList_of_perm hsorted]

omit [SortKey K] in
/-- The object of the entries of a map by name is a form of it. -/
theorem isForm_named (map : SortedMap String V) (h : ∀ v, IsForm value v (encode v)) :
    IsForm (mapOf Except.ok value) map (.object (map.entries.map fun e => (e.1, encode e.2))) :=
  @isForm_mapOf String V _ Except.ok value id encode map (fun _ _ => rfl) fun e _ => h e.2

end Maps

end Bindery.Decode
