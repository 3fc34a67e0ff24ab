import Bindery.Description.Load
import Bindery.Proofs.Json.Forms

/-! # Spellings — different type expressions stand for different types

    A document may write one type in several ways: the name of a definition bare
    or in an object, a public key under an old and a new name.  `Spelling` keeps
    all of these apart, and `Spelling.normal` decides for the new name and for the
    object.  The conversion of types conflates nothing else (`spellings_exact`).

    The one case in which it might is that of arrays: what an array becomes
    depends on the type of its item, and bytes in a row become one run of bytes.
    So the argument does not compare two expressions.  It reads the normal
    spelling off a type (`TypeNode.spelling?`), where a run of bytes can only come
    from an array of `u8`, since nothing else gives a type of a fixed size.  One
    induction says that what is read is the normal spelling of the expression
    (`Spelling.spelling?_of_toType`), and the rest is about spellings alone. -/

namespace Bindery

open Decode

/-! ## Spellings -/

/-- A type expression as a document writes it. -/
inductive Spelling where
  | primitive (name : String)
  | bare (name : String)
  | named (name : String)
  | option (item : Spelling)
  | vec (item : Spelling)
  | array (item : Spelling) (size : UInt64)
deriving DecidableEq

namespace Spelling

/-- What the document has in its place. -/
def json : Spelling → Json
  | .primitive name => .string name
  | .bare name => .object [("defined", .string name)]
  | .named name => .object [("defined", .object [("name", .string name)])]
  | .option item => .object [("option", item.json)]
  | .vec item => .object [("vec", item.json)]
  | .array item size => .object [("array", .array [item.json, Json.word size])]

/-- A spelling stands for a type when the document is read there and what is read has that
    type. -/
def Denotes (spelling : Spelling) (type : TypeNode) : Prop :=
  ∃ expr, TypeExpr.decode spelling.json = .ok expr ∧ expr.toType = .ok type

/-- The same expression with every `publicKey` written as `pubkey` and the name of every
    definition put into an object. -/
def normal : Spelling → Spelling
  | .primitive name => .primitive (if name = "publicKey" then "pubkey" else name)
  | .bare name | .named name => .named name
  | .option item => .option item.normal
  | .vec item => .vec item.normal
  | .array item size => .array item.normal size

/-- What an expression has at a depth. There is at most one expression directly in another. -/
def at? : (depth : Nat) → Spelling → Option Spelling
  | 0, spelling => some spelling
  | depth + 1, .option item | depth + 1, .vec item | depth + 1, .array item _ => at? depth item
  | _ + 1, .primitive _ | _ + 1, .bare _ | _ + 1, .named _ => none

/-- The kinds of sequences that expressions stand for. -/
inductive Sequence where
  | bytes
  | byteArray (size : UInt64)
  | fixedArray (size : UInt64)
  | vector
deriving DecidableEq

/-- The kind of sequence that an expression writes, if it writes one. -/
def sequence? : Spelling → Option Sequence
  | .primitive name => if name = "bytes" then some .bytes else none
  | .array item size => some (if item = .primitive "u8" then .byteArray size else .fixedArray size)
  | .vec _ => some .vector
  | .bare _ | .named _ | .option _ => none

/-! ## What is read -/

/-- The expression that a spelling writes. -/
def expr : Spelling → TypeExpr
  | .primitive name => .primitive name
  | .bare name | .named name => .defined name
  | .option item => .option item.expr
  | .vec item => .vec item.expr
  | .array item size => .array item.expr size

/-- A record of which something is made. -/
theorem objectOnly_map {α β : Type} (f : α → β) (fields : Fields Json α) (document : Json) :
    objectOnly (f <$> fields) document = (objectOnly fields document).map f := by
  cases document with
  | object members =>
      have hmembers : (f <$> fields).fromMembers members = (fields.fromMembers members).map f := by
        show (both (.ok f) (fields.fromMembers members)).map _ = _
        cases fields.fromMembers members <;> rfl
      simp only [objectOnly, record, Json.Readable.layer, bind, Except.bind, skipOthers_eq_ok,
        hmembers]
      cases fields.fromMembers members <;> rfl
  | null | bool _ | number _ | string _ | array _ => rfl

/-- An object with one member, read as a record of one field. -/
theorem objectOnly_required {α : Type} (name key : String) (value : Json → Except Fault α)
    (document : Json) :
    objectOnly (.required name value) (.object [(key, document)])
      = if key = name then value document else .error (.missingField name) := by
  simp only [objectOnly, record, Json.Readable.layer, bind, Except.bind, skipOthers_eq_ok,
    Fields.required, Fields.ofKeys, locate, List.mem_singleton]
  by_cases hkey : key = name
  · simp only [if_pos hkey]
    cases value document <;> rfl
  · simp only [if_neg hkey]
    rfl

section Forms

variable {fuel : Nat} {document : Json} {item : TypeExpr}

theorem decodeWithin_option (h : TypeExpr.decodeWithin fuel document = .ok item) :
    TypeExpr.decodeWithin (fuel + 1) (.object [("option", document)]) = .ok (.option item) := by
  simp only [TypeExpr.decodeWithin, objectOnly_map, objectOnly_required, h]
  rfl

theorem decodeWithin_vec (h : TypeExpr.decodeWithin fuel document = .ok item) :
    TypeExpr.decodeWithin (fuel + 1) (.object [("vec", document)]) = .ok (.vec item) := by
  simp only [TypeExpr.decodeWithin, objectOnly_map, objectOnly_required, h]
  rfl

theorem decodeWithin_array (h : TypeExpr.decodeWithin fuel document = .ok item) (size : UInt64) :
    TypeExpr.decodeWithin (fuel + 1) (.object [("array", .array [document, Json.word size])])
      = .ok (.array item size) := by
  have hsize : word64 (Json.word size) = .ok size := (isForm_word64 size).decode_eq
  simp only [TypeExpr.decodeWithin, objectOnly_map, objectOnly_required, h, hsize]
  rfl

end Forms

/-- A document is read as the expression that it writes, if it is not nested too deep. -/
theorem decodeWithin_json (spelling : Spelling) {fuel : Nat} (h : spelling.json.depth < fuel) :
    TypeExpr.decodeWithin fuel spelling.json = .ok spelling.expr := by
  induction spelling generalizing fuel with
  | primitive name =>
      obtain ⟨fuel, rfl⟩ := Nat.exists_eq_succ_of_ne_zero (Nat.ne_zero_of_lt h)
      rfl
  | bare name | named name =>
      obtain ⟨fuel, rfl⟩ := Nat.exists_eq_succ_of_ne_zero (Nat.ne_zero_of_lt h)
      simp only [json, TypeExpr.decodeWithin, objectOnly_map, objectOnly_required,
        TypeExpr.definedName]
      rfl
  | option item ih =>
      have hdepth : max item.json.depth 0 + 1 < fuel := h
      obtain ⟨fuel, rfl⟩ := Nat.exists_eq_succ_of_ne_zero (Nat.ne_zero_of_lt h)
      exact decodeWithin_option (ih (by omega))
  | vec item ih =>
      have hdepth : max item.json.depth 0 + 1 < fuel := h
      obtain ⟨fuel, rfl⟩ := Nat.exists_eq_succ_of_ne_zero (Nat.ne_zero_of_lt h)
      exact decodeWithin_vec (ih (by omega))
  | array item size ih =>
      have hdepth : max (max item.json.depth (max 0 0) + 1) 0 + 1 < fuel := h
      obtain ⟨fuel, rfl⟩ := Nat.exists_eq_succ_of_ne_zero (Nat.ne_zero_of_lt h)
      exact decodeWithin_array (ih (by omega)) size

theorem decode_json (spelling : Spelling) : TypeExpr.decode spelling.json = .ok spelling.expr :=
  spelling.decodeWithin_json (Nat.lt_succ_self _)

theorem denotes_iff_toType {spelling : Spelling} {type : TypeNode} :
    spelling.Denotes type ↔ spelling.expr.toType = .ok type := by
  simp only [Denotes, decode_json, Except.ok.injEq, exists_eq_left']

/-! ## Normal spellings -/

/-- An expression and its normal spelling have one type. -/
theorem toType_normal (spelling : Spelling) :
    spelling.normal.expr.toType = spelling.expr.toType := by
  induction spelling with
  | primitive name =>
      by_cases hname : name = "publicKey"
      · subst hname
        rfl
      · rw [normal, if_neg hname]
  | bare name | named name => rfl
  | option item ih | vec item ih | array item size ih =>
      simp only [normal, expr, TypeExpr.toType, ih]

/-- Depths are those of the normal spelling. -/
theorem at?_normal (depth : Nat) (spelling : Spelling) :
    at? depth spelling.normal = (at? depth spelling).map normal := by
  induction depth generalizing spelling with
  | zero => rfl
  | succ depth ih =>
      cases spelling with
      | primitive name | bare name | named name => rfl
      | option item | vec item | array item size => exact ih item

/-- Only `u8` is spelt `u8`. -/
theorem normal_eq_u8 {spelling : Spelling} :
    spelling.normal = .primitive "u8" ↔ spelling = .primitive "u8" := by
  cases spelling with
  | primitive name =>
      simp only [normal, primitive.injEq]
      split
      · subst name
        decide
      · rfl
  | bare name | named name | option item | vec item | array item size => simp [normal]

/-- A normal spelling writes the same kind of sequence. -/
theorem sequence?_normal (spelling : Spelling) :
    spelling.normal.sequence? = spelling.sequence? := by
  cases spelling with
  | primitive name =>
      simp only [normal, sequence?]
      split
      · subst name
        rfl
      · rfl
  | bare name | named name | option item | vec item => rfl
  | array item size => simp only [normal, sequence?, normal_eq_u8]

end Spelling

/-! ## Types tell their spelling -/

/-- The normal spelling of the expressions that stand for a type, if there are any. -/
def TypeNode.spelling? : TypeNode → Option Spelling
  | .number format => some (.primitive format.name)
  | .boolean => some (.primitive "bool")
  | .publicKey => some (.primitive "pubkey")
  | .string => some (.primitive "string")
  | .bytes => some (.primitive "bytes")
  | .fixedSize _ size => some (.array (.primitive "u8") size)
  | .option item => item.spelling?.map .option
  | .array item none => item.spelling?.map .vec
  | .array item (some size) => item.spelling?.map (.array · size)
  | .link name => some (.named name)
  | .struct _ | .enum _ => none

/-- What a primitive names tells the name. -/
theorem TypeNode.spelling?_of_primitive? {name : String} {type : TypeNode}
    (h : TypeExpr.primitive? name = some type) :
    type.spelling? = some (Spelling.primitive name).normal := by
  unfold TypeExpr.primitive? at h
  split at h
  case h_6 =>
    obtain ⟨format, hformat, rfl⟩ := Option.map_eq_some_iff.mp h
    have hname : format.name = name := by simpa using List.find?_some hformat
    subst hname
    cases format <;> rfl
  all_goals
    obtain rfl := Option.some.inj h
    rfl

/-- An array tells its item, also when it is one run of bytes. -/
theorem TypeNode.spelling?_sized {item : TypeNode} {spelling : Spelling}
    (h : item.spelling? = some spelling) (size : UInt64) :
    (sized item size).spelling? = some (.array spelling size) := by
  unfold sized
  split
  · obtain rfl := Option.some.inj h
    rfl
  · rw [spelling?, h]
    rfl

/-- **WHAT TYPES TELL**: the type of an expression tells its normal spelling. -/
theorem Spelling.spelling?_of_toType {spelling : Spelling} {type : TypeNode}
    (h : spelling.expr.toType = .ok type) : type.spelling? = some spelling.normal := by
  induction spelling generalizing type with
  | primitive name =>
      unfold expr TypeExpr.toType at h
      split at h
      · next found hfound =>
          obtain rfl := Except.ok.inj h
          exact TypeNode.spelling?_of_primitive? hfound
      · exact nomatch h
  | bare name | named name =>
      obtain rfl := Except.ok.inj h
      rfl
  | option item ih | vec item ih =>
      obtain ⟨found, hfound, h⟩ := bind_eq_ok.mp h
      obtain rfl := pure_eq_ok.mp h
      rw [TypeNode.spelling?, ih hfound]
      rfl
  | array item size ih =>
      obtain ⟨found, hfound, h⟩ := bind_eq_ok.mp h
      obtain rfl := pure_eq_ok.mp h
      exact TypeNode.spelling?_sized (ih hfound) size

/-- **CONVERSION CONFLATES NOTHING**: two expressions stand for one type exactly when they have
    one normal spelling; expressions that write different kinds of sequences at some depth, byte
    arrays of different lengths among them, never do. -/
theorem spellings_exact {one other : Spelling} {type type' : TypeNode} (hone : one.Denotes type)
    (hother : other.Denotes type') :
    (type = type' ↔ one.normal = other.normal)
      ∧ ∀ depth inner inner', one.at? depth = some inner → other.at? depth = some inner' →
        inner.sequence? ≠ inner'.sequence? → type ≠ type' := by
  rw [Spelling.denotes_iff_toType] at hone hother
  have hiff : type = type' ↔ one.normal = other.normal := by
    constructor
    · rintro rfl
      have hsame := Spelling.spelling?_of_toType hone
      rw [Spelling.spelling?_of_toType hother] at hsame
      exact (Option.some.inj hsame).symm
    · intro hnormal
      rw [← Spelling.toType_normal, hnormal, Spelling.toType_normal, hother] at hone
      exact (Except.ok.inj hone).symm
  refine ⟨hiff, fun depth inner inner' hinner hinner' hne htypes => hne ?_⟩
  have hnormal : (one.normal.at? depth).bind Spelling.sequence?
      = (other.normal.at? depth).bind Spelling.sequence? := by rw [hiff.mp htypes]
  simp only [Spelling.at?_normal, hinner, hinner', Option.map_some, Option.bind_some,
    Spelling.sequence?_normal] at hnormal
  exact hnormal

/-- A list of a definition is one type in either spelling; byte arrays of different lengths are
    not, here in an option. -/
theorem spellings_exact_lists :
    (∃ type, (Spelling.vec (.bare "Entry")).Denotes type
      ∧ (Spelling.vec (.named "Entry")).Denotes type
      ∧ (Spelling.vec (.bare "Entry")).normal = (Spelling.vec (.named "Entry")).normal)
    ∧ ∃ type type', (Spelling.option (.array (.primitive "u8") 3)).Denotes type
      ∧ (Spelling.option (.array (.primitive "u8") 4)).Denotes type' ∧ type ≠ type' := by
  have hbare : (Spelling.vec (.bare "Entry")).Denotes (.array (.link "Entry") none) :=
    Spelling.denotes_iff_toType.mpr rfl
  have hnamed : (Spelling.vec (.named "Entry")).Denotes (.array (.link "Entry") none) :=
    Spelling.denotes_iff_toType.mpr rfl
  have hbytes (size : UInt64) : (Spelling.option (.array (.primitive "u8") size)).Denotes
      (.option (.fixedSize .bytes size)) := Spelling.denotes_iff_toType.mpr rfl
  exact ⟨⟨_, hbare, hnamed, (spellings_exact hbare hnamed).1.mp rfl⟩, _, _, hbytes 3, hbytes 4,
    (spellings_exact (hbytes 3) (hbytes 4)).2 1 _ _ rfl rfl (by decide)⟩

end Bindery
