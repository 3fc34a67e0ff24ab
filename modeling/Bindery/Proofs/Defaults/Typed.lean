import Bindery.Proofs.Defaults.Run
import Bindery.Proofs.Views

/-! # Types of defaults — what a rule checks, and what it leaves unchecked

    A default is meant to give its target a value: an address where one is held,
    what an argument of the same type holds, or a literal that is a value of the
    type.  `DefaultValue.Denotes` says when it does, for an account and for an
    argument of a type or of an option of it; a type that is only linked to is not
    looked into, so that under a link every literal counts.

    A rule that is accepted has been checked for the kind of its value only.  That
    is enough for addresses, for `absent`, and for truth values, texts and keys.
    It is not enough in three places: the type of an argument that is read, the
    range of a number and the length of bytes are not looked at
    (`DefaultValue.Agrees`).  With these three an accepted default denotes a value
    of the type of its target, and only with them (`SetDefaults.denotes_iff`).  That
    they are not checked shows in an operation whose three rules each miss one of them
    and are accepted (`SetDefaults.exists_mistyped`). -/

namespace Bindery

/-! ## Values of a type -/

/-- The whole numbers that a format covers; a floating format covers all that are written. -/
def NumberFormat.Covers (format : NumberFormat) (n : Int) : Prop :=
  match format with
  | .f32 | .f64 => True
  | .u8 | .u16 | .u32 | .u64 | .u128 => 0 ≤ n ∧ n < wordCount (8 * format.size)
  | .i8 | .i16 | .i32 | .i64 | .i128 =>
      -(wordCount (8 * format.size - 1) : Int) ≤ n ∧ n < wordCount (8 * format.size - 1)

/-- A literal is a value of a type. -/
def Literal.IsOf (literal : Literal) : TypeNode → Prop
  | .link _ => True
  | .number format => ∃ n, literal = .number n ∧ format.Covers n.toInt
  | .boolean => ∃ value, literal = .boolean value
  | .string => ∃ text, literal = .string text
  | .publicKey => ∃ address, literal = .publicKey address
  | .bytes => ∃ raw, literal = .bytes raw
  | .fixedSize inner size =>
      literal.IsOf inner ∧ ∃ raw, literal = .bytes raw ∧ raw.length = size.toNat
  | .option _ | .array _ _ | .struct _ | .enum _ => False

namespace InputTarget

/-- The type that a target holds when it holds something: an address, or what is under the
    option of an argument. -/
def item : InputTarget → TypeNode
  | .account _ => .publicKey
  | .argument a => a.type.unwrapOption

/-- A target takes values of a type: an account addresses, an argument those of its type, bare
    or under an option. -/
def Expects : InputTarget → TypeNode → Prop
  | .account _, type => type = .publicKey
  | .argument a, type => a.type = type ∨ a.type = .option type

end InputTarget

namespace DefaultValue

/-- What a default gives in an instruction is of a type. -/
def IsOf (instruction : Instruction) (type : TypeNode) : DefaultValue → Prop
  | .pda _ _ | .programId | .account _ => type = .publicKey
  | .argument name => ∃ found, instruction.argument? name = some found ∧ found.type = type
  | .literal value => value.IsOf type
  | .absent => False

/-- A default denotes a value for its target: nothing, where the target can be left empty, or
    something of a type that the target takes. -/
def Denotes (instruction : Instruction) (of : InputTarget) (value : DefaultValue) : Prop :=
  value = .absent ∧ of.canBeAbsent = true ∨ ∃ type, of.Expects type ∧ value.IsOf instruction type

end DefaultValue

/-! ## What is left unchecked -/

/-- A literal of the kind of a type is in its bounds: a number in the range of the format, and
    bytes of the fixed size. -/
def Literal.InBounds : Literal → TypeNode → Prop
  | .number n, .number format => format.Covers n.toInt
  | .bytes raw, .fixedSize inner size => (Literal.bytes raw).IsOf inner ∧ raw.length = size.toNat
  | _, _ => True

/-- What has to hold of an accepted default for it to be of the type of its target: that an
    argument which is read is of such a type, and that a literal is in bounds. -/
def DefaultValue.Agrees (instruction : Instruction) (of : InputTarget) : DefaultValue → Prop
  | .argument name => ∃ found, instruction.argument? name = some found ∧ of.Expects found.type
  | .literal value => value.InBounds of.item
  | .pda _ _ | .account _ | .absent | .programId => True

/-- A literal of the kind of a type is a value of it when it is in its bounds. -/
theorem Literal.isOf_iff {value : Literal} {type : TypeNode} (h : value.fitsType type = true) :
    value.IsOf type ↔ value.InBounds type := by
  cases type with
  | link name => cases value <;> exact Iff.rfl
  | number format =>
      cases value with
      | number n =>
          constructor
          · rintro ⟨m, heq, hcovers⟩
            rwa [← Literal.number.inj heq] at hcovers
          · intro hcovers
            exact ⟨n, rfl, hcovers⟩
      | _ => exact nomatch h
  | fixedSize inner size =>
      cases value with
      | bytes raw =>
          constructor
          · rintro ⟨hinner, bytes, heq, hlength⟩
            rw [← Literal.bytes.inj heq] at hlength
            exact ⟨hinner, hlength⟩
          · rintro ⟨hinner, hlength⟩
            exact ⟨hinner, raw, rfl, hlength⟩
      | _ => exact nomatch h
  | boolean =>
      cases value with
      | boolean b => exact iff_of_true ⟨b, rfl⟩ trivial
      | _ => exact nomatch h
  | string =>
      cases value with
      | string text => exact iff_of_true ⟨text, rfl⟩ trivial
      | _ => exact nomatch h
  | publicKey =>
      cases value with
      | publicKey address => exact iff_of_true ⟨address, rfl⟩ trivial
      | _ => exact nomatch h
  | bytes =>
      cases value with
      | bytes raw => exact iff_of_true ⟨raw, rfl⟩ trivial
      | _ => exact nomatch h
  | option | array | struct | enum => cases value <;> exact nomatch h

/-! ## Accepted rules -/

section Targets

variable {instruction : Instruction} {of : InputTarget}

/-- A target takes values of the type that it holds. -/
theorem InputTarget.expects_item (of : InputTarget) : of.Expects of.item := by
  cases of with
  | account a => rfl
  | argument a =>
      obtain ⟨name, type, docs, value⟩ := a
      cases type with
      | option item => exact .inr rfl
      | _ => exact .inl rfl

/-- A target that can hold an address takes addresses. -/
theorem InputTarget.expects_publicKey (h : of.holdsAddress = true) : of.Expects .publicKey := by
  have hitem : of.item = .publicKey := by
    cases of with
    | account a => rfl
    | argument a => exact of_decide_eq_true h
  exact hitem ▸ of.expects_item

/-- A literal of a type that a target takes is of the type that it holds: no literal is an
    option. -/
theorem Literal.isOf_item {value : Literal} {type : TypeNode} (htype : of.Expects type)
    (h : value.IsOf type) : value.IsOf of.item := by
  cases of with
  | account a =>
      obtain rfl : type = .publicKey := htype
      exact h
  | argument a =>
      show value.IsOf a.type.unwrapOption
      rcases htype with htype | htype
      · rw [htype]
        cases type with
        | option item => exact h.elim
        | _ => exact h
      · rw [htype]
        exact h

/-- A literal denotes a value when it is of the type that its target holds. -/
theorem Literal.denotes_iff_isOf {value : Literal} :
    (DefaultValue.literal value).Denotes instruction of ↔ value.IsOf of.item := by
  constructor
  · rintro (⟨h, -⟩ | ⟨type, htype, h⟩)
    · exact nomatch h
    · exact value.isOf_item htype h
  · intro h
    exact .inr ⟨of.item, of.expects_item, h⟩

/-- An argument that is read denotes a value when it is of a type that the target takes. -/
theorem DefaultValue.argument_denotes_iff {name : String} :
    (DefaultValue.argument name).Denotes instruction of
      ↔ ∃ found, instruction.argument? name = some found ∧ of.Expects found.type := by
  constructor
  · rintro (⟨h, -⟩ | ⟨type, htype, found, hfound, rfl⟩)
    · exact nomatch h
    · exact ⟨found, hfound, htype⟩
  · rintro ⟨found, hfound, htype⟩
    exact .inr ⟨found.type, htype, found, hfound, rfl⟩

/-- An address denotes a value for a target that can hold one. -/
theorem DefaultValue.denotes_of_isOf_publicKey {value : DefaultValue}
    (haddress : of.holdsAddress = true) (h : value.IsOf instruction .publicKey) :
    value.Denotes instruction of :=
  .inr ⟨.publicKey, InputTarget.expects_publicKey haddress, h⟩

/-- A literal that fits a target is of the kind of the type that the target holds. -/
theorem Literal.fitsType_item {value : Literal} (h : value.fits of = true) :
    value.fitsType of.item = true := by
  cases of with
  | account a => cases value <;> first | rfl | exact nomatch h
  | argument a => exact h

/-- **WHAT A RULE CHECKS**: the value that a rule resolves to denotes a value for its target
    exactly when it passes what is left unchecked. -/
theorem DefaultRule.denotes_of_resolve {index : Index} {rule : DefaultRule} {value : DefaultValue}
    (h : rule.resolve index instruction of = .ok value) :
    value.Denotes instruction of ↔ value.Agrees instruction of := by
  obtain ⟨target, given⟩ := rule
  cases resolve_eq_ok_iff.mp h with
  | pda hbound =>
      have haddress := (unless_eq_ok.mp hbound).1
      rw [Bool.not_eq_true', Bool.not_eq_false] at haddress
      exact iff_of_true (DefaultValue.denotes_of_isOf_publicKey haddress rfl) trivial
  | account _ haddress | programId haddress =>
      exact iff_of_true (DefaultValue.denotes_of_isOf_publicKey haddress rfl) trivial
  | argument _ => exact DefaultValue.argument_denotes_iff
  | absent habsent => exact iff_of_true (.inl ⟨rfl, habsent⟩) trivial
  | literal hfits =>
      exact Literal.denotes_iff_isOf.trans (Literal.isOf_iff (Literal.fitsType_item hfits))

end Targets

/-- **TYPES OF DEFAULTS**: on every tree, each rule of an operation that is accepted stores a
    default that denotes a value of the type of its target exactly when it passes what is left
    unchecked: an argument that is read is of a type that the target takes, a number is in the
    range of its format, and bytes have the fixed size. -/
theorem SetDefaults.denotes_iff {operation : SetDefaults} {tree next : Tree}
    (h : operation.apply (Index.of tree) = .ok next) :
    ∀ rule ∈ operation.rules, ∃ slot value instruction of,
      rule.settle (Index.of tree) = .ok (slot, value) ∧ rule.IsFor tree slot instruction of
        ∧ (value.Denotes instruction of ↔ value.Agrees instruction of) := by
  intro rule hrule
  obtain ⟨stored, hstored, -⟩ := SetDefaults.apply_eq_ok_iff.mp h
  obtain ⟨⟨slot, value⟩, -, hsettle⟩ :=
    exists_of_forall₂_left (forall₂_of_mapM_eq_ok hstored) hrule
  obtain ⟨instruction, of, hfor, hresolve⟩ := DefaultRule.settle_eq_ok_iff_isFor.mp hsettle
  exact ⟨slot, value, instruction, of, hsettle, hfor, DefaultRule.denotes_of_resolve hresolve⟩

/-- An interface with one instruction, which takes a byte, a seal of 32 bytes and a memo. -/
def toll : Document where
  label := "bank"
  text := String.join [
    "\x7b\"name\":\"bank\",\"address\":\"B\",",
    "\"instructions\":[\x7b\"name\":\"pay\",\"accounts\":[\x7b\"name\":\"payer\"\x7d],",
    "\"args\":[\x7b\"name\":\"fee\",\"type\":\"u8\"\x7d,",
    "\x7b\"name\":\"seal\",\"type\":\x7b\"array\":[\"u8\",32]\x7d\x7d,",
    "\x7b\"name\":\"memo\",\"type\":\"string\"\x7d]\x7d]\x7d"]

/-- The instruction of that interface. -/
def pay : Instruction where
  name := "pay"
  docs := []
  accounts := [⟨"payer", false, false, false, [], none⟩]
  arguments := [⟨"fee", .number .u8, [], none⟩, ⟨"seal", .fixedSize .bytes 32, [], none⟩,
    ⟨"memo", .string, [], none⟩]
  discriminator := none

/-- The tree of that interface. -/
def tollTree : Tree where
  programs := [
    { name := "bank", publicKey := "B", version := "", docs := []
      accounts := [], instructions := [pay], definedTypes := [], errors := [] }]
  sharedTypes := []

/-- The interface loads. -/
theorem load_toll : Tree.load [toll] = .ok tollTree := by
  refine load_singleton ?_
  rw [documentProgram_eq String.toList_join]
  decide +kernel

/-- The path of an argument of the instruction. -/
def payArgument (name : String) : NodePath := .instructionArgument "bank" "pay" name

/-- A text for the address of the payer, a number that no byte holds, and a short seal. -/
def mistyped : SetDefaults where
  rules := [⟨.instructionAccount "bank" "pay" "payer", .argument "memo"⟩,
    ⟨payArgument "fee", .literal (.number 300)⟩,
    ⟨payArgument "seal", .literal (.bytes [1, 2])⟩]

/-- **ACCEPTED, AND OF NO VALUE**: an operation on a tree that is loaded whose three rules are
    accepted, none of which denotes a value of the type of its target. -/
theorem SetDefaults.exists_mistyped : Tree.load [toll] = .ok tollTree
    ∧ (∃ next, mistyped.apply (Index.of tollTree) = .ok next)
    ∧ ∀ rule ∈ mistyped.rules, ∃ slot value instruction of,
        rule.settle (Index.of tollTree) = .ok (slot, value)
          ∧ rule.IsFor tollTree slot instruction of ∧ ¬ value.Denotes instruction of := by
  refine ⟨load_toll, ⟨_, rfl⟩, ?_⟩
  simp only [mistyped, List.forall_mem_cons]
  refine ⟨?text, ?number, ?bytes, fun _ h => (nomatch h)⟩
  case text =>
    refine ⟨_, _, pay, .account pay.accounts[0], rfl, ⟨⟨_, rfl, rfl, rfl⟩, _, _, rfl, rfl⟩, ?_⟩
    rw [DefaultValue.argument_denotes_iff]
    rintro ⟨found, hfound, htype⟩
    obtain rfl : pay.arguments[2] = found := Option.some.inj hfound
    exact nomatch htype
  case number =>
    refine ⟨_, _, pay, .argument pay.arguments[0], rfl, ⟨⟨_, rfl, rfl, rfl⟩, _, _, rfl, rfl⟩, ?_⟩
    rw [Literal.denotes_iff_isOf, Literal.isOf_iff rfl]
    exact fun h => absurd h.2 (by decide)
  case bytes =>
    refine ⟨_, _, pay, .argument pay.arguments[1], rfl, ⟨⟨_, rfl, rfl, rfl⟩, _, _, rfl, rfl⟩, ?_⟩
    rw [Literal.denotes_iff_isOf, Literal.isOf_iff rfl]
    exact fun h => absurd h.2 (by decide)

/-- The largest number that a byte holds. -/
def largestFee : SetDefaults where
  rules := [⟨payArgument "fee", .literal (.number 255)⟩]

theorem SetDefaults.denotes_iff_toll : ∃ next,
    largestFee.apply (Index.of tollTree) = .ok next
      ∧ (DefaultValue.literal (.number 255)).Denotes pay (.argument pay.arguments[0]) := by
  have happly : largestFee.apply (Index.of tollTree) = .ok (tollTree.setDefault
      (.instructionArgument 0 0 0) (.literal (.number 255))) := rfl
  refine ⟨_, happly, ?_⟩
  obtain ⟨slot, value, instruction, of, hsettle, hfor, hiff⟩ :=
    SetDefaults.denotes_iff happly _ List.mem_cons_self
  obtain ⟨-, rfl⟩ := Prod.mk.inj (Except.ok.inj hsettle)
  obtain ⟨entry, hentry, -, hof⟩ := hfor.input
  obtain rfl := Except.ok.inj hentry
  obtain rfl := Except.ok.inj hof
  obtain ⟨path, place, hpath, hinstruction⟩ := hfor.caller
  obtain rfl := Option.some.inj hpath
  obtain ⟨rfl, -⟩ := Prod.mk.inj (Except.ok.inj hinstruction)
  exact hiff.mpr ⟨by decide, by decide⟩

end Bindery
