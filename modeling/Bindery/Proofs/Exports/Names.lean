import Bindery.Proofs.Words

/-! # Names of exports — what a name tells

    A package exports constants, with stems in shouty case, and types and functions,
    with stems in camel case.  What is put around a stem tells the kind of the export
    (`Export.kindOf_name`): constants have underscores, functions start with a
    lower-case letter, and ends tell the rest.  The constant of an error is told from
    that of a tag by two underscores side by side, which no stem has.  So exports of
    one program have one name only if they are of one kind and have one stem
    (`Export.name_injOn`). -/

namespace Bindery.Package

/-- The kinds of exports: constants for the address of the program, for tags and for errors;
    types; and functions for codecs, accounts, calls and messages. -/
inductive Export.Kind where
  | address | tag | error | type | codec | decoder | finder | builder | messages
deriving DecidableEq

/-- An export of the modules of a program: its kind, and the stem of its name, which is empty
    for the address. -/
structure Export where
  kind : Export.Kind
  stem : String
deriving DecidableEq

namespace Export

/-- What stands before the stem in a program whose name is given in shouty case. -/
def Kind.before (program : String) : Kind → String
  | address => program
  | error => program ++ "_ERROR__"
  | codec | builder | messages => "get"
  | decoder => "decode"
  | finder => "find"
  | tag | type => ""

/-- What stands behind the stem. -/
def Kind.behind : Kind → String
  | address => "_PROGRAM_ADDRESS"
  | tag => "_DISCRIMINATOR"
  | codec => "Codec"
  | finder => "Pda"
  | builder => "Instruction"
  | messages => "Message"
  | error | type | decoder => ""

/-- The name of an export. -/
def name (program : String) (e : Export) : String :=
  e.kind.before program ++ e.stem ++ e.kind.behind

section Names

variable {program stem : String}

@[simp] theorem name_address : name program ⟨.address, ""⟩ = program ++ "_PROGRAM_ADDRESS" := by
  rw [name, String.append_empty]
  rfl

@[simp] theorem name_tag : name program ⟨.tag, stem⟩ = stem ++ "_DISCRIMINATOR" := by
  show "" ++ stem ++ "_DISCRIMINATOR" = _
  rw [String.empty_append]

@[simp] theorem name_error : name program ⟨.error, stem⟩ = program ++ "_ERROR__" ++ stem :=
  String.append_empty

@[simp] theorem name_type : name program ⟨.type, stem⟩ = stem := by
  show "" ++ stem ++ "" = stem
  rw [String.empty_append, String.append_empty]

@[simp] theorem name_codec : name program ⟨.codec, stem⟩ = "get" ++ stem ++ "Codec" := rfl

@[simp] theorem name_decoder : name program ⟨.decoder, stem⟩ = "decode" ++ stem :=
  String.append_empty

@[simp] theorem name_finder : name program ⟨.finder, stem⟩ = "find" ++ stem ++ "Pda" := rfl

@[simp] theorem name_builder : name program ⟨.builder, stem⟩ = "get" ++ stem ++ "Instruction" :=
  rfl

@[simp] theorem name_messages : name program ⟨.messages, stem⟩ = "get" ++ stem ++ "Message" := rfl

end Names

/-- A stem in shouty case: underscores stand one by one in it, and none at its end. -/
structure Shouty (stem : String) : Prop where
  spaced : Text.Spaced stem.toList
  ends : ∀ c ∈ stem.toList.getLast?, c ≠ '_'

/-- Shouty case makes such stems. -/
theorem shouty_shoutyCase (name : String) : Shouty (Text.shoutyCase name) :=
  ⟨(Text.spaced_shoutyCase name).1, (Text.spaced_shoutyCase name).2⟩

/-- An export whose stem is in the case for its kind. -/
def Regular (e : Export) : Prop :=
  match e.kind with
  | .address => e.stem = ""
  | .error => True
  | .tag => Shouty e.stem
  | .type | .codec | .decoder | .finder | .builder | .messages => Text.Capital e.stem

/-! ## Kinds that are told -/

/-- The kind that the start and the end of a name tell, if it is not a constant. -/
def kindBetween : Option Char → Option Char → Kind
  | some 'd', _ => .decoder
  | some 'f', _ => .finder
  | some 'g', some 'c' => .codec
  | some 'g', some 'n' => .builder
  | some 'g', _ => .messages
  | _, _ => .type

/-- The kind that a name tells: that of a constant by its underscores and its end. -/
def kindOf (cs : List Char) : Kind :=
  if '_' ∈ cs then
    if Text.Spaced cs then if cs.getLast? = some 'S' then .address else .tag
    else .error
  else kindBetween cs.head? cs.getLast?

variable {program stem : String}

/-- A stem in shouty case with an ending has its underscores one by one. -/
theorem Shouty.spaced_append {ending : String} (h : Shouty stem)
    (hending : Text.Spaced ending.toList) : Text.Spaced (stem ++ ending).toList := by
  rw [String.toList_append]
  exact h.spaced.append hending fun c hc _ _ hboth => h.ends c hc hboth.1

/-- The constant of an error has two side by side. -/
theorem not_spaced_error : ¬ Text.Spaced (program ++ "_ERROR__" ++ stem).toList := by
  intro h
  rw [String.toList_append, String.toList_append] at h
  have hinner : Text.Spaced "_ERROR__".toList := h.left_of_append.right_of_append
  exact absurd hinner (by decide)

/-- A constant with an ending is told by it, if it has its underscores one by one. -/
theorem kindOf_constant {ending : String} {c : Char} (h : Shouty stem)
    (hmem : '_' ∈ ending.toList) (hspaced : Text.Spaced ending.toList)
    (hlast : ending.toList.getLast? = some c) :
    kindOf (stem ++ ending).toList = if c = 'S' then .address else .tag := by
  have hunderscore : '_' ∈ (stem ++ ending).toList := by
    rw [String.toList_append]
    exact List.mem_append_right _ hmem
  have hend : (stem ++ ending).toList.getLast? = some c := by
    rw [String.toList_append, List.getLast?_append, hlast]
    rfl
  rw [kindOf, if_pos hunderscore, if_pos (h.spaced_append hspaced), hend]
  simp only [Option.some.injEq]

/-- A function is told by what is around its stem. -/
theorem kindOf_function (before behind : String) {first : Char} (h : Text.Capital stem)
    (hbefore : before.toList.head? = some first) (hunspaced : '_' ∉ before.toList)
    (hbehind : '_' ∉ behind.toList) :
    kindOf (before ++ stem ++ behind).toList
      = kindBetween (some first) (behind.toList.getLast?.or (before ++ stem).toList.getLast?) := by
  have hnone : '_' ∉ (before ++ stem ++ behind).toList := by
    rw [String.toList_append, String.toList_append, List.mem_append, List.mem_append]
    exact not_or.mpr ⟨not_or.mpr ⟨hunspaced, h.unspaced⟩, hbehind⟩
  have hhead : (before ++ stem ++ behind).toList.head? = some first := by
    rw [String.toList_append, String.toList_append, List.head?_append, List.head?_append, hbefore]
    rfl
  rw [kindOf, if_neg hnone, hhead, String.toList_append, List.getLast?_append]

/-- No function starts with anything but a lower-case letter of ASCII. -/
theorem kindBetween_of_notLower {first : Char} {last : Option Char}
    (h : Text.isAsciiLower first = false) : kindBetween (some first) last = .type := by
  have hne : ∀ {c}, Text.isAsciiLower c = true → some first ≠ some c := by
    rintro c hc heq
    rw [← Option.some.inj heq, h] at hc
    exact nomatch hc
  unfold kindBetween
  split
  case h_6 => rfl
  all_goals exact absurd ‹some first = _› (hne (by decide))

/-- A type is told by starting as no function does. -/
theorem kindOf_type (h : Text.Capital stem) : kindOf stem.toList = .type := by
  rw [kindOf, if_neg h.unspaced]
  cases hhead : stem.toList.head? with
  | none => rfl
  | some first => exact kindBetween_of_notLower (h.starts first hhead)

/-- **A NAME TELLS ITS KIND**. -/
theorem kindOf_name (hp : Shouty program) {e : Export} (h : e.Regular) :
    kindOf (e.name program).toList = e.kind := by
  obtain ⟨kind, stem⟩ := e
  cases kind with
  | address =>
      obtain rfl : stem = "" := h
      rw [name_address, kindOf_constant hp (by decide) (by decide) rfl]
      rfl
  | tag =>
      have hstem : Shouty stem := h
      rw [name_tag, kindOf_constant hstem (by decide) (by decide) rfl]
      rfl
  | error =>
      have hmem : '_' ∈ (program ++ "_ERROR__" ++ stem).toList := by
        rw [String.toList_append, String.toList_append]
        exact List.mem_append_left _ (List.mem_append_right _ (by decide))
      rw [name_error, kindOf, if_pos hmem, if_neg not_spaced_error]
  | type =>
      have hstem : Text.Capital stem := h
      rw [name_type]
      exact kindOf_type hstem
  | codec => exact kindOf_function "get" "Codec" h rfl (by decide) (by decide)
  | decoder => exact kindOf_function "decode" "" h rfl (by decide) (by decide)
  | finder => exact kindOf_function "find" "Pda" h rfl (by decide) (by decide)
  | builder => exact kindOf_function "get" "Instruction" h rfl (by decide) (by decide)
  | messages => exact kindOf_function "get" "Message" h rfl (by decide) (by decide)

/-- **ONE NAME, ONE EXPORT**: exports of a program that have one name are of one kind and have one
    stem. -/
theorem name_injOn (hp : Shouty program) {a b : Export} (ha : a.Regular) (hb : b.Regular)
    (h : a.name program = b.name program) : a = b := by
  have hkind : a.kind = b.kind := by rw [← kindOf_name hp ha, ← kindOf_name hp hb, h]
  obtain ⟨kind, stem⟩ := a
  obtain ⟨kind', stem'⟩ := b
  obtain rfl : kind = kind' := hkind
  have hstem : kind.before program ++ stem = kind.before program ++ stem' :=
    (String.append_left_inj _).mp h
  rw [(String.append_right_inj _).mp hstem]

end Export

end Bindery.Package
