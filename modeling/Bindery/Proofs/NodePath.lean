import Bindery.NodePath
import Bindery.Proofs.Except
import Bindery.Proofs.Files.Paths

/-! # Texts of node paths — a grammar of seven forms

    `NodePath.Form` is the grammar: seven rules, each with fixed words and valid
    names in turn between slashes, and the path that a text of the rule stands
    for.  Reading goes by segments instead and cannot tell a fixed word from a
    name that is spelled like one, except by its place; splitting a text undoes
    joining because no segment has a slash (`parse_eq_ok`).  So what is read is
    what the grammar derives, printing gives every text that is read back, and a
    path of valid names is read from its own text, the fixed words among the
    names included (`parse_exact`). -/

namespace Bindery.NodePath

variable {text : String} {path path' : NodePath}

/-- The names in a path, from the outside in. -/
def names : NodePath → List String
  | .program p => [p]
  | .account p a => [p, a]
  | .instruction p i => [p, i]
  | .instructionAccount p i a => [p, i, a]
  | .instructionArgument p i a => [p, i, a]
  | .definedType p t => [p, t]
  | .sharedType t => [t]

/-- The grammar of texts of paths. -/
inductive Form : String → NodePath → Prop
  | program {p : String} (hp : ValidName p) : Form ("programs/" ++ p) (.program p)
  | account {p a : String} (hp : ValidName p) (ha : ValidName a) :
      Form ("programs/" ++ p ++ "/accounts/" ++ a) (.account p a)
  | instruction {p i : String} (hp : ValidName p) (hi : ValidName i) :
      Form ("programs/" ++ p ++ "/instructions/" ++ i) (.instruction p i)
  | instructionAccount {p i a : String} (hp : ValidName p) (hi : ValidName i)
      (ha : ValidName a) :
      Form ("programs/" ++ p ++ "/instructions/" ++ i ++ "/accounts/" ++ a)
        (.instructionAccount p i a)
  | instructionArgument {p i a : String} (hp : ValidName p) (hi : ValidName i)
      (ha : ValidName a) :
      Form ("programs/" ++ p ++ "/instructions/" ++ i ++ "/arguments/" ++ a)
        (.instructionArgument p i a)
  | definedType {p t : String} (hp : ValidName p) (ht : ValidName t) :
      Form ("programs/" ++ p ++ "/types/" ++ t) (.definedType p t)
  | sharedType {t : String} (ht : ValidName t) : Form ("types/" ++ t) (.sharedType t)

/-! ## Segments -/

/-- Segments that make a path are those of it. -/
theorem ofSegments_eq_ok {names : List String} :
    ofSegments names = .ok path ↔ path.segments = names := by
  constructor
  · intro h
    unfold ofSegments at h
    split at h <;> cases h <;> rfl
  · rintro rfl
    cases path <;> rfl

/-- Every path has segments. -/
theorem segments_ne_nil (path : NodePath) : path.segments ≠ [] := by
  cases path <;> exact List.cons_ne_nil _ _

/-- The fixed words of a path are valid names, so that only its names matter. -/
theorem forall_segments_iff :
    (∀ segment ∈ path.segments, ValidName segment) ↔ ∀ name ∈ path.names, ValidName name := by
  have hprograms : ValidName "programs" := by decide
  have haccounts : ValidName "accounts" := by decide
  have hinstructions : ValidName "instructions" := by decide
  have harguments : ValidName "arguments" := by decide
  have htypes : ValidName "types" := by decide
  cases path <;> simp_all [segments, names]

/-- The text of a path in one piece. -/
theorem text_eq : path.text = match path with
    | .program p => "programs/" ++ p
    | .account p a => "programs/" ++ p ++ "/accounts/" ++ a
    | .instruction p i => "programs/" ++ p ++ "/instructions/" ++ i
    | .instructionAccount p i a => "programs/" ++ p ++ "/instructions/" ++ i ++ "/accounts/" ++ a
    | .instructionArgument p i a =>
        "programs/" ++ p ++ "/instructions/" ++ i ++ "/arguments/" ++ a
    | .definedType p t => "programs/" ++ p ++ "/types/" ++ t
    | .sharedType t => "types/" ++ t := by
  refine String.toList_inj.mp ?_
  cases path <;> simp [NodePath.text, segments, Text.joinText, Text.joinAt]

/-- A text has a form exactly when it is the text of the path and the names are valid. -/
theorem form_iff : Form text path ↔
    path.text = text ∧ ∀ name ∈ path.names, ValidName name := by
  rw [text_eq]
  constructor
  · intro h
    cases h <;> simp_all [names]
  · rintro ⟨rfl, hnames⟩
    cases path with
    | program p => exact .program (hnames p (by simp [names]))
    | account p a =>
        exact .account (hnames p (by simp [names])) (hnames a (by simp [names]))
    | instruction p i =>
        exact .instruction (hnames p (by simp [names])) (hnames i (by simp [names]))
    | instructionAccount p i a =>
        exact .instructionAccount (hnames p (by simp [names])) (hnames i (by simp [names]))
          (hnames a (by simp [names]))
    | instructionArgument p i a =>
        exact .instructionArgument (hnames p (by simp [names])) (hnames i (by simp [names]))
          (hnames a (by simp [names]))
    | definedType p t =>
        exact .definedType (hnames p (by simp [names])) (hnames t (by simp [names]))
    | sharedType t => exact .sharedType (hnames t (by simp [names]))

/-! ## Reading -/

/-- **PATHS**: a path is read from its text, and from no other text, if its segments are valid
    names; a path with another segment is never read. -/
theorem parse_eq_ok :
    parse text = .ok path ↔ path.text = text ∧ ∀ segment ∈ path.segments, ValidName segment := by
  unfold parse
  constructor
  · intro h
    dsimp only at h
    split at h
    · exact nomatch h
    · rename_i hnonempty
      have hpieces : path.segments = Text.splitText '/' text :=
        ofSegments_eq_ok.mp (mapError_eq_ok.mp h)
      obtain ⟨hjoin, hunslashed⟩ := Text.joinText_splitText '/' text
      rw [NodePath.text, hpieces]
      refine ⟨hjoin, fun segment hsegment => ⟨fun hempty => hnonempty ?_, hunslashed _ hsegment⟩⟩
      exact List.any_eq_true.mpr ⟨segment, hsegment, decide_eq_true hempty⟩
  · rintro ⟨rfl, hvalid⟩
    have hpieces : Text.splitText '/' path.text = path.segments :=
      Text.splitText_joinText (fun segment h => (hvalid segment h).2) path.segments_ne_nil
    rw [hpieces, if_neg, ofSegments_eq_ok.mpr rfl]
    · rfl
    · intro hany
      obtain ⟨segment, hsegment, hempty⟩ := List.any_eq_true.mp hany
      exact (hvalid segment hsegment).1 (of_decide_eq_true hempty)

/-- What is read is what the grammar derives. -/
theorem parse_eq_ok_iff_form : parse text = .ok path ↔ Form text path := by
  rw [parse_eq_ok, form_iff, forall_segments_iff]

/-- The grammar is unambiguous. -/
theorem Form.unique (h : Form text path) (h' : Form text path') : path = path' :=
  Except.ok.inj ((parse_eq_ok_iff_form.mpr h).symm.trans (parse_eq_ok_iff_form.mpr h'))

/-- **A TEXT FOR EACH PATH**: a text is read as a path exactly when it has the form of that path,
    one of seven, with valid names; every text that is read is the one that its path prints; and
    every path of valid names, whatever words these are, is read from the text that it prints. -/
theorem parse_exact :
    (∀ text path, parse text = .ok path ↔ Form text path)
      ∧ (∀ text path, parse text = .ok path → path.text = text)
      ∧ ∀ path : NodePath, (∀ name ∈ path.names, ValidName name) →
          parse path.text = .ok path := by
  refine ⟨fun text path => parse_eq_ok_iff_form, fun text path h => (parse_eq_ok.mp h).1,
    fun path hnames => ?_⟩
  exact parse_eq_ok.mpr ⟨rfl, forall_segments_iff.mpr hnames⟩

/-- An account of an instruction, each of them named like a collection. -/
def collections : NodePath := .instructionAccount "types" "accounts" "programs"

theorem parse_exact_collections : (∀ name ∈ collections.names, ValidName name)
    ∧ collections.text = "programs/types/instructions/accounts/accounts/programs"
    ∧ parse collections.text = .ok collections
    ∧ Form collections.text collections
    ∧ (∀ path, parse "programs/types/instructions/accounts/accounts/programs" = .ok path →
        path.text = "programs/types/instructions/accounts/accounts/programs") := by
  have hnames : ∀ name ∈ collections.names, ValidName name := by decide
  have htext : collections.text = "programs/types/instructions/accounts/accounts/programs" := by
    decide +kernel
  have hparse := parse_exact.2.2 collections hnames
  exact ⟨hnames, htext, hparse, (parse_exact.1 _ _).mp hparse, fun path => parse_exact.2.1 _ path⟩

end Bindery.NodePath
