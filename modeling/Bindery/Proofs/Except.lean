import Mathlib.Data.List.Forall2

/-! # Successful chains — what a result says about its steps

    A chain of checks that ends in a result has passed every one of them.  The
    lemmas open such a chain from the outside: a sequence into its two halves
    (`bind_eq_ok`), a check into the condition it let through
    (`unless_eq_ok`), and a mapped list into one success for each item
    (`forall₂_of_mapM_eq_ok`). -/

namespace Bindery

variable {ε ε' α β γ : Type}

/-- Results can be compared where their values and failures can. -/
instance decidableEqExcept [DecidableEq ε] [DecidableEq α] : DecidableEq (Except ε α)
  | .ok a, .ok b => decidable_of_iff (a = b) ⟨congrArg _, Except.ok.inj⟩
  | .error a, .error b => decidable_of_iff (a = b) ⟨congrArg _, Except.error.inj⟩
  | .ok _, .error _ => .isFalse fun h => nomatch h
  | .error _, .ok _ => .isFalse fun h => nomatch h

/-- A result that is there. -/
theorem exists_ok_of_isSome {x : Except ε α} (h : x.toOption.isSome = true) :
    ∃ a, x = .ok a := by
  cases x with
  | error e => exact absurd h Bool.false_ne_true
  | ok a => exact ⟨a, rfl⟩

/-- A result of which a test holds. -/
theorem exists_ok_of_any {x : Except ε α} {test : α → Bool} (h : x.toOption.any test = true) :
    ∃ a, x = .ok a ∧ test a = true := by
  cases x with
  | error e => exact absurd h Bool.false_ne_true
  | ok a => exact ⟨a, rfl, h⟩

/-- What is left of a result when a failure is none. -/
theorem toOption_eq_some {x : Except ε α} {a : α} : x.toOption = some a ↔ x = .ok a := by
  cases x with
  | error e => simp [Except.toOption]
  | ok b => exact ⟨fun h => congrArg _ (Option.some.inj h), fun h => congrArg _ (Except.ok.inj h)⟩

/-- A sequence succeeds when its first step does and the rest does from its
    result. -/
theorem bind_eq_ok {x : Except ε α} {f : α → Except ε β} {b : β} :
    (x >>= f) = .ok b ↔ ∃ a, x = .ok a ∧ f a = .ok b := by
  cases x with
  | error e =>
      constructor
      · intro h; exact nomatch h
      · rintro ⟨a, ha, -⟩; exact nomatch ha
  | ok a =>
      constructor
      · intro h; exact ⟨a, rfl, h⟩
      · rintro ⟨a', ha, h⟩
        rw [Except.ok.inj ha]
        exact h

/-- A sequence fails when its first step does or the rest does from its result. -/
theorem bind_eq_error {x : Except ε α} {f : α → Except ε β} {e : ε} :
    (x >>= f) = .error e ↔ x = .error e ∨ ∃ a, x = .ok a ∧ f a = .error e := by
  cases x with
  | error e' =>
      constructor
      · intro h; exact .inl (congrArg _ (Except.error.inj h))
      · rintro (h | ⟨a, ha, -⟩)
        · exact congrArg _ (Except.error.inj h)
        · exact nomatch ha
  | ok a =>
      constructor
      · intro h; exact .inr ⟨a, rfl, h⟩
      · rintro (h | ⟨a', ha, h⟩)
        · exact nomatch h
        · rw [Except.ok.inj ha]
          exact h

/-- A chain behind a check succeeds when the check and the chain do. -/
theorem check_bind_eq_ok {x : Except ε Unit} {y : Except ε β} {b : β} :
    (x >>= fun _ => y) = .ok b ↔ x = .ok () ∧ y = .ok b := by
  rw [bind_eq_ok]
  exact ⟨fun ⟨_, h⟩ => h, fun h => ⟨(), h⟩⟩

/-- A result that is given at once. -/
theorem pure_eq_ok {a b : α} : (pure a : Except ε α) = .ok b ↔ a = b :=
  ⟨Except.ok.inj, congrArg _⟩

/-- A failure has no result. -/
theorem not_exists_error_eq_ok {e : ε} : ¬ ∃ a : α, (.error e : Except ε α) = .ok a :=
  fun ⟨_, h⟩ => nomatch h

/-- What is made of a result is there exactly when the result is. -/
theorem exists_return_eq_ok_iff {x : Except ε α} {f : α → β} :
    (∃ b, (x >>= fun a => pure (f a)) = .ok b) ↔ ∃ a, x = .ok a := by
  constructor
  · rintro ⟨b, h⟩
    obtain ⟨a, ha, -⟩ := bind_eq_ok.mp h
    exact ⟨a, ha⟩
  · rintro ⟨a, ha⟩
    exact ⟨f a, bind_eq_ok.mpr ⟨a, ha, rfl⟩⟩

/-- What is made of a result fails exactly when the result does. -/
theorem return_eq_error {x : Except ε α} {f : α → β} {e : ε} :
    (x >>= fun a => pure (f a)) = .error e ↔ x = .error e := by
  refine bind_eq_error.trans (or_iff_left ?_)
  rintro ⟨a, -, h⟩
  exact nomatch h

/-- A chain behind a check that can only fail succeeds when the check lets it
    through and the chain succeeds. -/
theorem unless_eq_ok {c : Prop} [Decidable c] {e : ε} {k : α → Except ε β}
    {x : Except ε β} {b : β} :
    (if c then throw e >>= k else x) = .ok b ↔ ¬ c ∧ x = .ok b := by
  by_cases hc : c
  · rw [if_pos hc]
    constructor
    · intro h; exact nomatch h
    · rintro ⟨hn, -⟩; exact absurd hc hn
  · rw [if_neg hc]
    exact ⟨fun h => ⟨hc, h⟩, fun h => h.2⟩

/-- A chain behind a check that can only fail fails there or, let through, in the
    chain. -/
theorem unless_eq_error {c : Prop} [Decidable c] {e e' : ε} {k : α → Except ε β}
    {x : Except ε β} :
    (if c then throw e >>= k else x) = .error e' ↔ c ∧ e = e' ∨ ¬ c ∧ x = .error e' := by
  by_cases hc : c
  · rw [if_pos hc]
    constructor
    · intro h; exact .inl ⟨hc, Except.error.inj h⟩
    · rintro (⟨-, h⟩ | ⟨hn, -⟩)
      · exact congrArg _ h
      · exact absurd hc hn
  · rw [if_neg hc]
    constructor
    · intro h; exact .inr ⟨hc, h⟩
    · rintro (⟨hn, -⟩ | ⟨-, h⟩)
      · exact absurd hn hc
      · exact h

/-- A last check that can only fail. -/
theorem check_eq_ok {c : Prop} [Decidable c] {e : ε} {x : Except ε β} {b : β} :
    (if c then throw e else x) = .ok b ↔ ¬ c ∧ x = .ok b := by
  by_cases hc : c
  · rw [if_pos hc]
    exact ⟨fun h => (nomatch h), fun h => absurd hc h.1⟩
  · rw [if_neg hc]
    exact ⟨fun h => ⟨hc, h⟩, fun h => h.2⟩

/-- A last check with a result on either side. -/
theorem ite_eq_ok {c : Prop} [Decidable c] {e : ε} {a b : α} :
    (if c then (.ok a : Except ε α) else .error e) = .ok b ↔ c ∧ a = b := by
  by_cases hc : c
  · rw [if_pos hc]
    exact ⟨fun h => ⟨hc, Except.ok.inj h⟩, fun h => congrArg _ h.2⟩
  · rw [if_neg hc]
    exact ⟨fun h => (nomatch h), fun h => absurd h.1 hc⟩

/-- Rewording a failure changes no result. -/
theorem mapError_eq_ok {x : Except ε α} {f : ε → ε'} {b : α} :
    x.mapError f = .ok b ↔ x = .ok b := by
  cases x with
  | error e => exact ⟨fun h => (nomatch h), fun h => (nomatch h)⟩
  | ok a =>
      constructor
      · intro h; exact congrArg _ (Except.ok.inj h)
      · intro h; exact congrArg _ (Except.ok.inj h)

/-- A mapped result comes from a result. -/
theorem map_eq_ok {x : Except ε α} {f : α → β} {b : β} :
    x.map f = .ok b ↔ ∃ a, x = .ok a ∧ f a = b := by
  cases x with
  | error e => exact ⟨fun h => (nomatch h), fun ⟨_, h, _⟩ => (nomatch h)⟩
  | ok a =>
      constructor
      · intro h; exact ⟨a, rfl, Except.ok.inj h⟩
      · rintro ⟨a', ha, rfl⟩; rw [Except.ok.inj ha]; rfl

/-- Two lists look the same where they do item by item. -/
theorem map_eq_map_iff_forall₂ {f : α → γ} {g : β → γ} {as : List α} {bs : List β} :
    as.map f = bs.map g ↔ List.Forall₂ (fun a b => f a = g b) as bs := by
  rw [← List.forall₂_map_right_iff, ← List.forall₂_map_left_iff, List.forall₂_eq_eq_eq]

/-- Each item of a list that is related to another has a partner in the other. -/
theorem exists_of_forall₂_left {R : α → β → Prop} {as : List α} {bs : List β}
    (h : List.Forall₂ R as bs) {a : α} (ha : a ∈ as) : ∃ b ∈ bs, R a b := by
  induction h with
  | nil => exact nomatch ha
  | @cons a' b as bs hab _ ih =>
      rcases List.mem_cons.mp ha with rfl | ha
      · exact ⟨b, List.mem_cons_self, hab⟩
      · obtain ⟨b', hb', h⟩ := ih ha
        exact ⟨b', List.mem_cons_of_mem b hb', h⟩

/-- Each item of a list to which another is related has a partner in that one. -/
theorem exists_of_forall₂_right {R : α → β → Prop} {as : List α} {bs : List β}
    (h : List.Forall₂ R as bs) {b : β} (hb : b ∈ bs) : ∃ a ∈ as, R a b := by
  obtain ⟨a, ha, hab⟩ := exists_of_forall₂_left h.flip hb
  exact ⟨a, ha, hab⟩

/-- Where every item of a list has a partner, another list is related to it. -/
theorem exists_forall₂ {R : α → β → Prop} : ∀ {as : List α},
    (∀ a ∈ as, ∃ b, R a b) → ∃ bs, List.Forall₂ R as bs := by
  intro as
  induction as with
  | nil => exact fun _ => ⟨[], .nil⟩
  | cons a as ih =>
      intro h
      obtain ⟨⟨b, hb⟩, h⟩ := List.forall_mem_cons.mp h
      obtain ⟨bs, hbs⟩ := ih h
      exact ⟨b :: bs, .cons hb hbs⟩

/-- A list that is mapped with success has one success for each item, in
    order. -/
theorem forall₂_of_mapM_eq_ok {f : α → Except ε β} :
    ∀ {as : List α} {bs : List β}, as.mapM f = .ok bs →
      List.Forall₂ (fun a b => f a = .ok b) as bs := by
  intro as
  induction as with
  | nil =>
      intro bs h
      rw [List.mapM_nil, pure_eq_ok] at h
      exact h ▸ .nil
  | cons a as ih =>
      intro bs h
      rw [List.mapM_cons] at h
      obtain ⟨b, hb, h⟩ := bind_eq_ok.mp h
      obtain ⟨bs', hbs, h⟩ := bind_eq_ok.mp h
      rw [← pure_eq_ok.mp h]
      exact .cons hb (ih hbs)

/-- A list is mapped with success to the successes of its items, in order. -/
theorem mapM_eq_ok_of_forall₂ {f : α → Except ε β} {as : List α} {bs : List β}
    (h : List.Forall₂ (fun a b => f a = .ok b) as bs) : as.mapM f = .ok bs := by
  induction h with
  | nil => rfl
  | cons hb _ ih =>
      rw [List.mapM_cons, bind_eq_ok]
      exact ⟨_, hb, bind_eq_ok.mpr ⟨_, ih, rfl⟩⟩

/-- A list whose items are each paired with what stands in their place in another is mapped to
    the two lists zipped. -/
theorem mapM_eq_ok_zip {γ : Type} {f : α → Except ε (α × γ)} {g : β → γ} {as : List α}
    {bs : List β} (h : List.Forall₂ (fun a b => f a = .ok (a, g b)) as bs) :
    as.mapM f = .ok (as.zip (bs.map g)) := by
  refine mapM_eq_ok_of_forall₂ ?_
  induction h with
  | nil => exact .nil
  | cons hab _ ih => exact .cons hab ih

/-- Every result of a mapped list comes from an item of it. -/
theorem exists_of_mapM_eq_ok {f : α → Except ε β} {as : List α} {bs : List β}
    (h : as.mapM f = .ok bs) {b : β} (hb : b ∈ bs) : ∃ a ∈ as, f a = .ok b := by
  exact exists_of_forall₂_right (forall₂_of_mapM_eq_ok h) hb

/-- A list is mapped with success where every item of it is. -/
theorem exists_mapM_eq_ok {f : α → Except ε β} {as : List α}
    (h : ∀ a ∈ as, ∃ b, f a = .ok b) : ∃ bs, as.mapM f = .ok bs := by
  obtain ⟨bs, hbs⟩ := exists_forall₂ h
  exact ⟨bs, mapM_eq_ok_of_forall₂ hbs⟩

/-- A list cannot be mapped when there is a first item that cannot. -/
theorem mapM_eq_error_iff {f : α → Except ε β} {e : ε} : ∀ {as : List α},
    as.mapM f = .error e ↔ ∃ before a after, as = before ++ a :: after
      ∧ (∀ b ∈ before, ∃ r, f b = .ok r) ∧ f a = .error e := by
  intro as
  induction as with
  | nil =>
      refine ⟨fun h => (nomatch h), fun ⟨before, a, after, h, _⟩ => ?_⟩
      cases before <;> exact nomatch h
  | cons a as ih =>
      rw [List.mapM_cons, bind_eq_error]
      constructor
      · rintro (h | ⟨b, hb, h⟩)
        · exact ⟨[], a, as, rfl, (fun _ hmem => nomatch hmem), h⟩
        · obtain ⟨before, a', after, rfl, hbefore, ha'⟩ := ih.mp (return_eq_error.mp h)
          exact ⟨a :: before, a', after, rfl, List.forall_mem_cons.mpr ⟨⟨b, hb⟩, hbefore⟩, ha'⟩
      · rintro ⟨before, a', after, h, hbefore, ha'⟩
        cases before with
        | nil =>
            obtain ⟨rfl, rfl⟩ := List.cons.inj h
            exact .inl ha'
        | cons first before =>
            obtain ⟨rfl, rfl⟩ := List.cons.inj h
            obtain ⟨⟨b, hb⟩, hbefore⟩ := List.forall_mem_cons.mp hbefore
            exact .inr ⟨b, hb, return_eq_error.mpr (ih.mpr ⟨before, a', after, rfl, hbefore, ha'⟩)⟩

/-- So it has an item that cannot be mapped. -/
theorem exists_of_mapM_eq_error {f : α → Except ε β} {e : ε} {as : List α}
    (h : as.mapM f = .error e) : ∃ a ∈ as, f a = .error e := by
  obtain ⟨before, a, after, rfl, -, ha⟩ := mapM_eq_error_iff.mp h
  exact ⟨a, List.mem_append_right _ List.mem_cons_self, ha⟩

/-- What is done to every result can be done at every step. -/
theorem map_mapM {γ : Type} {f : α → Except ε β} {g : β → γ} : ∀ {as : List α},
    (as.mapM f).map (List.map g) = as.mapM fun a => (f a).map g := by
  intro as
  induction as with
  | nil => rfl
  | cons a as ih =>
      rw [List.mapM_cons, List.mapM_cons, ← ih]
      cases f a with
      | error e => rfl
      | ok b => cases as.mapM f <;> rfl

/-- A walk that only checks has checked every item. -/
theorem forM_eq_ok {f : α → Except ε Unit} {as : List α} :
    as.forM f = .ok () ↔ ∀ a ∈ as, f a = .ok () := by
  induction as with
  | nil => exact ⟨fun _ a ha => (nomatch ha), fun _ => rfl⟩
  | cons a as ih =>
      show (f a >>= fun _ => as.forM f) = .ok () ↔ _
      rw [bind_eq_ok, List.forall_mem_cons]
      constructor
      · rintro ⟨_, ha, has⟩; exact ⟨ha, ih.mp has⟩
      · rintro ⟨ha, has⟩; exact ⟨(), ha, ih.mpr has⟩

/-- What every step of a walk preserves, the whole walk preserves. -/
theorem foldlM_preserves {f : β → α → Except ε β} {P : β → Prop} :
    ∀ {as : List α} {b b' : β}, (∀ b b', ∀ a ∈ as, P b → f b a = .ok b' → P b') →
      P b → as.foldlM f b = .ok b' → P b' := by
  intro as
  induction as with
  | nil =>
      intro b b' _ hb h
      rw [← pure_eq_ok.mp h]
      exact hb
  | cons a as ih =>
      intro b b' hstep hb h
      rw [List.foldlM_cons] at h
      obtain ⟨c, hc, h⟩ := bind_eq_ok.mp h
      refine ih (fun b b' a' ha' => hstep b b' a' (List.mem_cons_of_mem a ha')) ?_ h
      exact hstep b c a List.mem_cons_self hb hc

end Bindery
