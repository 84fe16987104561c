/-!
# Computations that may fail

What the outcome of two computations in a row says of each of them, and what the outcome of one for
each item of a list says.
-/

set_option autoImplicit false

namespace AngularLint

variable {ε α β : Type} {x : Except ε α} {f : α → Except ε β}

theorem bind_eq_ok {b : β} : x >>= f = .ok b ↔ ∃ a, x = .ok a ∧ f a = .ok b := by
  cases x with
  | error e => simp [bind, Except.bind]
  | ok a => simp [bind, Except.bind]

theorem bind_eq_error {e : ε} :
    x >>= f = .error e ↔ x = .error e ∨ ∃ a, x = .ok a ∧ f a = .error e := by
  cases x with
  | error e' => simp [bind, Except.bind]
  | ok a => simp [bind, Except.bind]

@[simp] theorem throw_ne_ok {e : ε} {a : α} : (throw e : Except ε α) ≠ .ok a := by
  simp [throw, throwThe, MonadExceptOf.throw]

/-- Does the computation fail? -/
def Fails (x : Except ε α) : Prop := ∃ e, x = .error e

theorem fails_bind : Fails (x >>= f) ↔ Fails x ∨ ∃ a, x = .ok a ∧ Fails (f a) := by
  simp only [Fails, bind_eq_error, exists_or]
  refine or_congr_right ⟨?_, ?_⟩
  · rintro ⟨e, a, hx, he⟩
    exact ⟨a, hx, e, he⟩
  · rintro ⟨a, hx, e, he⟩
    exact ⟨e, a, hx, he⟩

theorem fails_bind_congr {γ : Type} {g : α → Except ε γ} (h : ∀ a, Fails (f a) ↔ Fails (g a)) :
    Fails (x >>= f) ↔ Fails (x >>= g) := by
  simp only [fails_bind, h]

theorem not_fails_ok {a : α} : ¬Fails (.ok a : Except ε α) := by
  rintro ⟨e, h⟩
  exact absurd h (by simp)

theorem fails_iff_toBool : Fails x ↔ x.toBool = false := by
  cases x with
  | error e => simp [Fails, Except.toBool]
  | ok a => simp [Fails, Except.toBool]

instance : Decidable (Fails x) := decidable_of_iff _ fails_iff_toBool.symm

theorem not_fails_iff : ¬Fails x ↔ ∃ a, x = .ok a := by
  cases x with
  | error e => simp [Fails]
  | ok a => simp [Fails]

/-- Only the first half of a computation can fail, if the other half never does. -/
theorem fails_bind_of_total (h : ∀ a, ¬Fails (f a)) : Fails (x >>= f) ↔ Fails x := by
  rw [fails_bind]
  refine or_iff_left ?_
  rintro ⟨a, -, hfails⟩
  exact h a hfails

theorem fails_bind_pure {g : α → β} : Fails (x >>= fun a => pure (g a)) ↔ Fails x :=
  fails_bind_of_total fun _ => not_fails_ok

theorem fails_map_iff {g : α → β} : Fails (x.map g) ↔ Fails x := by
  cases x with
  | error e => exact iff_of_true ⟨e, rfl⟩ ⟨e, rfl⟩
  | ok a => exact iff_of_false not_fails_ok not_fails_ok

/-! ## One for each item of a list -/

section
variable {g : α → Except ε β} {items : List α}

theorem mem_of_mapM_eq_ok {results : List β} (h : items.mapM g = .ok results) {b : β} :
    b ∈ results ↔ ∃ a ∈ items, g a = .ok b := by
  induction items generalizing results with
  | nil =>
    obtain rfl := Except.ok.inj h
    exact iff_of_false (by simp) (by simp)
  | cons a rest ih =>
    rw [List.mapM_cons] at h
    obtain ⟨first, hfirst, h⟩ := bind_eq_ok.mp h
    obtain ⟨later, hlater, h⟩ := bind_eq_ok.mp h
    obtain rfl := Except.ok.inj h
    rw [List.mem_cons, ih hlater]
    simp only [List.mem_cons, exists_eq_or_imp, hfirst, Except.ok.injEq]
    exact or_congr_left eq_comm

theorem fails_mapM_iff : Fails (items.mapM g) ↔ ∃ a ∈ items, Fails (g a) := by
  induction items with
  | nil => exact iff_of_false not_fails_ok (by simp)
  | cons a rest ih =>
    rw [List.mapM_cons, fails_bind]
    simp only [List.mem_cons, exists_eq_or_imp]
    constructor
    · rintro (ha | ⟨b, -, h⟩)
      · exact .inl ha
      · exact .inr (ih.mp (fails_bind_pure.mp h))
    · intro h
      by_cases ha : Fails (g a)
      · exact .inl ha
      · obtain ⟨b, hb⟩ := not_fails_iff.mp ha
        exact .inr ⟨b, hb, fails_bind_pure.mpr (ih.mpr (h.resolve_left ha))⟩

end

end AngularLint
