import AngularLint.Proofs.Except
import AngularLint.Run

/-!
# Runs, one after another

A run that is aborted keeps what it has told and does nothing more. So the diagnostics of runs in a
row are those of the runs up to the first that is aborted, and there is a result if and only if none
of them is.
-/

set_option autoImplicit false

namespace AngularLint.Run

variable {α β : Type}

theorem bind_of_ok {r : Run α} {a : α} (h : r.result = .ok a) (next : α → Run β) :
    r >>= next = ⟨r.diagnostics ++ (next a).diagnostics, (next a).result⟩ := by
  show Run.bind r next = _
  rw [Run.bind, h]

theorem bind_of_error {r : Run α} {abort : Abort} (h : r.result = .error abort)
    (next : α → Run β) : r >>= next = ⟨r.diagnostics, .error abort⟩ := by
  show Run.bind r next = _
  rw [Run.bind, h]

theorem bind_result_eq_ok {r : Run α} {next : α → Run β} {b : β} :
    (r >>= next).result = .ok b ↔ ∃ a, r.result = .ok a ∧ (next a).result = .ok b := by
  cases h : r.result with
  | error abort =>
    rw [bind_of_error h]
    simp
  | ok a =>
    rw [bind_of_ok h]
    simp

theorem fails_bind_iff {r : Run α} {next : α → Run β} :
    Fails (r >>= next).result ↔ Fails r.result ∨ ∃ a, r.result = .ok a ∧ Fails (next a).result := by
  cases h : r.result with
  | error abort =>
    rw [bind_of_error h]
    exact iff_of_true ⟨abort, rfl⟩ (.inl ⟨abort, rfl⟩)
  | ok a =>
    rw [bind_of_ok h]
    simp [Fails]

/-! ## Runs over a list -/

/-- A step that comes to its end tells what it tells, and makes what it makes, of a state: then so
do steps in turn. -/
theorem foldlM_eq {step : β → α → Run β} {told : α → List Diagnostic} {next : β → α → β}
    {items : List α} (h : ∀ a ∈ items, ∀ b, step b a = ⟨told a, .ok (next b a)⟩) (b : β) :
    items.foldlM step b = ⟨items.flatMap told, .ok (items.foldl next b)⟩ := by
  induction items generalizing b with
  | nil => rfl
  | cons a rest ih =>
    rw [List.foldlM_cons, h a List.mem_cons_self, bind_of_ok rfl,
      ih fun a' ha' => h a' (List.mem_cons_of_mem _ ha')]
    rfl

/-- Steps in turn fail if and only if one of them does, as long as it does not depend on the state
whether a step fails. -/
theorem fails_foldlM_iff {step : β → α → Run β} {aborts : α → Prop} {items : List α}
    (h : ∀ a ∈ items, ∀ b, Fails (step b a).result ↔ aborts a) (b : β) :
    Fails (items.foldlM step b).result ↔ ∃ a ∈ items, aborts a := by
  induction items generalizing b with
  | nil => exact iff_of_false not_fails_ok (by simp)
  | cons a rest ih =>
    have hrest := ih fun a' ha' => h a' (List.mem_cons_of_mem _ ha')
    rw [List.foldlM_cons, fails_bind_iff, h a List.mem_cons_self]
    simp only [hrest, List.mem_cons, exists_eq_or_imp]
    constructor
    · rintro (ha | ⟨-, -, hlater⟩)
      · exact .inl ha
      · exact .inr hlater
    · intro hlater
      by_cases ha : aborts a
      · exact .inl ha
      · obtain ⟨b', hb'⟩ := not_fails_iff.mp fun hfails => ha ((h a List.mem_cons_self b).mp hfails)
        exact .inr ⟨b', hb', hlater.resolve_left ha⟩

end AngularLint.Run
