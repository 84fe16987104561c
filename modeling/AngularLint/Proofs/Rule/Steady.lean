import AngularLint.Proofs.Rule.Work

/-!
# Rules that keep nothing in mind

Such a rule is a `Convention`: it is given by what it makes of each visit to a node of a kind that
it listens to. It can always be set up, and all that its callbacks fail with can be told, for they
fail with faults only (`Convention.failsOnlyWith`). The rules of the tool are of this sort.
-/

set_option autoImplicit false

namespace AngularLint

variable {σ : Type}

/-- Outcomes fail with faults. -/
theorem Outcome.isTold_of_perform_ask (c : Context σ) (fault : Option Fault) (m : σ)
    (requests : List Request) (sink : Array Violation) {x : Mishap}
    (h : (c.perform (ask fault m requests) sink).2.result = .error x) : x.IsTold := by
  induction requests generalizing sink with
  | nil =>
    cases fault with
    | none => exact absurd h (by simp [ask, Context.perform])
    | some f =>
      obtain rfl := Except.error.inj h
      exact Mishap.isTold_fault f
  | cons r rest ih =>
    rw [ask, Context.perform] at h
    cases hreport : c.report r with
    | ok v => exact ih (sink.push v) (by rwa [hreport] at h)
    | error refusal =>
      rw [hreport] at h
      obtain rfl := Except.error.inj h
      exact Mishap.isTold_fault refusal

theorem Convention.failsOnlyWith (c : Convention) :
    (c.rule : Rule σ).FailsOnlyWith Mishap.IsTold := by
  intro context _ m
  refine ⟨_, rfl, ?_⟩
  intro e he visit m' x hx
  obtain ⟨entry, -, rfl⟩ := List.mem_map.mp he
  exact Outcome.isTold_of_perform_ask context _ m' _ #[] hx

theorem Registry.failsOnlyWith_map (conventions : List Convention) :
    ∀ rule ∈ (conventions.map Convention.rule : Registry σ),
      rule.FailsOnlyWith Mishap.IsTold := by
  intro rule hrule
  obtain ⟨c, -, rfl⟩ := List.mem_map.mp hrule
  exact c.failsOnlyWith

end AngularLint
