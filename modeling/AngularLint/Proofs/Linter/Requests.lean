import AngularLint.Proofs.Linter.Steady

/-!
# What is reported, and for which request

Rules that keep nothing in mind ask for the same at a visit whatever has gone before. As long as
they ask for messages that they have, every request is met, and a fault comes only behind all of
them. So a linter with such rules reports what the contexts of the rules at work make of their
requests, visit by visit, and nothing else (**`mem_verify_of_steady`**). What is to be shown of
violations can then be shown of requests.
-/

set_option autoImplicit false

namespace AngularLint

variable {σ : Type}

theorem Work.Reports.mem_ask {c : Context σ} {fault : Option Fault} {m : σ}
    {requests : List Request}
    (hknown : ∀ r ∈ requests, c.rule.messages.lookup r.message ≠ none) {vs : List Violation}
    {e : Ending σ Unit} (h : (Outcome.ask fault m requests).Reports c vs e) {v : Violation} :
    v ∈ vs ↔ ∃ r ∈ requests, c.report r = .ok v := by
  induction requests generalizing vs with
  | nil =>
    cases fault with
    | none =>
      cases h
      exact iff_of_false (by simp) (by simp)
    | some fault =>
      cases h
      exact iff_of_false (by simp) (by simp)
  | cons r rest ih =>
    cases h with
    | met report hrest =>
      have hrest := ih (fun r' hr' => hknown r' (List.mem_cons_of_mem _ hr')) hrest
      simp only [List.mem_cons, exists_eq_or_imp, report, Except.ok.injEq]
      exact or_congr eq_comm hrest
    | refused unknown hrest => exact absurd unknown (hknown r List.mem_cons_self)

theorem Call.mem_answer_ofHabit (settings : Settings) (filename : Text) (rule : Rule σ)
    {habit : Visit → Outcome} {visit : Visit}
    (hknown : ∀ r ∈ (habit visit).requests, rule.messages.lookup r.message ≠ none) (m : σ)
    {v : Violation} :
    v ∈ ((ofHabit settings filename rule habit visit).answer m).1.violations ↔
      ∃ r ∈ (habit visit).requests,
        (Listener.contextOf settings filename rule).report r = .ok v :=
  ((Listener.contextOf settings filename rule).reports_perform
    ((habit visit).work m)).mem_ask hknown

/-- What calls in turn report, as long as what is kept in mind has no say in it. -/
theorem Session.mem_sink_foldl_take {calls : List (Call σ)}
    (hcalls : ∀ c ∈ calls, c.FailsOnlyWith Mishap.IsTold) (reports : Call σ → Violation → Prop)
    {v : Violation} (h : ∀ c ∈ calls, ∀ m, v ∈ (c.answer m).1.violations ↔ reports c v)
    {s : Session σ} (hs : s.interruption = none) :
    v ∈ (calls.foldl take s).sink.toList ↔ v ∈ s.sink.toList ∨ ∃ c ∈ calls, reports c v := by
  induction calls generalizing s with
  | nil => simp
  | cons c rest ih =>
    obtain ⟨henters, hnext⟩ := take_of_isTold hs (hcalls c List.mem_cons_self)
    rw [List.foldl_cons, ih (fun c' hc' => hcalls c' (List.mem_cons_of_mem _ hc'))
      (fun c' hc' => h c' (List.mem_cons_of_mem _ hc')) hnext, henters.sink,
      List.mem_append, h c List.mem_cons_self, or_assoc]
    simp only [List.mem_cons, exists_eq_or_imp]

namespace Linter

/-- **What rules that keep nothing in mind report** is what they ask for, and all of it is
returned. -/
theorem mem_verify_of_steady {conventions : List Convention}
    (hknown : ∀ convention ∈ conventions, convention.HasMessages) (settings : Settings) (m : σ)
    (tree : Option Node) (filename : Text) :
    ∃ vs, ((start (conventions.map Convention.rule) settings m).verify tree filename).1 = .ok vs ∧
      ∀ v, v ∈ vs ↔
        ∃ visit ∈ tree.toList.flatMap Node.visits, ∃ convention ∈ conventions,
          let rule : Rule σ := convention.rule
          (settings.settingFor rule).severity ≠ .off ∧
          ∃ habit, (convention.habits ⟨filename, (settings.settingFor rule).options⟩).lookup
              visit.node.type = some habit ∧
            ∃ r ∈ (habit visit).requests,
              (Listener.contextOf settings filename rule).report r = .ok v := by
  let l : Linter σ := start (conventions.map Convention.rule) settings m
  have hsteady : l.IsSteady conventions := rfl
  let reports (c : Call σ) (v : Violation) : Prop := v ∈ (c.answer m).1.violations
  refine ⟨_, verify_eq_ok hsteady.failsOnlyWith tree filename, fun v => ?_⟩
  rw [Session.mem_sink_foldl_take (failsOnlyWith_of_mem_calls hsteady.failsOnlyWith tree filename)
    reports ?_ (interruption_session hsteady.failsOnlyWith filename)]
  · rw [or_iff_right (by rw [hsteady.session_eq]; simp)]
    constructor
    · rintro ⟨c, hc, hv⟩
      obtain ⟨visit, hvisit, convention, hconvention, hon, habit, hhabit, rfl⟩ :=
        Call.mem_schedule_map.mp hc
      refine ⟨visit, hvisit, convention, hconvention, hon, habit, hhabit, ?_⟩
      exact (Call.mem_answer_ofHabit settings filename _
        (hknown convention hconvention _ _ (mem_of_lookup hhabit) visit) m).mp hv
    · rintro ⟨visit, hvisit, convention, hconvention, hon, habit, hhabit, hv⟩
      refine ⟨_, Call.mem_schedule_map.mpr
        ⟨visit, hvisit, convention, hconvention, hon, habit, hhabit, rfl⟩, ?_⟩
      exact (Call.mem_answer_ofHabit settings filename _
        (hknown convention hconvention _ _ (mem_of_lookup hhabit) visit) m).mpr hv
  · intro c hc m'
    obtain ⟨visit, -, convention, hconvention, -, habit, hhabit, rfl⟩ :=
      Call.mem_schedule_map.mp hc
    have hmem := Call.mem_answer_ofHabit settings filename (convention.rule : Rule σ)
      (hknown convention hconvention _ _ (mem_of_lookup hhabit) visit) (v := v)
    exact (hmem m').trans (hmem m).symm

end Linter

end AngularLint
