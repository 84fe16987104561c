import AngularLint.Rule.Registry

/-!
# Work that is carried out

What rules do is work, done move by move, and to carry it out is to enter its reports in a sink that
all rules share. `Work.Reports` says without a sink what work reports, and how it ends.

How work ends decides what becomes of the rest. A mishap is told, if the linter takes care of it,
and to be told it has to be shown, which may fail: `Mishap.IsShowable` is what keeps an error from
leaving the linter. `Rule.FailsOnlyWith` is what is asked of a rule for this: that it can be set
up, and that its callbacks fail with nothing but such mishaps.
-/

set_option autoImplicit false

namespace AngularLint

variable {σ α : Type}

/-- What work reports before it ends, and how it ends. A request for an unknown message reports
nothing, and the work goes on as it likes. -/
inductive Work.Reports (c : Context σ) : Work σ α → List Violation → Ending σ α → Prop
  | done (a : α) (m : σ) : Reports c (.done a m) [] ⟨.ok a, m⟩
  | fail (mishap : Mishap) (m : σ) : Reports c (.fail mishap m) [] ⟨.error mishap, m⟩
  | met {r : Request} {next : Except Fault Violation → Work σ α} {v : Violation}
      {vs : List Violation} {e : Ending σ α} (report : c.report r = .ok v)
      (rest : Reports c (next (.ok v)) vs e) : Reports c (.report r next) (v :: vs) e
  | refused {r : Request} {next : Except Fault Violation → Work σ α} {vs : List Violation}
      {e : Ending σ α} (unknown : c.rule.messages.lookup r.message = none)
      (rest : Reports c (next (.error (.unknownMessage c.rule.id r.message))) vs e) :
      Reports c (.report r next) vs e

/-- Does a violation bear the labels of its rule, and lie in the file that is linted? -/
structure Violation.Bears (c : Context σ) (v : Violation) : Prop where
  rule : v.rule = c.rule.id
  severity : v.severity = c.severity
  file : v.location.file = c.filename

/-! ## Carrying work out

The sink is the only thing in which a rule could harm what is not its own: `perform_reports` says
that it only ever grows, by exactly what is reported. -/

theorem Location.file_ofValue (file : Text) (v : Value) : (ofValue file v).file = file := by
  cases v with
  | node n =>
    rw [ofValue]
    cases n.range <;> rfl
  | plain value => rfl
  | nodes ns => rfl
  | range r => rfl
  | entries es => rfl

namespace Context

theorem report_eq_error {c : Context σ} {r : Request} {fault : Fault}
    (h : c.report r = .error fault) :
    c.rule.messages.lookup r.message = none ∧ fault = .unknownMessage c.rule.id r.message := by
  unfold report at h
  split at h
  · rename_i hlookup
    exact ⟨hlookup, (Except.error.inj h).symm⟩
  · exact absurd h (by simp)

theorem report_bears {c : Context σ} {r : Request} {v : Violation} (h : c.report r = .ok v) :
    v.Bears c := by
  unfold report at h
  split at h
  · exact absurd h (by simp)
  · rw [Except.ok.injEq] at h
    subst h
    exact ⟨rfl, rfl, Location.file_ofValue c.filename r.anchor⟩

theorem perform_reports (c : Context σ) (w : Work σ α) (sink : Array Violation) :
    ∃ vs, w.Reports c vs (c.perform w sink).2 ∧
      (c.perform w sink).1.toList = sink.toList ++ vs := by
  induction w generalizing sink with
  | done a m => exact ⟨[], .done a m, (List.append_nil _).symm⟩
  | fail mishap m => exact ⟨[], .fail mishap m, (List.append_nil _).symm⟩
  | report r next ih =>
    rw [perform]
    cases hreport : c.report r with
    | ok v =>
      obtain ⟨vs, hvs, hsink⟩ := ih (.ok v) (sink.push v)
      refine ⟨v :: vs, .met hreport hvs, ?_⟩
      rw [hsink, Array.toList_push, List.append_assoc, List.singleton_append]
    | error fault =>
      -- A refusal leaves the sink alone, and the work is told of it.
      obtain ⟨hunknown, rfl⟩ := report_eq_error hreport
      obtain ⟨vs, hvs, hsink⟩ := ih (.error (.unknownMessage c.rule.id r.message)) sink
      exact ⟨vs, .refused hunknown hvs, hsink⟩

/-- Work that starts with an empty sink has all that it reports there. -/
theorem reports_perform (c : Context σ) (w : Work σ α) :
    w.Reports c (c.perform w #[]).1.toList (c.perform w #[]).2 := by
  obtain ⟨vs, hvs, hsink⟩ := c.perform_reports w #[]
  rw [hsink]
  exact hvs

/-- What is in the sink already has no say. -/
theorem perform_eq (c : Context σ) (w : Work σ α) (sink : Array Violation) :
    (c.perform w sink).1.toList = sink.toList ++ (c.perform w #[]).1.toList ∧
      (c.perform w sink).2 = (c.perform w #[]).2 := by
  induction w generalizing sink with
  | done a m => exact ⟨(List.append_nil _).symm, rfl⟩
  | fail mishap m => exact ⟨(List.append_nil _).symm, rfl⟩
  | report r next ih =>
    rw [perform, perform]
    cases c.report r with
    | error fault => exact ih (.error fault) sink
    | ok v =>
      obtain ⟨hsink, hending⟩ := ih (.ok v) (sink.push v)
      obtain ⟨hsink', hending'⟩ := ih (.ok v) (#[].push v)
      refine ⟨?_, hending.trans hending'.symm⟩
      rw [hsink, hsink', Array.toList_push, List.append_assoc]
      rfl

end Context

/-- Every violation that work reports is one that the context has made of a request. -/
theorem Work.Reports.exists_report {c : Context σ} {w : Work σ α} {vs : List Violation}
    {e : Ending σ α} (h : w.Reports c vs e) : ∀ v ∈ vs, ∃ r, c.report r = .ok v := by
  induction h with
  | done a m => intro v hv; exact absurd hv (by simp)
  | fail mishap m => intro v hv; exact absurd hv (by simp)
  | met report rest ih =>
    intro v hv
    rcases List.mem_cons.mp hv with rfl | hrest
    · exact ⟨_, report⟩
    · exact ih v hrest
  | refused unknown rest ih => exact ih

theorem Work.Reports.bears {c : Context σ} {w : Work σ α} {vs : List Violation} {e : Ending σ α}
    (h : w.Reports c vs e) : ∀ v ∈ vs, v.Bears c := by
  intro v hv
  obtain ⟨r, hr⟩ := h.exists_report v hv
  exact Context.report_bears hr

/-! ## Mishaps -/

theorem Ending.fault_eq_some_iff {e : Ending σ α} {x : Mishap} :
    e.fault = some x ↔ e.result = .error x := by
  obtain ⟨result, m⟩ := e
  cases result with
  | ok a => simp [Ending.fault]
  | error y => simp [Ending.fault]

namespace Mishap

/-- What leaves the linter, if the mishap is none that the linter takes care of. -/
def exit? : Mishap → Option Interruption
  | .exit self => some self
  | _ => none

/-- What is told of a mishap, if it can be. -/
def text? (x : Mishap) : Option Text := x.shown.toOption

/-- Can a mishap be told? -/
def IsTold (x : Mishap) : Prop := ∃ text, x.shown = .ok text

/-- Can a mishap be told, if the linter takes care of it? -/
def IsShowable (x : Mishap) : Prop := x.isCaught = true → x.IsTold

theorem IsTold.isShowable {x : Mishap} (h : x.IsTold) : x.IsShowable := fun _ => h

theorem isTold_fault (f : Fault) : (Mishap.fault f).IsTold := ⟨f.shown, rfl⟩

theorem exit?_eq_some_iff {x : Mishap} {self : Interruption} :
    x.exit? = some self ↔ x = .exit self := by
  cases x with
  | fault f => simp [exit?]
  | error self shown => simp [exit?]
  | exit self => simp [exit?]

theorem IsTold.exit?_eq {x : Mishap} (h : x.IsTold) : x.exit? = none := by
  obtain ⟨text, htext⟩ := h
  cases x with
  | fault f => rfl
  | error self shown => rfl
  | exit self => exact absurd htext (by simp [shown])

theorem isCaught_of_exit? {x : Mishap} (h : x.exit? = none) : x.isCaught = true := by
  cases x with
  | fault f => rfl
  | error self shown => rfl
  | exit self => exact absurd h (by simp [exit?])

theorem isCaught_of_shown {x : Mishap} {text : Text} (h : x.shown = .ok text) :
    x.isCaught = true := isCaught_of_exit? (IsTold.exit?_eq ⟨text, h⟩)

end Mishap

/-! ## What is asked of rules -/

/-- Can the rule always be set up, and do its callbacks fail with nothing but such mishaps? -/
def Rule.FailsOnlyWith (P : Mishap → Prop) (rule : Rule σ) : Prop :=
  ∀ c : Context σ, c.rule = rule → ∀ m, ∃ callbacks,
    (c.perform (rule.create c.setup m) #[]).2.result = .ok callbacks ∧
      ∀ e ∈ callbacks, ∀ visit m' x,
        (c.perform (e.2 visit m') #[]).2.result = .error x → P x

theorem Rule.FailsOnlyWith.imp {P Q : Mishap → Prop} (hPQ : ∀ x, P x → Q x) {rule : Rule σ}
    (h : rule.FailsOnlyWith P) : rule.FailsOnlyWith Q := by
  intro c hc m
  obtain ⟨callbacks, hcreated, hfails⟩ := h c hc m
  exact ⟨callbacks, hcreated, fun e he visit m' x hx => hPQ x (hfails e he visit m' x hx)⟩

end AngularLint
