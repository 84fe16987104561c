import AngularLint.Proofs.Rule.Work
import Mathlib.Data.List.Forall2

/-!
# Rules that keep to themselves

Rules of one registry hand what they keep in mind from one to the next, and nothing keeps a rule
from reading or changing what another one has left there. This file says what it means that a rule
does not: `part` takes from what is kept in mind the part of each rule, by the id of the rule, and a
rule is independent if

* what it asks for, how it ends and what it makes of its own part are a matter of its own part alone
  (`Work.Alike` compares the work of two runs), and do not depend on how much the rule weighs;
* it leaves all other parts as they are (`Work.Leaves`).

Rules that keep nothing in mind are independent, whatever the parts are
(`Convention.isIndependent`).
-/

set_option autoImplicit false

namespace AngularLint

variable {σ τ α : Type}

/-- The same violation with another severity. -/
def Violation.weigh (severity : Severity) (v : Violation) : Violation := { v with severity }

/-- The same rule at work with another severity. -/
def Context.weigh (severity : Severity) (c : Context σ) : Context σ := { c with severity }

namespace Work

/-- Do two pieces of work ask for the same and end alike, however much the violations weigh that
they are answered with? Results may differ within `S`, and what is kept in mind within `R`. -/
inductive Alike (S : α → α → Prop) (R : σ → σ → Prop) : Work σ α → Work σ α → Prop
  | done {a a' : α} {m m' : σ} (results : S a a') (ends : R m m') :
      Alike S R (.done a m) (.done a' m')
  | fail {mishap : Mishap} {m m' : σ} (ends : R m m') :
      Alike S R (.fail mishap m) (.fail mishap m')
  | report {r : Request} {next next' : Except Fault Violation → Work σ α}
      (met : ∀ v severity, Alike S R (next (.ok v)) (next' (.ok (v.weigh severity))))
      (refused : ∀ fault, Alike S R (next (.error fault)) (next' (.error fault))) :
      Alike S R (.report r next) (.report r next')

/-- Do the result and what is kept in mind satisfy a condition, however the work ends? -/
inductive Leaves (Q : Except Mishap α → σ → Prop) : Work σ α → Prop
  | done {a : α} {m : σ} (ends : Q (.ok a) m) : Leaves Q (.done a m)
  | fail {mishap : Mishap} {m : σ} (ends : Q (.error mishap) m) : Leaves Q (.fail mishap m)
  | report {r : Request} {next : Except Fault Violation → Work σ α}
      (rest : ∀ answer, Leaves Q (next answer)) : Leaves Q (.report r next)

end Work

theorem Work.leaves_of_forall {Q : Except Mishap α → σ → Prop} (h : ∀ result m, Q result m)
    (w : Work σ α) : w.Leaves Q := by
  induction w with
  | done a m => exact .done (h (.ok a) m)
  | fail mishap m => exact .fail (h (.error mishap) m)
  | report r next ih => exact .report ih

/-- Does a callback do alike where what is kept in mind is alike? -/
def Callback.Alike (R : σ → σ → Prop) (callback callback' : Callback σ) : Prop :=
  ∀ visit m m', R m m' → (callback visit m).Alike Eq R (callback' visit m')

/-- Does a rule keep to its own part of what is kept in mind? It is set up without a report. -/
structure Rule.IsIndependent (part : Text → σ → τ) (rule : Rule σ) : Prop where
  create_done : ∀ (setup : Setup) (m : σ), ∃ callbacks m', rule.create setup m = .done callbacks m'
  create_alike : ∀ (s : Surroundings) (x y : Severity) (m m' : σ),
    part rule.id m = part rule.id m' →
      (rule.create ⟨s, x⟩ m).Alike
        (List.Forall₂ fun e e' => e.1 = e'.1 ∧
          e.2.Alike (fun m m' => part rule.id m = part rule.id m') e'.2)
        (fun m m' => part rule.id m = part rule.id m') (rule.create ⟨s, y⟩ m')
  create_leaves : ∀ (setup : Setup) (m : σ), (rule.create setup m).Leaves fun _ m' =>
    ∀ id ≠ rule.id, part id m' = part id m
  call_leaves : ∀ (setup : Setup) (m : σ), (rule.create setup m).Leaves fun created _ =>
    ∀ callbacks, created = .ok callbacks → ∀ e ∈ callbacks, ∀ visit m',
      (e.2 visit m').Leaves fun _ m'' => ∀ id ≠ rule.id, part id m'' = part id m'

/-! ## Rules that keep nothing in mind -/

theorem Outcome.alike_ask {R : σ → σ → Prop} (fault : Option Fault) {m m' : σ} (h : R m m')
    (requests : List Request) : (ask fault m requests).Alike Eq R (ask fault m' requests) := by
  induction requests with
  | nil =>
    cases fault with
    | none => exact .done rfl h
    | some fault => exact .fail h
  | cons r rest ih => exact .report (fun _ _ => ih) fun _ => .fail h

theorem Outcome.leaves_ask {Q : Except Mishap Unit → σ → Prop} (fault : Option Fault) {m : σ}
    (h : ∀ result, Q result m) (requests : List Request) : (ask fault m requests).Leaves Q := by
  induction requests with
  | nil =>
    cases fault with
    | none => exact .done (h _)
    | some fault => exact .fail (h _)
  | cons r rest ih =>
    refine .report fun answer => ?_
    cases answer with
    | ok v => exact ih
    | error refusal => exact .fail (h _)

theorem Convention.isIndependent (c : Convention) (part : Text → σ → τ) :
    (c.rule : Rule σ).IsIndependent part where
  create_done setup m := ⟨_, m, rfl⟩
  create_alike s x y m m' hm := by
    refine .done ?_ hm
    rw [List.forall₂_map_left_iff, List.forall₂_map_right_iff]
    refine List.forall₂_same.mpr fun e _ => ⟨rfl, fun visit m m' hm => ?_⟩
    apply Outcome.alike_ask
    exact hm
  create_leaves setup m := .done fun _ _ => rfl
  call_leaves setup m := by
    refine .done fun callbacks hcallbacks e he visit m' => ?_
    obtain rfl := Except.ok.inj hcallbacks
    obtain ⟨e', -, rfl⟩ := List.mem_map.mp he
    exact Outcome.leaves_ask _ (fun _ _ _ => rfl) _

theorem Registry.isIndependent_standard (part : Text → σ → τ) :
    ∀ rule ∈ (Registry.standard : Registry σ), rule.IsIndependent part := by
  intro rule hrule
  obtain ⟨c, -, rfl⟩ := List.mem_map.mp hrule
  exact c.isIndependent part

/-! ## Carrying out work -/

namespace Context

theorem report_weigh (c : Context σ) (severity : Severity) (r : Request) :
    (c.weigh severity).report r = (c.report r).map (Violation.weigh severity) := by
  rw [report, report]
  dsimp only [weigh]
  cases c.rule.messages.lookup r.message with
  | none => rfl
  | some template => rfl

/-- Work that is alike reports the same, but for the severity, and ends alike. -/
theorem perform_alike (c : Context σ) (severity : Severity) {S : α → α → Prop} {R : σ → σ → Prop}
    {w w' : Work σ α} (h : w.Alike S R w') :
    ((c.weigh severity).perform w' #[]).1.toList =
        (c.perform w #[]).1.toList.map (Violation.weigh severity) ∧
      R (c.perform w #[]).2.memory ((c.weigh severity).perform w' #[]).2.memory := by
  induction h with
  | done results ends => exact ⟨rfl, ends⟩
  | fail ends => exact ⟨rfl, ends⟩
  | @report r next next' met refused ihmet ihrefused =>
    rw [perform, perform, report_weigh]
    cases c.report r with
    | error fault => exact ihrefused fault
    | ok v =>
      obtain ⟨hsink, hending⟩ := ihmet v severity
      dsimp only [Except.map]
      rw [(perform_eq _ _ (#[].push _)).1, (perform_eq _ _ (#[].push _)).1,
        (perform_eq _ _ (#[].push _)).2, (perform_eq _ _ (#[].push _)).2, List.map_append, hsink]
      exact ⟨rfl, hending⟩

theorem perform_leaves (c : Context σ) {Q : Except Mishap α → σ → Prop} {w : Work σ α}
    (h : w.Leaves Q) (sink : Array Violation) :
    Q (c.perform w sink).2.result (c.perform w sink).2.memory := by
  induction h generalizing sink with
  | done ends => exact ends
  | fail ends => exact ends
  | @report r next rest ih =>
    rw [perform]
    cases c.report r with
    | error fault => exact ih (.error fault) sink
    | ok v => exact ih (.ok v) (sink.push v)

end Context

end AngularLint
