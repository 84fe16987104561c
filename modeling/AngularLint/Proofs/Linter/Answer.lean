import AngularLint.Proofs.Linter.Pairing

/-!
# What a rule makes of one visit

A rule that looks for something to report makes the same of a visit whatever has gone before: it is
silent, or reports one violation, or fails (`Context.reaction`). `Context.Makes` says that a rule
makes this or that of a visit, by the callback that it has set up for the kind of the node. A linter
has nothing to add: its calls come to what the rules make of the visits
(`Linter.answer_of_makes`).
-/

set_option autoImplicit false

namespace AngularLint

variable {σ : Type}

/-- Does the rule at work make this of a visit, whatever was in mind when it was set up and
whatever is in mind at the visit? -/
def Context.Makes (c : Context σ) (visit : Visit) (reaction : Reaction) : Prop :=
  ∀ m₀, ∃ callbacks m₁ callback, c.rule.create c.setup m₀ = .done callbacks m₁ ∧
    callbacks.lookup visit.node.type = some callback ∧
    ∀ m, ((⟨c, callback, visit⟩ : Call σ).answer m).1 = reaction

theorem Context.Makes.unique {c : Context σ} {visit : Visit} {reaction reaction' : Reaction}
    (h : c.Makes visit reaction) (h' : c.Makes visit reaction') (m : σ) : reaction = reaction' := by
  obtain ⟨callbacks, m₁, callback, hcreated, hcallback, hanswer⟩ := h m
  obtain ⟨callbacks', m₁', callback', hcreated', hcallback', hanswer'⟩ := h' m
  obtain ⟨rfl, rfl⟩ := Work.done.inj (hcreated.symm.trans hcreated')
  obtain rfl : callback = callback' := Option.some.inj (hcallback.symm.trans hcallback')
  exact (hanswer m).symm.trans (hanswer' m)

/-- Is it a violation of the rule at work that points at the value? -/
structure Violation.PointsAt (c : Context σ) (anchor : Value) (v : Violation) : Prop where
  rule : v.rule = c.rule.id
  severity : v.severity = c.severity
  location : v.location = .ofValue c.filename anchor
  kind : v.kind = anchor.node?.map (·.type)

namespace Context

theorem pointsAt_of_report {c : Context σ} {r : Request} {v : Violation}
    (h : c.report r = .ok v) : v.PointsAt c r.anchor := by
  unfold report at h
  split at h
  · exact absurd h (by simp)
  · obtain rfl := Except.ok.inj h
    exact ⟨rfl, rfl, rfl, rfl⟩

/-- What comes of a look-up for something to report. -/
def reaction (c : Context σ) : Except Fault (Option Request) → Reaction
  | .error fault => ⟨[], some (.fault fault)⟩
  | .ok none => ⟨[], none⟩
  | .ok (some r) =>
    match c.report r with
    | .ok v => ⟨[v], none⟩
    | .error refusal => ⟨[], some (.fault refusal)⟩

theorem exists_of_fault_reaction {c : Context σ} {found : Except Fault (Option Request)}
    (h : (c.reaction found).fault = none) : ∃ r?, found = .ok r? := by
  cases found with
  | error fault => exact absurd h (by simp [reaction])
  | ok r? => exact ⟨r?, rfl⟩

/-- A request for a message that the rule has is met. -/
theorem reaction_of_known {c : Context σ} {r : Request}
    (h : c.rule.messages.lookup r.message ≠ none) :
    ∃ v, v.PointsAt c r.anchor ∧ c.reaction (.ok (some r)) = ⟨[v], none⟩ := by
  cases hreport : c.report r with
  | error fault => exact absurd (report_eq_error hreport).1 h
  | ok v =>
    refine ⟨v, pointsAt_of_report hreport, ?_⟩
    rw [reaction, hreport]

end Context

theorem Call.answer_ofLookup (c : Context σ) (look : Visit → Except Fault (Option Request))
    (visit : Visit) (m : σ) :
    ((⟨c, .ofHabit fun v => .ofLookup (look v), visit⟩ : Call σ).answer m).1 =
      c.reaction (look visit) := by
  have hperform : (⟨c, .ofHabit fun v => .ofLookup (look v), visit⟩ : Call σ).answer m =
      let done := c.perform ((Outcome.ofLookup (look visit)).work m) #[]
      (⟨done.1.toList, done.2.fault⟩, done.2.memory) := rfl
  rw [hperform]
  cases look visit with
  | error fault => rfl
  | ok found =>
    cases found with
    | none => rfl
    | some r =>
      rw [Context.reaction]
      show Reaction.mk (c.perform (.report r _) #[]).1.toList
        (c.perform (.report r _) #[]).2.fault = _
      rw [Context.perform]
      cases c.report r with
      | error refusal => rfl
      | ok v => rfl

/-- Does a rule look at calls by the judgement, and has it the messages that this asks for? -/
structure Rule.Judges (rule : Rule σ) (judge : Value → Except Fault (Option Request)) : Prop where
  create : ∀ setup m, rule.create setup m =
    .done [("CallExpression", .ofHabit fun visit => .ofLookup (judge (.node visit.node)))] m
  messages : ∀ call r, judge call = .ok (some r) → rule.messages.lookup r.message ≠ none

section
variable {c : Context σ} {judge : Value → Except Fault (Option Request)}

/-- Such a rule makes of each call what comes of the judgement. -/
theorem Rule.Judges.makes (h : c.rule.Judges judge) {visit : Visit}
    (hcall : visit.node.type = "CallExpression") :
    c.Makes visit (c.reaction (judge (.node visit.node))) := by
  intro m₀
  refine ⟨_, m₀, .ofHabit fun v => .ofLookup (judge (.node v.node)), h.create _ m₀, ?_, fun m => ?_⟩
  · rw [hcall]
    rfl
  · exact Call.answer_ofLookup c (fun v => judge (.node v.node)) visit m

/-- What it asks for it gets. -/
theorem Rule.Judges.reaction (h : c.rule.Judges judge) {call : Value} {r : Request}
    (hr : judge call = .ok (some r)) :
    ∃ v, v.PointsAt c r.anchor ∧ c.reaction (judge call) = ⟨[v], none⟩ := by
  rw [hr]
  exact Context.reaction_of_known (h.messages call r hr)

end

/-- **The calls of a linter** come to what their rules make of the visits. -/
theorem Linter.answer_of_makes {l : Linter σ} {tree : Option Node} {filename : Text}
    {call : Call σ} (hcall : call ∈ l.calls tree filename) {reaction : Reaction}
    (h : call.context.Makes call.visit reaction) (m : σ) : (call.answer m).1 = reaction := by
  obtain ⟨-, listener, hlistener, hcontext, hlookup⟩ := Call.mem_schedule.mp hcall
  obtain ⟨rule, -, -, hrule, m₀, hcreated⟩ := Listener.exists_of_mem_enlist hlistener
  obtain ⟨callbacks, m₁, callback, hdone, hcallback, hanswer⟩ := h m₀
  have hsame : rule = call.context.rule := by rw [← hcontext, hrule]; rfl
  rw [hcontext, hsame, hdone] at hcreated
  obtain rfl : callbacks = listener.callbacks := Except.ok.inj hcreated
  have hcalled : callback = call.callback := Option.some.inj (hcallback.symm.trans hlookup)
  rw [← hanswer m, hcalled]

end AngularLint
