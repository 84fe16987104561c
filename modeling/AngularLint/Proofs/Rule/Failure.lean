import AngularLint.Proofs.Angular.Failure
import AngularLint.Proofs.Config.Setting
import AngularLint.Rule.Registry

/-!
# When a rule cannot judge a call

The rule for the names of test files can always tell, as long as its options have been validated:
what they give for its suffix is a text.

The other two look into registrations, and are stuck where those look-ups are
(`Proofs/Angular/Failure.lean`). `TwoWayBinding.Stuck` and `OnInit.Stuck` say on which calls that
is. There the judgement fails; on all other calls it comes to an end.
-/

set_option autoImplicit false

namespace AngularLint

open Node

/-! ## Outcomes of look-ups -/

theorem Outcome.fault_ofLookup_iff {lookup : Except Fault (Option Request)} :
    (ofLookup lookup).fault = none ↔ ¬Fails lookup := by
  rw [not_fails_iff]
  cases lookup with
  | error fault => simp [ofLookup]
  | ok found => cases found <;> simp [ofLookup, silent, single]

theorem Outcome.eq_of_mem_ofLookup {lookup : Except Fault (Option Request)} {r : Request}
    (h : r ∈ (ofLookup lookup).requests) : lookup = .ok (some r) := by
  cases lookup with
  | error fault => exact absurd h (by simp [ofLookup])
  | ok found =>
    cases found with
    | none => exact absurd h (by simp [ofLookup, silent])
    | some r' =>
      obtain rfl : r = r' := by simpa [ofLookup, single] using h
      rfl

/-! ## Test files -/

namespace TestFilename

theorem lookup_suffix_isTextual {entries : List (Text × Json)}
    (h : ∀ e ∈ entries, ∃ s, e.2 = Json.str s) :
    ∃ s, (Json.find? "suffix" entries).getD (.str defaultSuffix) = .str s := by
  cases hfind : Json.find? "suffix" entries with
  | none => exact ⟨defaultSuffix, rfl⟩
  | some v => exact h _ (mem_of_lookup hfind)

theorem exists_suffix {options : List Json} (h : ∀ option ∈ options, Setting.IsTextual option) :
    ∃ s, suffixOption options = .str s := by
  cases options with
  | nil => exact ⟨defaultSuffix, rfl⟩
  | cons option rest =>
    obtain ⟨entries, rfl, hentries⟩ := h option List.mem_cons_self
    exact lookup_suffix_isTextual hentries

theorem fault_onCall {s : Surroundings} (h : ∀ option ∈ s.options, Setting.IsTextual option)
    (visit : Visit) : (onCall s visit).fault = none := by
  obtain ⟨suffix, hsuffix⟩ := exists_suffix h
  rw [onCall, judge, hsuffix]
  split
  · show (Outcome.ofLookup (if _ then _ else _)).fault = none
    split <;> rfl
  · rfl

theorem request_onCall {s : Surroundings} {visit : Visit} {r : Request}
    (h : r ∈ (onCall s visit).requests) :
    r.message = "noConsistentNaming" ∧
      ∃ name, r.data = ([("expectedName", .plain (.str name))] : List (Text × Value)) := by
  rw [onCall] at h
  split at h
  · obtain ⟨suffix, -, hjudge⟩ := bind_eq_ok.mp (Outcome.eq_of_mem_ofLookup h)
    split at hjudge
    · exact absurd hjudge (by simp [pure, Except.pure])
    · rw [← Option.some.inj (Except.ok.inj hjudge)]
      exact ⟨rfl, _, rfl⟩
  · exact absurd h (by simp [Outcome.silent])

end TestFilename

/-! ## Two-way bindings -/

namespace TwoWayBinding

/-- The object that lists the bindings is of an unknown kind, or the one in which it is looked for,
or the factory of a directive has something else where its statements are looked for. -/
def Stuck (n : Node) : Prop :=
  if Registration.isOf "component" (.node n) then
    (∃ c, n.argument? 1 = some c ∧ c.hasLoneProperties) ∨
      ∃ b, Binding.ofComponent? (.node n) = .ok (some (.node b)) ∧ b.hasLoneProperties
  else if Registration.isOf "directive" (.node n) then
    (∃ f, n.argument? 1 = some f ∧ f.functionBody?.any hasLoneBody) ∨
      (∃ d, Registration.directiveConfiguration? (.node n) = .ok (some (.node d)) ∧
        d.hasLoneProperties) ∨
      ∃ b, Binding.ofDirective? (.node n) = .ok (some (.node b)) ∧ b.hasLoneProperties
  else False

theorem fails_judge_iff {n : Node} (h : n.IsDumped) : Fails (judge (.node n)) ↔ Stuck n := by
  have hbindings (found : Except Fault (Option Value))
      (hfound : ∀ w, found = .ok (some w) → w.IsDumped) :
      Fails (found >>= fun w => Binding.firstTwoWay? (.ofOption w)) ↔
        Fails found ∨ ∃ b, found = .ok (some (.node b)) ∧ b.hasLoneProperties = true :=
    Value.fails_bind_iff hfound fun w => Binding.fails_firstTwoWay?_iff
  have hjudge : Fails (judge (.node n)) ↔
      Fails (declared? (.node n) >>= fun w => Binding.firstTwoWay? (.ofOption w)) := by
    rw [judge, ← bind_assoc, fails_bind_pure]
  rw [hjudge, declared?, Stuck]
  split
  · rw [hbindings, Binding.fails_ofComponent?_iff h]
    exact fun w hw => Value.isDumped_of_propertyValue? (Registration.isDumped_configuration h) hw
  · split
    · rw [hbindings, Binding.fails_ofDirective?_iff h, or_assoc]
      exact fun w hw => Binding.isDumped_of_ofDirective? h hw
    · exact iff_of_false not_fails_ok id

/-- Only calls are judged. -/
theorem Stuck.type_eq {n : Node} (h : Stuck n) : n.type = "CallExpression" := by
  rw [Stuck] at h
  split at h
  · exact Registration.type_of_isOf ‹_›
  · split at h
    · exact Registration.type_of_isOf ‹_›
    · exact h.elim

theorem request_judge {call : Value} {r : Request} (h : judge call = .ok (some r)) :
    r.message = "noTwoWayBinding" ∧
      r.data = ([("name", .ofOption (Registration.name? call))] : List (Text × Value)) := by
  obtain ⟨declared, -, h⟩ := bind_eq_ok.mp h
  obtain ⟨binding, -, h⟩ := bind_eq_ok.mp h
  obtain ⟨b, -, rfl⟩ := Option.map_eq_some_iff.mp (Except.ok.inj h)
  exact ⟨rfl, rfl⟩

end TwoWayBinding

/-! ## Hooks of controllers -/

namespace OnInit

/-- The controller of a component is looked for in an object of an unknown kind, or is a function or
a class whose body is one as well. -/
def Stuck (n : Node) : Prop :=
  Registration.isOf "component" (.node n) ∧
    ((∃ c, n.argument? 1 = some c ∧ c.hasLoneProperties) ∨
      ∃ k, (Value.ofOption (Registration.configuration? (.node n))).propertyValue? "controller" =
        .ok (some (.node k)) ∧ k.expressionBody?.any hasLoneBody)

theorem fails_judge_iff {n : Node} (h : n.IsDumped) : Fails (judge (.node n)) ↔ Stuck n := by
  rw [judge, Stuck]
  cases hof : Registration.isOf "component" (.node n) with
  | false => exact iff_of_false not_fails_ok (by simp)
  | true =>
    have hconfiguration := Registration.isDumped_configuration h
    have hlone (c : Node) : Value.ofOption (Registration.configuration? (.node n)) = .node c ↔
        n.argument? 1 = some c := Registration.configuration_eq_node_iff h
    simp only [Bool.not_true, Bool.false_eq_true, if_false, true_and, ← hlone]
    rw [← Value.fails_propertyValue?_iff "controller" hconfiguration]
    refine Iff.trans (fails_bind_congr fun w => fails_bind_of_total fun found => ?_)
      (Value.fails_bind_iff (fun w hw => Value.isDumped_of_propertyValue? hconfiguration hw)
        fun w => Controller.fails_hasHook_iff)
    split
    · exact not_fails_ok
    · exact not_fails_ok

theorem request_judge {call : Value} {r : Request} (h : judge call = .ok (some r)) :
    r.message = "onInitNotFound" ∧
      r.data = ([("name", .ofOption (Registration.name? call))] : List (Text × Value)) := by
  rw [judge] at h
  split at h
  · exact absurd h (by simp [pure, Except.pure])
  · obtain ⟨controller, -, h⟩ := bind_eq_ok.mp h
    obtain ⟨found, -, h⟩ := bind_eq_ok.mp h
    split at h
    · exact absurd h (by simp [pure, Except.pure])
    · rw [← Option.some.inj (Except.ok.inj h)]
      exact ⟨rfl, rfl⟩

/-- Only calls are judged. -/
theorem Stuck.type_eq {n : Node} (h : Stuck n) : n.type = "CallExpression" :=
  Registration.type_of_isOf h.1

end OnInit

end AngularLint
