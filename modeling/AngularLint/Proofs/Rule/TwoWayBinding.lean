import AngularLint.Proofs.Angular.Part
import AngularLint.Proofs.Linter.Answer
import AngularLint.Proofs.Linter.Failure

/-!
# Which calls have a two-way binding

The rule goes a long way from a call to the binding that it reports: to the object that configures
the element, which the factory of a directive has to return first; to the first entry there with the
right key; and to the first entry of its value whose text has the mark. `TwoWayBinding.Declares` is
the way to the entry, and `Node.Offends` is the rest. Each stop is the first of its list, so nothing
behind it counts, and in front of it stand only such things as are no stop.

**`TwoWayBinding.makes_of_declares`** says that the rule reports where this way ends, and nothing if
it leads nowhere.
-/

set_option autoImplicit false

namespace AngularLint

open Node

/-! ## What the factory of a directive returns -/

def Node.isReturn : Node → Bool
  | .mk _ (.returnStatement _) => true
  | _ => false

namespace Registration

/-- Does the factory that a call is given return the node, by the first return statement of its
own? -/
def Returns (n d : Node) : Prop :=
  ∃ f b range, n.argument? 1 = some f ∧ f.functionBody? = some b ∧
    IsFirst (fun s => s.isReturn = true) (b.parts "body") (.mk range (.returnStatement (some d)))

theorem Returns.unique {n d d' : Node} (h : Returns n d) (h' : Returns n d') : d = d' := by
  obtain ⟨f, b, range, hf, hb, hfirst⟩ := h
  obtain ⟨f', b', range', hf', hb', hfirst'⟩ := h'
  obtain rfl : f = f' := Option.some.inj (hf.symm.trans hf')
  obtain rfl : b = b' := Option.some.inj (hb.symm.trans hb')
  have hsame := hfirst.unique hfirst'
  simp only [Node.mk.injEq, Shape.returnStatement.injEq, Option.some.injEq] at hsame
  exact hsame.2

theorem findSome?_returned? {b : Node} (h : b.IsDumped) {statements : List Value}
    (hitems : (Value.node b).itemsAt ["body"] = .ok statements) :
    statements.findSome? Value.returned? =
      ((b.parts "body").find? isReturn).bind fun r => (Value.node r).returned? := by
  have hb : (Value.node b).IsDumped := h
  have hsearch : statements.find? (fun s => s.returned?.isSome) =
      ((b.parts "body").find? isReturn).map Value.node := by
    apply hb.find?_itemsAt rfl hitems
    · rintro ⟨range, shape⟩ -
      cases shape <;> rfl
    · intro u _ hnone
      cases u with
      | node s => exact absurd hnone (by simp [Value.node?])
      | _ => rfl
  rw [findSome?_eq_bind_find?, hsearch, Option.bind_map]
  rfl

/-- The first return statement settles the matter, also if it returns nothing. -/
theorem directiveConfiguration?_cases {n : Node} (h : n.IsDumped) {found : Option Value}
    (hfound : directiveConfiguration? (.node n) = .ok found) :
    ∃ o : Option Node, found = o.map .node ∧ ∀ d, o = some d ↔ Returns n d := by
  rw [directiveConfiguration?_node h] at hfound
  cases hbody : (n.argument? 1).bind functionBody? with
  | none =>
    rw [hbody] at hfound
    refine ⟨none, (Except.ok.inj hfound).symm, fun d => iff_of_false (by simp) ?_⟩
    rintro ⟨f, b, range, hf, hb, -⟩
    rw [hf, Option.bind_some, hb] at hbody
    exact absurd hbody (by simp)
  | some b =>
    obtain ⟨f, hf, hb⟩ := Option.bind_eq_some_iff.mp hbody
    -- With factory and body known, only the return statement is left to be compared.
    have hreturns (d : Node) : Returns n d ↔ ∃ range, IsFirst (fun s => s.isReturn = true)
        (b.parts "body") (.mk range (.returnStatement (some d))) := by
      simp only [Returns, hf, Option.some.injEq, ↓existsAndEq, true_and, hb]
    simp only [hreturns]
    rw [hbody, Option.elim_some] at hfound
    cases hitems : (Value.node b).itemsAt ["body"] with
    | error fault =>
      rw [hitems] at hfound
      exact absurd hfound (by simp [Except.map])
    | ok statements =>
      rw [hitems] at hfound
      have hfactory : f.IsDumped := h.of_mem_children (mem_children_of_argument? hf)
      have hdumped : b.IsDumped := hfactory.of_mem_children
        (mem_children_of_expressionBody? (expressionBody?_of_functionBody? hb))
      have hvalue : found = (statements.findSome? Value.returned?).bind Value.present? :=
        (Except.ok.inj hfound).symm
      rw [findSome?_returned? hdumped hitems] at hvalue
      rcases find?_cases (p := isReturn) (fun _ => Iff.rfl) (b.parts "body") with
        ⟨r, hr, hfind⟩ | ⟨hnone, hfind⟩
      · rw [hfind] at hvalue
        obtain ⟨range, shape⟩ := r
        cases shape with
        | returnStatement argument =>
          have hargument : found = argument.map .node := by
            rw [hvalue]
            cases argument <;> rfl
          refine ⟨argument, hargument, fun d => ⟨?_, ?_⟩⟩
          · rintro rfl
            exact ⟨range, hr⟩
          · rintro ⟨range', hr'⟩
            have hsame := hr.unique hr'
            simp only [Node.mk.injEq, Shape.returnStatement.injEq] at hsame
            exact hsame.2
        | _ => exact absurd hr.holds (by simp [isReturn])
      · rw [hfind] at hvalue
        refine ⟨none, hvalue, fun d => iff_of_false (by simp) ?_⟩
        rintro ⟨range, hr⟩
        exact hnone _ hr

/-- A call registers one element. -/
theorem element_unique {n : Node} {element element' : Text}
    (h : isOf element (.node n) = true) (h' : isOf element' (.node n) = true) :
    element = element' := by
  have hcalls := ((isOf_node_iff element n).mp h).1
  have hcalls' := ((isOf_node_iff element' n).mp h').1
  obtain ⟨range, shape⟩ := n
  cases shape with
  | callExpression callee arguments =>
    cases callee with
    | none => exact absurd hcalls (by simp [callsAccess])
    | some callee =>
      obtain ⟨range', shape⟩ := callee
      cases shape with
      | memberExpression object property computed =>
        have hname : property.bind Node.name? = some element := eq_of_beq hcalls
        have hname' : property.bind Node.name? = some element' := eq_of_beq hcalls'
        exact Option.some.inj (hname.symm.trans hname')
      | _ => exact absurd hcalls (by simp [callsAccess, accesses])
  | _ => exact absurd hcalls (by simp [callsAccess])

end Registration

/-! ## Bindings that go two ways -/

namespace Node

/-- Is the value of the value of an entry a text with the mark of a two-way binding? -/
def GoesTwoWays (e : Node) : Prop :=
  ∃ s, (Value.node e).at? ["value", "value"] = some (.plain (.str s)) ∧
    .char Binding.twoWayMark ∈ s.points

/-- Is it the first two-way binding among those that an entry declares? -/
def Offends (p e : Node) : Prop :=
  ∃ b, p.part? "value" = some b ∧ IsFirst GoesTwoWays (b.parts "properties") e

theorem Offends.unique {p e e' : Node} (h : p.Offends e) (h' : p.Offends e') : e = e' := by
  obtain ⟨b, hb, he⟩ := h
  obtain ⟨b', hb', he'⟩ := h'
  obtain rfl : b = b' := Option.some.inj (hb.symm.trans hb')
  exact he.unique he'

theorem exists_offends_iff {p : Node} :
    (∃ e, p.Offends e) ↔
      ∃ b, p.part? "value" = some b ∧ ∃ e ∈ b.parts "properties", e.GoesTwoWays := by
  constructor
  · rintro ⟨e, b, hb, he⟩
    exact ⟨b, hb, exists_isFirst_iff.mp ⟨e, he⟩⟩
  · rintro ⟨b, hb, he⟩
    obtain ⟨e, he⟩ := exists_isFirst_iff.mpr he
    exact ⟨e, b, hb, he⟩

end Node

namespace Binding

theorem isTwoWay_node_iff (e : Node) : isTwoWay (.node e) = true ↔ e.GoesTwoWays := by
  unfold isTwoWay GoesTwoWays
  split
  · rename_i s hat
    simp [hat, Text.contains]
  · rename_i hat
    refine iff_of_false (by simp) ?_
    rintro ⟨s, hs, -⟩
    exact hat s hs

/-- The search for a two-way binding in what an entry declares. -/
theorem firstTwoWay?_cases {p : Node} (h : (Value.ofOption ((Value.node p).at? ["value"])).IsDumped)
    {found : Option Value}
    (hfound : firstTwoWay? (.ofOption ((Value.node p).at? ["value"])) = .ok found) :
    (∃ e, p.Offends e ∧ found = some (.node e)) ∨ (∀ e, ¬p.Offends e) ∧ found = none := by
  obtain ⟨items, hitems, hfind⟩ := bind_eq_ok.mp hfound
  have hpart : (Value.ofOption ((Value.node p).at? ["value"])).node? = p.part? "value" :=
    Value.node?_ofOption _
  have hsearch : items.find? isTwoWay =
      (((p.part? "value").elim [] (parts "properties")).find? fun e =>
        isTwoWay (.node e)).map .node := by
    rw [← hpart, ← h.listedAt_eq]
    apply h.find?_itemsAt rfl hitems
    · exact fun _ _ => rfl
    · intro u hu hnone
      rw [isTwoWay, hu.at?_eq_none hnone]
  have hvalue := (Except.ok.inj hfind).symm.trans hsearch
  cases hb : p.part? "value" with
  | none =>
    rw [hb] at hvalue
    refine .inr ⟨?_, hvalue⟩
    rintro e ⟨b, hb', -⟩
    exact absurd (hb.symm.trans hb') (by simp)
  | some b =>
    rw [hb, Option.elim_some] at hvalue
    rcases find?_cases isTwoWay_node_iff (b.parts "properties") with
      ⟨e, he, hfirst⟩ | ⟨hnone, hfirst⟩
    · rw [hfirst] at hvalue
      exact .inl ⟨e, ⟨b, hb, he⟩, hvalue⟩
    · rw [hfirst] at hvalue
      refine .inr ⟨?_, hvalue⟩
      rintro e ⟨b', hb', he⟩
      obtain rfl : b = b' := Option.some.inj (hb.symm.trans hb')
      exact hnone e he

end Binding

namespace TwoWayBinding

open Registration

/-! ## The entry with which a call declares its bindings -/

/-- Is the object the one that configures the element of a call, and are its bindings declared under
the key? -/
inductive Configures (n d : Node) : Text → Prop
  | component (registers : isOf "component" (.node n) = true)
      (argument : n.argument? 1 = some d) : Configures n d "bindings"
  | directive (registers : isOf "directive" (.node n) = true) (returns : Returns n d) :
      Configures n d "scope"

/-- Is it the entry with which a call declares its bindings? -/
def Declares (n p : Node) : Prop := ∃ d key, Configures n d key ∧ d.Holds key p

theorem Configures.unique {n d d' : Node} {key key' : Text} (h : Configures n d key)
    (h' : Configures n d' key') : d = d' ∧ key = key' := by
  cases h with
  | component registers argument =>
    cases h' with
    | component registers' argument' =>
      exact ⟨Option.some.inj (argument.symm.trans argument'), rfl⟩
    | directive registers' returns' =>
      exact absurd (element_unique registers registers') (by decide)
  | directive registers returns =>
    cases h' with
    | component registers' argument' =>
      exact absurd (element_unique registers registers') (by decide)
    | directive registers' returns' => exact ⟨returns.unique returns', rfl⟩

theorem Declares.unique {n p p' : Node} (h : Declares n p) (h' : Declares n p') : p = p' := by
  obtain ⟨d, key, hd, hp⟩ := h
  obtain ⟨d', key', hd', hp'⟩ := h'
  obtain ⟨rfl, rfl⟩ := hd.unique hd'
  exact hp.unique hp'

theorem declared?_cases {n : Node} (h : n.IsDumped) {found : Option Value}
    (hfound : declared? (.node n) = .ok found) :
    (∃ p, Declares n p ∧ found = (Value.node p).at? ["value"]) ∨
      (∀ p, ¬Declares n p) ∧ found = none := by
  unfold declared? at hfound
  split at hfound
  · rename_i hcomponent
    rw [Binding.ofComponent?, configuration?_node h] at hfound
    rcases Value.propertyValue?_cases
        (fun d hd => h.of_mem_children (mem_children_of_argument? hd)) hfound with
      ⟨d, p, hd, hp, hvalue⟩ | ⟨hnone, hvalue⟩
    · exact .inl ⟨p, ⟨d, _, .component hcomponent hd, hp⟩, hvalue⟩
    · refine .inr ⟨?_, hvalue⟩
      rintro p ⟨d, key, hd, hp⟩
      cases hd with
      | component registers argument => exact hnone d p argument hp
      | directive registers returns =>
        exact absurd (element_unique hcomponent registers) (by decide)
  · rename_i hcomponent
    split at hfound
    · rename_i hdirective
      rw [Binding.ofDirective?] at hfound
      obtain ⟨configuration, hconfiguration, hfound⟩ := bind_eq_ok.mp hfound
      obtain ⟨o, rfl, hreturns⟩ := directiveConfiguration?_cases h hconfiguration
      have hdumped : ∀ d ∈ o, d.IsDumped := by
        rintro d rfl
        obtain ⟨d', hd', hdumped⟩ := exists_of_directiveConfiguration? h hconfiguration
        exact hdumped
      rcases Value.propertyValue?_cases hdumped hfound with
        ⟨d, p, hd, hp, hvalue⟩ | ⟨hnone, hvalue⟩
      · exact .inl ⟨p, ⟨d, _, .directive hdirective ((hreturns d).mp hd), hp⟩, hvalue⟩
      · refine .inr ⟨?_, hvalue⟩
        rintro p ⟨d, key, hd, hp⟩
        cases hd with
        | component registers argument => exact hcomponent registers
        | directive registers returns => exact hnone d p ((hreturns d).mpr returns) hp
    · rename_i hdirective
      refine .inr ⟨?_, (Except.ok.inj hfound).symm⟩
      rintro p ⟨d, key, hd, hp⟩
      cases hd with
      | component registers argument => exact hcomponent registers
      | directive registers returns => exact hdirective registers

theorem isDumped_of_declared? {n : Node} (h : n.IsDumped) {w : Value}
    (hw : declared? (.node n) = .ok (some w)) : w.IsDumped := by
  unfold declared? at hw
  split at hw
  · exact Value.isDumped_of_propertyValue? (isDumped_configuration h) hw
  · split at hw
    · exact Binding.isDumped_of_ofDirective? h hw
    · exact absurd hw (by simp)

/-! ## The verdict -/

/-- The judgement of a call, if it comes to an end. -/
theorem judge_cases {n : Node} (h : n.IsDumped) {found : Option Request}
    (hfound : judge (.node n) = .ok found) :
    (∃ p e r, Declares n p ∧ p.Offends e ∧ r.anchor = .node e ∧ found = some r) ∨
      (∀ p e, Declares n p → ¬p.Offends e) ∧ found = none := by
  obtain ⟨declared, hdeclared, hjudge⟩ := bind_eq_ok.mp hfound
  obtain ⟨binding, hbinding, hrequest⟩ := bind_eq_ok.mp hjudge
  have hdumped : (Value.ofOption declared).IsDumped := by
    refine Value.isDumped_ofOption ?_
    rintro w rfl
    exact isDumped_of_declared? h hdeclared
  rcases declared?_cases h hdeclared with ⟨p, hp, rfl⟩ | ⟨hnone, rfl⟩
  · rcases Binding.firstTwoWay?_cases hdumped hbinding with ⟨e, he, rfl⟩ | ⟨hno, rfl⟩
    · exact .inl ⟨p, e, _, hp, he, rfl, (Except.ok.inj hrequest).symm⟩
    · refine .inr ⟨?_, (Except.ok.inj hrequest).symm⟩
      intro p' e hp' he
      obtain rfl := hp.unique hp'
      exact hno e he
  · refine .inr ⟨fun p e hp => absurd hp (hnone p), ?_⟩
    obtain rfl : binding = none := (Except.ok.inj hbinding).symm
    exact (Except.ok.inj hrequest).symm

theorem rule_judges {σ : Type} : (rule : Rule σ).Judges judge where
  create := fun _ _ => rfl
  messages call r hr := by
    rw [(request_judge hr).1]
    exact Option.some_ne_none _

/-- **The rule reports the first two-way binding that a call declares**, if it declares one, and
nothing else. -/
theorem makes_of_declares {file : Option Text} {raw : Json} {tree : Option Node}
    (h : hydrate file raw = .ok tree) :
    ∀ visit ∈ tree.toList.flatMap visits, visit.node.type = "CallExpression" →
      ∀ (σ : Type) (c : Context σ), c.rule = rule → ∃ reaction, c.Makes visit reaction ∧
        (reaction.fault = none →
          let n := visit.node
          reaction.violations.length ≤ 1 ∧
          (reaction.violations ≠ [] ↔ ∃ p, Declares n p ∧ ∃ b, p.part? "value" = some b ∧
            ∃ e ∈ b.parts "properties", e.GoesTwoWays) ∧
          ∀ p, Declares n p →
            (reaction.violations ≠ [] ↔ ∃ e, p.Offends e) ∧
            ∀ e, p.Offends e → ∀ v ∈ reaction.violations, v.PointsAt c (.node e)) := by
  intro visit hvisit hcall σ c hrule
  have hn : visit.node.IsDumped := isDumped_of_mem_visits h visit hvisit
  have hjudges : c.rule.Judges judge := by
    rw [hrule]
    exact rule_judges
  refine ⟨_, hjudges.makes hcall, fun hfault => ?_⟩
  obtain ⟨found, hfound⟩ := Context.exists_of_fault_reaction hfault
  rcases judge_cases hn hfound with ⟨p, e, r, hp, he, hanchor, rfl⟩ | ⟨hnone, rfl⟩
  · obtain ⟨v, hv, hreaction⟩ := hjudges.reaction hfound
    rw [hanchor] at hv
    rw [hreaction]
    refine ⟨le_refl 1, ?_, ?_⟩
    · exact iff_of_true (List.cons_ne_nil v []) ⟨p, hp, exists_offends_iff.mp ⟨e, he⟩⟩
    · intro p' hp'
      obtain rfl := hp.unique hp'
      refine ⟨iff_of_true (List.cons_ne_nil v []) ⟨e, he⟩, fun e' he' v' hv' => ?_⟩
      obtain rfl := he.unique he'
      obtain rfl := List.mem_singleton.mp hv'
      exact hv
  · rw [hfound]
    refine ⟨Nat.zero_le 1, ?_, ?_⟩
    · refine iff_of_false (fun hne => hne rfl) ?_
      rintro ⟨p, hp, hb⟩
      obtain ⟨e, he⟩ := exists_offends_iff.mpr hb
      exact hnone p e hp he
    · intro p hp
      refine ⟨iff_of_false (fun hne => hne rfl) ?_, fun e he => absurd he (hnone p e hp)⟩
      rintro ⟨e, he⟩
      exact hnone p e hp he

/-! ### A component with several bindings -/

open Linter

/-- A component whose bindings are given three times: under a quoted key, with a one-way binding and
two that go two ways, and with none. -/
def bindingsDump : Json :=
  registrationDump "component" [textDump "name", objectDump [
    entryDump (textDump "bindings") (objectDump [
      entryDump (identifierDump "quoted") (textDump "=")]),
    entryDump (identifierDump "bindings") (objectDump [
      entryDump (identifierDump "one") (textDump "<"),
      entryDump (identifierDump "two") (textDump "=?"),
      entryDump (identifierDump "three") (textDump "=")]),
    entryDump (identifierDump "bindings") (objectDump [])]]

def identifier (name : Text) : Node := .mk none (.identifier name)

def text (s : Text) : Node := .mk none (.literal (.str s) .null)

def entry (key value : Node) : Node :=
  .mk none (.property (some key) (some value) "init" false false false)

def object (entries : List (Option Node)) : Node := .mk none (.objectExpression entries)

/-- The entry that declares the bindings. -/
def bindings : Node :=
  entry (identifier "bindings") (object [some (entry (identifier "one") (text "<")),
    some (entry (identifier "two") (text "=?")), some (entry (identifier "three") (text "="))])

/-- What becomes of the component. -/
def bindingsCall : Node :=
  registration "component" [some (text "name"), some (object [
    some (entry (text "bindings") (object [some (entry (identifier "quoted") (text "="))])),
    some bindings, some (entry (identifier "bindings") (object []))])]

theorem hydrate_bindingsDump : hydrate none bindingsDump = .ok (some bindingsCall) := by
  rw [hydrate_of_finiteLocations ?_]
  · simp only [bindingsDump, ofDump_registrationDump, ofDump_objectDump, ofDump_entryDump,
      ofDump_textDump, ofDump_identifierDump, List.map_cons, List.map_nil]
    rfl
  · refine Json.finiteLocations_of_not_within fun x => ?_
    simp [bindingsDump, registrationDump, callOfDump, memberDump, identifierDump, textDump,
      entryDump, objectDump, Json.within_float_obj, Json.within_float_arr, Json.not_within_float]

theorem declares_bindings : Declares bindingsCall bindings := by
  refine ⟨_, _, .component rfl rfl, [_], [_], rfl, rfl, ?_⟩
  intro q hq
  obtain rfl := List.mem_singleton.mp hq
  decide

theorem offends_bindings : bindings.Offends (entry (identifier "two") (text "=?")) := by
  refine ⟨_, rfl, [_], [_], rfl, ⟨"=?", rfl, by decide⟩, ?_⟩
  intro q hq hmark
  obtain rfl := List.mem_singleton.mp hq
  exact absurd ((Binding.isTwoWay_node_iff _).mpr hmark) (by decide)

/-- The first of the two is reported, and nothing else. -/
theorem makes_bindings :
    let c : Context Unit := ⟨rule, "a.js", [], .error⟩
    ∃ v, c.Makes ⟨bindingsCall, []⟩ ⟨[v], none⟩ ∧
      v.PointsAt c (.node (entry (identifier "two") (text "=?"))) := by
  intro c
  obtain ⟨reaction, hmakes, hverdict⟩ := makes_of_declares hydrate_bindingsDump
    ⟨bindingsCall, []⟩ bindingsCall.root_mem_visits rfl Unit c rfl
  have hreaction : reaction = c.reaction (judge (.node bindingsCall)) :=
    hmakes.unique (rule_judges.makes rfl) ()
  have hfault : reaction.fault = none := by
    rw [hreaction]
    rfl
  obtain ⟨hlength, -, hdeclared⟩ := hverdict hfault
  obtain ⟨hreported, hpoints⟩ := hdeclared bindings declares_bindings
  have hne : reaction.violations ≠ [] := hreported.mpr ⟨_, offends_bindings⟩
  obtain ⟨v, hv⟩ : ∃ v, reaction.violations = [v] := by
    apply List.length_eq_one_iff.mp
    have hpos := List.length_pos_iff.mpr hne
    omega
  obtain ⟨violations, fault⟩ := reaction
  obtain rfl : violations = [v] := hv
  obtain rfl : fault = none := hfault
  exact ⟨v, hmakes, hpoints _ offends_bindings v List.mem_cons_self⟩

end TwoWayBinding

end AngularLint
