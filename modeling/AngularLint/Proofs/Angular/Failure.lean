import AngularLint.Angular.Binding
import AngularLint.Angular.Controller
import AngularLint.Proofs.Angular.Registration
import AngularLint.Proofs.Tree.Lookup

/-!
# When a look-up into a registration fails

Whether a value is a registration, what its name is and what configuration it is given can always be
told. The other look-ups go through a list that they expect somewhere, and fail where something
stands alone in its place (`Proofs/Tree/Lookup.lean`). This file says for each of them, on any node
of a dump, where that is:

* an object literal keeps its properties in a list, so only an object of an **unknown kind** can
  fail a look-up of properties;
* the statements of a function or a class are the `body` of its body. A block and a class body have
  them in a list. But the body of an arrow may be any expression, and **if that is a function or a
  class, its own body stands where the statements are looked for**.
-/

set_option autoImplicit false

namespace AngularLint

open Node

/-! ## Properties -/

namespace Value

variable {w : Value} {names : List Text}

/-- Of what a dump gives, only a node can hold something alone. -/
theorem IsDumped.any_at? (h : w.IsDumped) (name : Text) {lone : Node → Bool}
    (hlone : ∀ n, w = .node n → ((node n).at? (name :: names)).any isLone = lone n) :
    (w.at? (name :: names)).any isLone = true ↔ ∃ n, w = .node n ∧ lone n = true := by
  cases hnode : w.node? with
  | none =>
    rw [h.at?_eq_none hnode]
    refine iff_of_false (by simp) ?_
    rintro ⟨n, rfl, -⟩
    exact absurd hnode (by simp [node?])
  | some n =>
    obtain rfl : w = .node n := eq_node_of_node? hnode
    rw [hlone n rfl]
    constructor
    · intro hn
      exact ⟨n, rfl, hn⟩
    · rintro ⟨m, hm, hn⟩
      rwa [Value.node.inj hm]

theorem fails_propertyValue?_iff (key : Text) (h : w.IsDumped) :
    Fails (w.propertyValue? key) ↔ ∃ n, w = .node n ∧ n.hasLoneProperties = true := by
  rw [propertyValue?, fails_bind_pure, fails_itemsAt_iff]
  exact h.any_at? "properties" fun n _ => any_isLone_properties n

/-- A node in which a path finds a part is no literal. -/
theorem shape_ne_literal {n : Node} {name : Text} {v : Value} (h : (node n).at? [name] = some v)
    (hname : isPartName name = true) (value raw : Json) : n.shape ≠ .literal value raw := by
  intro hn
  obtain ⟨range, shape⟩ := n
  obtain rfl : shape = .literal value raw := hn
  rw [at?_literal range value raw hname] at h
  exact absurd h (by simp)

theorem exists_at?_of_textAt {name text : Text}
    (h : w.textAt (name :: names) text = true) : ∃ v, w.at? [name] = some v := by
  rw [textAt, at?_cons] at h
  cases hat : w.at? [name] with
  | none =>
    rw [hat] at h
    exact absurd h (by simp)
  | some v => exact ⟨v, rfl⟩

/-- Under the name of a part, a dump gives what it gives anywhere. -/
theorem IsDumped.of_at? (h : w.IsDumped) {name : Text} {v : Value} (hv : w.at? [name] = some v)
    (hname : isPartName name = true) : v.IsDumped := by
  cases hnode : w.node? with
  | none => exact absurd (hv.symm.trans (h.at?_eq_none hnode _ _)) (by simp)
  | some n =>
    obtain rfl : w = .node n := eq_node_of_node? hnode
    exact h.field (shape_ne_literal hv hname) (isCommonName_of_isPartName hname) hv

theorem IsDumped.of_mem_itemsAt (h : (ofOption (w.at? names)).IsDumped) {items : List Value}
    (hitems : w.itemsAt names = .ok items) : ∀ p ∈ items, p.IsDumped :=
  isDumped_of_mem_items h hitems

theorem isDumped_ofOption {v : Option Value} (h : ∀ w, v = some w → w.IsDumped) :
    (ofOption v).IsDumped := by
  cases v with
  | none => exact trivial
  | some w => exact h w rfl

theorem isDumped_of_propertyValue? {key : Text} (h : w.IsDumped) {v : Value}
    (hv : w.propertyValue? key = .ok (some v)) : v.IsDumped := by
  obtain ⟨items, hitems, hfind⟩ := bind_eq_ok.mp hv
  obtain ⟨p, hp, hvalue⟩ := Option.bind_eq_some_iff.mp (Except.ok.inj hfind)
  have hdumped : p.IsDumped :=
    IsDumped.of_mem_itemsAt (isDumped_ofOption fun u hu => h.of_at? hu rfl) hitems
      p (List.mem_of_find?_eq_some hp)
  cases hnode : p.node? with
  | none => exact absurd (hvalue.symm.trans (hdumped.at?_eq_none hnode _ _)) (by simp)
  | some n =>
    -- The property has a key, so it is no literal, and its value is a node or the like.
    obtain rfl : p = .node n := eq_node_of_node? hnode
    have hfound := List.find?_some hp
    have hnamed : (node n).textAt ["key", "name"] key = true := hfound
    obtain ⟨k, hkey⟩ := exists_at?_of_textAt hnamed
    exact hdumped.field (shape_ne_literal hkey rfl) rfl hvalue

/-- A look-up into what another one has found fails with that one, or at what it has found. -/
theorem fails_bind_iff {α : Type} {found : Except Fault (Option Value)}
    {next : Value → Except Fault α} {lone : Node → Bool}
    (hdumped : ∀ w, found = .ok (some w) → w.IsDumped)
    (hnext : ∀ w : Value, w.IsDumped → (Fails (next w) ↔ ∃ n, w = .node n ∧ lone n = true)) :
    Fails (found >>= fun w => next (.ofOption w)) ↔
      Fails found ∨ ∃ n, found = .ok (some (.node n)) ∧ lone n = true := by
  rw [fails_bind]
  refine or_congr_right ?_
  constructor
  · rintro ⟨w, hfound, hfails⟩
    cases w with
    | none =>
      obtain ⟨n, hn, -⟩ := (hnext absent trivial).mp hfails
      exact absurd hn (by simp [absent])
    | some w =>
      obtain ⟨n, rfl, hlone⟩ := (hnext w (hdumped w hfound)).mp hfails
      exact ⟨n, hfound, hlone⟩
  · rintro ⟨n, hfound, hlone⟩
    exact ⟨_, hfound, (hnext _ (hdumped _ hfound)).mpr ⟨n, rfl, hlone⟩⟩

end Value

/-! ## Configurations -/

namespace Registration

theorem type_of_isOf {element : Text} {n : Node} (h : isOf element (.node n) = true) :
    n.type = "CallExpression" := by
  have hcalls := ((isOf_node_iff element n).mp h).1
  obtain ⟨range, shape⟩ := n
  cases shape with
  | callExpression callee arguments => rfl
  | _ => exact absurd hcalls (by simp [callsAccess])

theorem follow?_argument {n : Node} (h : n.IsDumped) (place : Nat) :
    (Value.node n).follow? [.field "arguments", .position place] =
      (n.argument? place).map Value.node := by
  have hpath : (Value.node n).follow? [.field "arguments", .position place] =
      ((Value.node n).at? ["arguments"]).bind (·.step? (.position place)) := by
    show (((Value.node n).step? (.field "arguments")).bind fun next =>
      (next.step? (.position place)).bind some) =
      (((Value.node n).step? (.field "arguments")).bind some).bind _
    simp only [Option.bind_fun_some]
  rw [hpath]
  obtain ⟨range, shape⟩ := n
  cases shape with
  | callExpression callee arguments => exact step?_nodes arguments place
  | other type es =>
    rw [Value.at?_entry rfl, Node.argument?]
    cases he : es.lookup ("arguments" : Text) with
    | none => rfl
    | some e =>
      have hdumped := h.value_of_lookup he
      cases e with
      | child c =>
        simp only [step?_natCast]
        cases c <;> rfl
      | children nodes => exact step?_nodes nodes place
      | plain w =>
        cases w with
        | arr items => exact absurd hdumped (by simp [Entry.value, Value.IsDumped])
        | obj entries => exact absurd hdumped (by simp [Entry.value, Value.IsDumped])
        | _ =>
          simp only [step?_natCast]
          rfl
  | _ => rfl

/-- The configuration of a call is its second argument. -/
theorem configuration?_node {n : Node} (h : n.IsDumped) :
    configuration? (.node n) = (n.argument? 1).map Value.node := by
  have hargument := follow?_argument h 1
  rw [configuration?]
  show ((Value.node n).follow? [.field "arguments", .position (1 : Nat)]).bind _ = _
  rw [hargument]
  cases n.argument? 1 <;> rfl

theorem isDumped_configuration {n : Node} (h : n.IsDumped) :
    (Value.ofOption (configuration? (.node n))).IsDumped := by
  rw [configuration?_node h]
  cases hc : n.argument? 1 with
  | none => exact trivial
  | some c => exact h.of_mem_children (mem_children_of_argument? hc)

/-- A node is the configuration if and only if it is the second argument. -/
theorem configuration_eq_node_iff {n c : Node} (h : n.IsDumped) :
    Value.ofOption (configuration? (.node n)) = .node c ↔ n.argument? 1 = some c := by
  rw [configuration?_node h]
  cases n.argument? 1 with
  | none => simp [Value.ofOption, Value.absent]
  | some d => simp [Value.ofOption]

/-- What configures a directive is looked for in the body of its factory, if that is a function. -/
theorem directiveConfiguration?_node {n : Node} (h : n.IsDumped) :
    directiveConfiguration? (.node n) =
      (((n.argument? 1).bind functionBody?).elim (.ok []) fun b =>
        (Value.node b).itemsAt ["body"]).map fun statements =>
          (statements.findSome? Value.returned?).bind Value.present? := by
  rw [directiveConfiguration?, configuration?_node h]
  cases hf : n.argument? 1 with
  | none => rfl
  | some f =>
    have hdumped : f.IsDumped := h.of_mem_children (mem_children_of_argument? hf)
    rw [Option.bind_some, ← hdumped.itemsAt_function]
    show ((Value.node f).isFunction >>= _) = _
    rw [Value.isFunction_node]
    show (if functionKinds.contains f.type = true then _ else _) = _
    split
    · cases hitems : (Value.node f).itemsAt ["body", "body"] with
      | error fault => exact congrArg (· >>= _) hitems
      | ok statements => exact congrArg (· >>= _) hitems
    · rfl

theorem fails_directiveConfiguration?_iff {n : Node} (h : n.IsDumped) :
    Fails (directiveConfiguration? (.node n)) ↔
      ∃ f, n.argument? 1 = some f ∧ f.functionBody?.any hasLoneBody = true := by
  rw [directiveConfiguration?_node h, fails_map_iff, fails_itemsAt_body_iff]
  cases n.argument? 1 with
  | none => simp
  | some f => simp

theorem isDumped_returned? {p r : Value} (h : p.IsDumped) (hr : p.returned? = some r) :
    ∃ c : Option Node, r = .ofChild c ∧ ∀ d ∈ c, d.IsDumped := by
  unfold Value.returned? at hr
  split at hr
  · rename_i range argument
    refine ⟨argument, (Option.some.inj hr).symm, fun d hd => h.of_mem_children ?_⟩
    exact Option.mem_toList.mpr hd
  · exact absurd hr (by simp)

/-- What a directive's factory returns is a node. -/
theorem exists_of_directiveConfiguration? {n : Node} (h : n.IsDumped) {v : Value}
    (hv : directiveConfiguration? (.node n) = .ok (some v)) : ∃ d, v = .node d ∧ v.IsDumped := by
  rw [directiveConfiguration?] at hv
  obtain ⟨isFunction, -, hv⟩ := bind_eq_ok.mp hv
  split at hv
  · obtain ⟨statements, hstatements, hv⟩ := bind_eq_ok.mp hv
    obtain ⟨r, hr, hpresent⟩ := Option.bind_eq_some_iff.mp (Except.ok.inj hv)
    obtain ⟨p, hp, hreturned⟩ := List.exists_of_findSome?_eq_some hr
    have hdumped : p.IsDumped := by
      refine Value.IsDumped.of_mem_itemsAt (Value.isDumped_ofOption fun u hu => ?_) hstatements p hp
      rw [Value.at?_cons] at hu
      obtain ⟨body, hbody, hu⟩ := Option.bind_eq_some_iff.mp hu
      have hb := (isDumped_configuration h).of_at? hbody rfl
      exact hb.of_at? hu rfl
    obtain ⟨c, rfl, hc⟩ := isDumped_returned? hdumped hreturned
    cases c with
    | none => exact absurd hpresent (by simp [Value.ofChild, Value.absent, Value.present?])
    | some d =>
      obtain rfl := Value.eq_of_present? hpresent
      exact ⟨d, rfl, hc d rfl⟩
  · exact absurd hv (by simp [pure, Except.pure])

end Registration

/-! ## Bindings -/

namespace Binding

theorem fails_firstTwoWay?_iff {w : Value} (h : w.IsDumped) :
    Fails (firstTwoWay? w) ↔ ∃ n, w = .node n ∧ n.hasLoneProperties = true := by
  rw [firstTwoWay?, fails_bind_pure, Value.fails_itemsAt_iff]
  exact h.any_at? "properties" fun n _ => any_isLone_properties n

theorem fails_ofComponent?_iff {n : Node} (h : n.IsDumped) :
    Fails (ofComponent? (.node n)) ↔
      ∃ c, n.argument? 1 = some c ∧ c.hasLoneProperties = true := by
  rw [ofComponent?, Value.fails_propertyValue?_iff _ (Registration.isDumped_configuration h)]
  simp only [Registration.configuration_eq_node_iff h]

theorem fails_ofDirective?_iff {n : Node} (h : n.IsDumped) :
    Fails (ofDirective? (.node n)) ↔
      (∃ f, n.argument? 1 = some f ∧ f.functionBody?.any hasLoneBody = true) ∨
      ∃ d, Registration.directiveConfiguration? (.node n) = .ok (some (.node d)) ∧
        d.hasLoneProperties = true := by
  rw [← Registration.fails_directiveConfiguration?_iff h]
  refine Value.fails_bind_iff (fun w hw => ?_) fun w => Value.fails_propertyValue?_iff "scope"
  obtain ⟨-, -, hdumped⟩ := Registration.exists_of_directiveConfiguration? h hw
  exact hdumped

theorem isDumped_of_ofDirective? {n : Node} (h : n.IsDumped) {w : Value}
    (hw : ofDirective? (.node n) = .ok (some w)) : w.IsDumped := by
  obtain ⟨configuration, hconfiguration, hw⟩ := bind_eq_ok.mp hw
  refine Value.isDumped_of_propertyValue? (Value.isDumped_ofOption ?_) hw
  rintro v rfl
  obtain ⟨-, -, hdumped⟩ := Registration.exists_of_directiveConfiguration? h hconfiguration
  exact hdumped

end Binding

/-! ## Controllers -/

namespace Controller

theorem statements_of_not_node {w : Value} (h : w.IsDumped) (hnode : w.node? = none) :
    statements w = .ok [] := by
  have hfunction : w.isFunction = .ok false := by
    rw [Value.isFunction, h.at?_eq_none hnode]
  have hclass : w.isClass = false := by
    rw [Value.isClass, Value.textAt, h.at?_eq_none hnode]
    rfl
  rw [statements, hfunction, hclass]
  rfl

/-- The statements of a controller are those of its body. -/
theorem statements_node {n : Node} (h : n.IsDumped) :
    statements (.node n) =
      n.expressionBody?.elim (.ok []) fun b => (Value.node b).itemsAt ["body"] := by
  rw [statements, Value.isFunction_node, Value.isClass_node, ← h.itemsAt_expression]
  rfl

theorem fails_statements_iff {w : Value} (h : w.IsDumped) :
    Fails (statements w) ↔ ∃ n, w = .node n ∧ n.expressionBody?.any hasLoneBody = true := by
  cases hnode : w.node? with
  | none =>
    rw [statements_of_not_node h hnode]
    refine iff_of_false not_fails_ok ?_
    rintro ⟨n, rfl, -⟩
    exact absurd hnode (by simp [Value.node?])
  | some n =>
    obtain rfl : w = .node n := Value.eq_node_of_node? hnode
    simp only [Value.node.injEq, exists_eq_left']
    rw [statements_node h, fails_itemsAt_body_iff]

theorem fails_hasHook_iff {w : Value} (h : w.IsDumped) :
    Fails (hasHook w) ↔ ∃ n, w = .node n ∧ n.expressionBody?.any hasLoneBody = true := by
  rw [hasHook, fails_bind_pure, fails_statements_iff h]

end Controller

end AngularLint
