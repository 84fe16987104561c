import AngularLint.Proofs.Angular.Part

/-!
# Which controllers have the hook

The statements of a controller are those of a function that is an expression, or the members of a
class that is one (`Node.Owns`). One of them that gives the hook is enough, wherever it stands.

A member of a class gives the hook by its key. A statement should give it by an **assignment** to
`this.$onInit`, but it is not asked whether there is one: what counts is that the expression has
`this.$onInit` on its left side. Assignments are not alone in having a left side. Among the kinds
with a shape of their own they are, and so a statement that gives the hook either defines it, or
is of an unknown kind and merely mentions it, such as a comparison (`Node.givesHook_iff`).
-/

set_option autoImplicit false

namespace AngularLint

namespace Node

/-- The kinds of the nodes that may be controllers. -/
def controllerKinds : List Text :=
  ["FunctionExpression", "ArrowFunctionExpression", "ClassExpression"]

/-- Is the statement one of those of a function, or one of the members of a class? -/
def Owns (k s : Node) : Prop :=
  k.type ∈ controllerKinds ∧ ∃ b, k.part? "body" = some b ∧ s ∈ b.parts "body"

/-- Is the node `this.$onInit`? -/
def IsHookOfThis (m : Node) : Prop :=
  ∃ receiver member, m.part? "object" = some receiver ∧ receiver.type = "ThisExpression" ∧
    m.part? "property" = some member ∧ member.name? = some Controller.hookName

/-- What counts as giving the hook: a method of that name, or an expression with `this.$onInit` on
its left side. -/
inductive GivesHook : Node → Prop
  | method {range : Option Range} {key : Node} {value : Option Node} {kind : Text}
      {isStatic computed : Bool} (named : key.name? = some Controller.hookName) :
      GivesHook (.mk range (.methodDefinition (some key) value kind isStatic computed))
  | expression {range : Option Range} {e left : Node} (onLeft : e.part? "left" = some left)
      (hook : left.IsHookOfThis) : GivesHook (.mk range (.expressionStatement (some e)))

/-- Does the statement define the hook: as a method, or by an assignment to `this.$onInit`? -/
inductive DefinesHook : Node → Prop
  | method {range : Option Range} {key : Node} {value : Option Node} {kind : Text}
      {isStatic computed : Bool} (named : key.name? = some Controller.hookName) :
      DefinesHook (.mk range (.methodDefinition (some key) value kind isStatic computed))
  | assignment {range range' : Option Range} {operator : Text} {left : Node} {right : Option Node}
      (hook : left.IsHookOfThis) :
      DefinesHook (.mk range (.expressionStatement
        (some (.mk range' (.assignmentExpression operator (some left) right)))))

/-- Does the statement merely mention the hook, on the left side of an expression of an unknown
kind? -/
inductive MentionsHook : Node → Prop
  | unknown {range range' : Option Range} {type : Text} {es : List (Text × Entry)} {left : Node}
      (onLeft : (Node.mk range' (.other type es)).part? "left" = some left)
      (hook : left.IsHookOfThis) :
      MentionsHook (.mk range (.expressionStatement (some (.mk range' (.other type es)))))

/-- **What counts as giving the hook** defines it, or merely mentions it. -/
theorem givesHook_iff {s : Node} : s.GivesHook ↔ s.DefinesHook ∨ s.MentionsHook := by
  constructor
  · intro h
    cases h with
    | method named => exact .inl (.method named)
    | @expression range e left onLeft hook =>
      -- Only two shapes have something on the left.
      obtain ⟨range', shape⟩ := e
      cases shape with
      | assignmentExpression operator left' right =>
        cases left' with
        | none => exact absurd (show none = some left from onLeft) (by simp)
        | some l =>
          obtain rfl : l = left := Option.some.inj onLeft
          exact .inl (.assignment hook)
      | other type es => exact .inr (.unknown onLeft hook)
      | _ => exact absurd (show none = some left from onLeft) (by simp)
  · rintro (h | h)
    · cases h with
      | method named => exact .method named
      | assignment hook => exact .expression rfl hook
    · cases h with
      | unknown onLeft hook => exact .expression onLeft hook

/-- The kinds of controllers have shapes of their own. -/
theorem IsDumped.not_controller_of_other {range : Option Range} {type : Text}
    {es : List (Text × Entry)} (h : (Node.mk range (.other type es)).IsDumped) :
    type ∉ controllerKinds := by
  obtain ⟨hfunction, hclass⟩ := h.not_function_of_other
  intro hmem
  simp only [controllerKinds, List.mem_cons, List.not_mem_nil, or_false] at hmem
  rcases hmem with rfl | rfl | rfl
  · exact absurd hfunction (by decide)
  · exact absurd hfunction (by decide)
  · exact absurd hclass (by decide)

/-- The statements of a controller are those of its body. -/
theorem IsDumped.owns_iff {k s : Node} (h : k.IsDumped) :
    k.Owns s ↔ ∃ b, k.expressionBody? = some b ∧ s ∈ b.parts "body" := by
  have hno (hkind : controllerKinds.contains k.type = false) (hbody : k.expressionBody? = none) :
      k.Owns s ↔ ∃ b, k.expressionBody? = some b ∧ s ∈ b.parts "body" := by
    rw [hbody]
    refine iff_of_false (fun howns => ?_) (by simp)
    exact Bool.eq_false_iff.mp hkind (List.contains_iff_mem.mpr howns.1)
  have hpart (body : Option Node) : (body.map Value.node).bind Value.node? = body := by
    cases body <;> rfl
  obtain ⟨range, shape⟩ := k
  cases shape with
  | functionNode form body params id expression =>
    cases form with
    | declaration => exact hno rfl rfl
    | _ =>
      rw [Owns, part?, at?_body_function, hpart]
      exact and_iff_right (List.contains_iff_mem.mp rfl)
  | classNode form body id superClass =>
    cases form with
    | declaration => exact hno rfl rfl
    | expression =>
      rw [Owns, part?, at?_body_class, hpart]
      exact and_iff_right (List.contains_iff_mem.mp rfl)
  | other type es =>
    refine hno (Bool.eq_false_iff.mpr fun hc => ?_) rfl
    exact h.not_controller_of_other (List.contains_iff_mem.mp hc)
  | _ => exact hno rfl rfl

theorem IsDumped.isHookOfThis_iff {m : Node} (h : m.IsDumped) :
    m.IsHookOfThis ↔ (Value.node m).textAt ["object", "type"] "ThisExpression" = true ∧
      (Value.node m).textAt ["property", "name"] Controller.hookName = true := by
  have hname (member : Node) :
      (Value.node member).textAt ["name"] Controller.hookName = true ↔
        member.name? = some Controller.hookName := by
    rw [← beq_iff_eq (a := member.name?), ← Value.isNamed_node, Value.isNamed]
  rw [h.textAt_part rfl, h.textAt_part rfl]
  simp only [Option.any_eq_true, textAt_type, beq_iff_eq, hname]
  constructor
  · rintro ⟨receiver, member, hreceiver, hthis, hmember, hnamed⟩
    exact ⟨⟨receiver, hreceiver, hthis⟩, member, hmember, hnamed⟩
  · rintro ⟨⟨receiver, hreceiver, hthis⟩, member, hmember, hnamed⟩
    exact ⟨receiver, member, hreceiver, hthis, hmember, hnamed⟩

/-- What is asked of an expression statement is asked of what stands on the left of its
expression. -/
theorem IsDumped.textAt_left {range : Option Range} {e : Node}
    (h : (Node.mk range (.expressionStatement (some e))).IsDumped) (next last text : Text) :
    (Value.node (.mk range (.expressionStatement (some e)))).textAt
        ["expression", "left", next, last] text =
      (e.part? "left").any fun left => (Value.node left).textAt [next, last] text := by
  have he : e.IsDumped := h.of_mem_children List.mem_cons_self
  rw [h.textAt_part rfl, ← he.textAt_part rfl]
  rfl

theorem IsDumped.isHookAssignment_iff {range : Option Range} {e : Node}
    (h : (Node.mk range (.expressionStatement (some e))).IsDumped) :
    Controller.isHookAssignment (.node (.mk range (.expressionStatement (some e)))) = true ↔
      ∃ left, e.part? "left" = some left ∧ left.IsHookOfThis := by
  have he : e.IsDumped := h.of_mem_children List.mem_cons_self
  rw [Controller.isHookAssignment, h.textAt_left, h.textAt_left]
  cases hleft : e.part? "left" with
  | none => simp
  | some left =>
    have hdumped : left.IsDumped := he.part rfl hleft
    simp only [Option.any_some, Bool.and_eq_true, Option.some.injEq, exists_eq_left']
    exact hdumped.isHookOfThis_iff.symm

/-- The test for a hook is the one for what counts as giving it. -/
theorem IsDumped.givesHook_iff_test {s : Node} (h : s.IsDumped) :
    (Controller.isHookMethod (.node s) || Controller.isHookAssignment (.node s)) = true ↔
      s.GivesHook := by
  obtain ⟨range, shape⟩ := s
  cases shape with
  | methodDefinition key value kind isStatic computed =>
    have htest : (Controller.isHookMethod (.node (.mk range (.methodDefinition key value kind
        isStatic computed))) || Controller.isHookAssignment (.node (.mk range (.methodDefinition
        key value kind isStatic computed)))) = (Value.ofChild key).isNamed Controller.hookName :=
      Bool.or_false _
    rw [htest, Value.isNamed_ofChild, beq_iff_eq, Option.bind_eq_some_iff]
    constructor
    · rintro ⟨key, rfl, named⟩
      exact .method named
    · intro h
      cases h with
      | method named => exact ⟨_, rfl, named⟩
  | expressionStatement expression =>
    cases expression with
    | none =>
      have htest : (Controller.isHookMethod (.node (.mk range (.expressionStatement none))) ||
          Controller.isHookAssignment (.node (.mk range (.expressionStatement none)))) = false :=
        rfl
      rw [htest]
      refine iff_of_false (by simp) ?_
      intro h
      cases h
    | some e =>
      have htest : (Controller.isHookMethod (.node (.mk range (.expressionStatement (some e)))) ||
          Controller.isHookAssignment (.node (.mk range (.expressionStatement (some e))))) =
          Controller.isHookAssignment (.node (.mk range (.expressionStatement (some e)))) :=
        Bool.false_or _
      rw [htest, h.isHookAssignment_iff]
      constructor
      · rintro ⟨left, onLeft, hook⟩
        exact .expression onLeft hook
      · intro h
        cases h with
        | expression onLeft hook => exact ⟨_, onLeft, hook⟩
  | _ =>
    refine iff_of_false (by simp [Controller.isHookMethod, Controller.isHookAssignment]) ?_
    intro h
    cases h

end Node

namespace Controller

open Node

/-- The test of a body is one of the statements in it. -/
theorem any_itemsAt_body {b : Node} (h : b.IsDumped) {items : List Value}
    (hitems : (Value.node b).itemsAt ["body"] = .ok items) :
    items.any (fun s => isHookMethod s || isHookAssignment s) = true ↔
      ∃ s ∈ b.parts "body", s.GivesHook := by
  let test (s : Value) := isHookMethod s || isHookAssignment s
  have hb : (Value.node b).IsDumped := h
  have hsearch : items.find? test =
      ((b.parts "body").find? fun s => test (.node s)).map Value.node := by
    apply hb.find?_itemsAt rfl hitems
    · exact fun _ _ => rfl
    · intro u _ hnone
      cases u with
      | node s => exact absurd hnone (by simp [Value.node?])
      | _ => rfl
  rw [List.any_eq_true, ← List.find?_isSome, hsearch, Option.isSome_map, List.find?_isSome]
  constructor
  · rintro ⟨s, hs, htest⟩
    have hdumped : s.IsDumped := h.of_mem_parts rfl hs
    exact ⟨s, hs, hdumped.givesHook_iff_test.mp htest⟩
  · rintro ⟨s, hs, hgives⟩
    have hdumped : s.IsDumped := h.of_mem_parts rfl hs
    exact ⟨s, hs, hdumped.givesHook_iff_test.mpr hgives⟩

/-- **A controller has the hook** if and only if one of its statements gives it. -/
theorem hasHook_iff {w : Value} (h : w.IsDumped) {found : Bool} (hfound : hasHook w = .ok found) :
    found = true ↔ ∃ k s, w = .node k ∧ k.Owns s ∧ s.GivesHook := by
  obtain ⟨items, hitems, hany⟩ := bind_eq_ok.mp hfound
  rw [← Except.ok.inj hany]
  cases hnode : w.node? with
  | none =>
    rw [statements_of_not_node h hnode] at hitems
    obtain rfl := Except.ok.inj hitems
    refine iff_of_false (by simp) ?_
    rintro ⟨k, s, rfl, -⟩
    exact absurd hnode (by simp [Value.node?])
  | some k =>
    obtain rfl : w = .node k := Value.eq_node_of_node? hnode
    have hk : k.IsDumped := h
    simp only [Value.node.injEq, exists_and_left, exists_eq_left', hk.owns_iff]
    rw [statements_node hk] at hitems
    cases hbody : k.expressionBody? with
    | none =>
      rw [hbody] at hitems
      obtain rfl := Except.ok.inj hitems
      exact iff_of_false (by simp) (by simp)
    | some b =>
      rw [hbody] at hitems
      have hb : b.IsDumped := hk.of_mem_children (mem_children_of_expressionBody? hbody)
      rw [any_itemsAt_body hb hitems]
      simp

/-- A statement that gives the hook is found. -/
theorem hasHook_of_owns {k s : Node} (h : k.IsDumped) (howns : k.Owns s) (hgives : s.GivesHook) :
    hasHook (.node k) = .ok true := by
  have hw : (Value.node k).IsDumped := h
  obtain ⟨found, hfound⟩ : ∃ found, hasHook (.node k) = .ok found := by
    rw [← not_fails_iff, fails_hasHook_iff hw]
    rintro ⟨k', hk', hlone⟩
    obtain rfl := Value.node.inj hk'
    obtain ⟨b, hbody, hs⟩ := h.owns_iff.mp howns
    rw [hbody, Option.any_some, ← any_isLone_body, any_isLone_of_mem_parts hs] at hlone
    exact absurd hlone (by simp)
  rw [hfound, (hasHook_iff hw hfound).mpr ⟨k, s, rfl, howns, hgives⟩]

end Controller

end AngularLint
