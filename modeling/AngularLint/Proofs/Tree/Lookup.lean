import AngularLint.Proofs.Linter.Coverage
import AngularLint.Proofs.Tree.Spine
import AngularLint.Tree.Object

/-!
# Where a look-up for items fails

The rules follow a path and go through the items of what they find. Absence has no items and does no
harm, and neither does a list of anything. The harm is in what stands *alone* where a list could
stand: a node, a number, a truth value, a range. `fails_itemsAt_iff` says so for every path.

For the two paths that the rules take, `properties` and `body`, a node shows by its shape whether it
holds such a thing (`Node.hasLoneProperties`, `Node.hasLoneBody`). A node whose kind has a shape of
its own keeps its `properties` in a list. Its `body` is another matter: of a function or a class it
is one node, and it is the body *of the body* that is looked for.

The second half is about nodes that come out of a dump. In general a node without a shape of its own
may claim any kind and hold any value; in the tree of a dump its kind is none of the known ones, and
a list among its entries is a list of nodes (`Node.IsDumped`). That is what makes a path through
such a tree end where the shapes say it does.
-/

set_option autoImplicit false

namespace AngularLint

open Hydrate Dump

/-! ## Values without items -/

namespace Value

/-- Does the value stand alone where a list could stand? -/
def isLone : Value → Bool
  | plain (.bool _) => true
  | plain (.int _) => true
  | plain (.float _) => true
  | node _ => true
  | range _ => true
  | _ => false

theorem fails_items_iff {v : Value} : Fails v.items ↔ v.isLone = true := by
  cases v with
  | plain w => cases w <;> simp [Fails, items, isLone]
  | _ => simp [Fails, items, isLone]

theorem fails_itemsAt_iff {v : Value} {names : List Text} :
    Fails (v.itemsAt names) ↔ (v.at? names).any isLone = true := by
  rw [itemsAt, fails_items_iff]
  cases v.at? names with
  | none => simp [ofOption, absent, isLone]
  | some w => simp [ofOption]

theorem follow?_append (v : Value) (path more : List Key) :
    v.follow? (path ++ more) = (v.follow? path).bind (·.follow? more) := by
  induction path generalizing v with
  | nil => rfl
  | cons key path ih =>
    rw [List.cons_append, follow?, follow?, Option.bind_assoc]
    exact Option.bind_congr fun next _ => ih next

/-- A path is its first step and then the rest. -/
theorem at?_cons (v : Value) (name : Text) (names : List Text) :
    v.at? (name :: names) = (v.at? [name]).bind (·.at? names) :=
  v.follow?_append [.field name] (names.map .field)

theorem eq_node_of_node? {v : Value} {n : Node} (h : v.node? = some n) : v = .node n := by
  cases v with
  | node m => exact congrArg _ (Option.some.inj h)
  | _ => exact absurd h (by simp [node?])

theorem eq_of_present? {v w : Value} (h : v.present? = some w) : v = w := by
  unfold present? at h
  split at h
  · exact absurd h (by simp)
  · exact Option.some.inj h

theorem any_isLone_present? (v : Option Value) :
    (v.bind present?).any isLone = v.any isLone := by
  cases v with
  | none => rfl
  | some w =>
    cases w with
    | plain w => cases w <;> rfl
    | _ => rfl

theorem at?_node (a : Node) (name : Text) : (node a).at? [name] = (a.get? name).bind present? := by
  show (((a.get? name).bind present?).bind some) = _
  rw [Option.bind_fun_some]

theorem at?_entry {range : Option Range} {type key : Text} {es : List (Text × Entry)}
    (h : Node.isCommonName key = false) :
    (node (.mk range (.other type es))).at? [key] =
      ((es.lookup key).map Entry.value).bind present? := by
  rw [at?_node, Node.get?, Node.shape, h]

theorem isFunction_node (n : Node) :
    (node n).isFunction = .ok (functionKinds.contains n.type) := by
  obtain ⟨range, shape⟩ := n
  cases shape <;> rfl

theorem isClass_node (n : Node) :
    (node n).isClass = (n.type == ClassForm.expression.type) := by
  obtain ⟨range, shape⟩ := n
  cases shape <;> rfl

end Value

namespace Node

/-- Does something stand alone under the `properties` of the node? -/
def hasLoneProperties : Node → Bool
  | .mk _ (.other _ es) => ((es.lookup ("properties" : Text)).map Entry.value).any Value.isLone
  | _ => false

/-- Does something stand alone under the `body` of the node? -/
def hasLoneBody : Node → Bool
  | .mk _ (.functionNode _ body _ _ _) => body.isSome
  | .mk _ (.classNode _ body _ _) => body.isSome
  | .mk _ (.other _ es) => ((es.lookup ("body" : Text)).map Entry.value).any Value.isLone
  | _ => false

theorem any_isLone_properties (n : Node) :
    ((Value.node n).at? ["properties"]).any Value.isLone = n.hasLoneProperties := by
  obtain ⟨range, shape⟩ := n
  cases shape with
  | other type es => rw [Value.at?_entry rfl, Value.any_isLone_present?, hasLoneProperties]
  | _ => rfl

theorem any_isLone_body (n : Node) :
    ((Value.node n).at? ["body"]).any Value.isLone = n.hasLoneBody := by
  obtain ⟨range, shape⟩ := n
  cases shape with
  | other type es => rw [Value.at?_entry rfl, Value.any_isLone_present?, hasLoneBody]
  | functionNode form body params id expression => cases body <;> rfl
  | classNode form body id superClass => cases body <;> rfl
  | _ => rfl

end Node

/-! ## Nodes that come out of a dump -/

theorem Shape.declared_ne_other {type : Text} {slots : List Slot} (h : slots? type = some slots)
    (o : Object) (child : Text → Option Node) (children : Text → List (Option Node))
    (entries : List (Text × Entry)) (type' : Text) (es : List (Text × Entry)) :
    declared type o child children entries ≠ .other type' es := by
  unfold slots? at h
  split at h <;> cases h
  all_goals
    rename_i hname
    rw [declared, hname]
    intro heq
    cases heq

/-- Is the node what becomes of an object of a dump? -/
def Node.IsDumped (n : Node) : Prop := ∃ file o, result file o = some n

/-- May the value be met in the tree of a dump, outside of literals and ranges? Lists and objects of
a dump have become nodes there. -/
def Value.IsDumped : Value → Prop
  | node n => n.IsDumped
  | plain (.arr _) => False
  | plain (.obj _) => False
  | nodes ns => ∀ n ∈ ns.filterMap id, n.IsDumped
  | range _ => False
  | entries _ => False
  | _ => True

/-- Outside of literals a path leads on from nodes only. -/
theorem Value.IsDumped.at?_eq_none {v : Value} (h : v.IsDumped) (hnode : v.node? = none)
    (name : Text) (names : List Text) : v.at? (name :: names) = none := by
  cases v with
  | node n => exact absurd hnode (by simp [node?])
  | plain w =>
    cases w with
    | obj es => exact absurd h (by simp [Value.IsDumped])
    | _ => rfl
  | entries es => exact absurd h (by simp [Value.IsDumped])
  | _ => rfl

theorem Value.isDumped_ofChild {c : Option Node} (h : ∀ n ∈ c, n.IsDumped) :
    (Value.ofChild c).IsDumped := by
  cases c with
  | none => exact trivial
  | some n => exact h n rfl

namespace Node

theorem Hydrated.isDumped {file : Option Text} {n : Node} {o : Object} (h : n.Hydrated file o) :
    n.IsDumped :=
  ⟨file, o, ((hydrate_eq_ok_iff file o (some n)).mp h).2.symm⟩

theorem exists_declared {file : Option Text} {o : Object} {n : Node} (h : result file o = some n) :
    ∃ type, n = .mk (rangeOf file o) (Shape.declared type o (childUnder file o)
      (childrenUnder file o) (o.filterMap (entryOf? file))) := by
  rw [result, ofDump_obj] at h
  split at h
  · rename_i type _
    exact ⟨type, (Option.some.inj h).symm⟩
  · exact absurd h (by simp)

/-- A node without a shape of its own is of an unknown kind, and holds what became of the entries of
its object. -/
theorem IsDumped.other {range : Option Range} {type : Text} {es : List (Text × Entry)}
    (h : (Node.mk range (.other type es)).IsDumped) :
    slots? type = none ∧ ∃ (file : Option Text) (o : Object), es = o.filterMap (entryOf? file) := by
  obtain ⟨file, o, hresult⟩ := h
  obtain ⟨type', hn⟩ := exists_declared hresult
  have hshape := (Node.mk.inj hn).2.symm
  cases hslots : slots? type' with
  | some slots => exact absurd hshape (Shape.declared_ne_other hslots _ _ _ _ _ _)
  | none =>
    rw [Shape.declared_of_slots?_eq_none _ _ _ _ hslots] at hshape
    obtain ⟨rfl, rfl⟩ := Shape.other.inj hshape
    exact ⟨hslots, file, o, rfl⟩

/-- The children of a node are what became of objects directly inside its own. -/
theorem exists_inner_of_mem_children {file : Option Text} {o : Object} {n c : Node}
    (hn : result file o = some n) (hc : c ∈ n.children) :
    ∃ inside ∈ inner o, result file inside = some c := by
  cases hkind : kind? o with
  | none => exact absurd (hn.symm.trans ((result_eq_none_iff file).mpr hkind)) (by simp)
  | some type =>
    obtain ⟨m, hm, -, hchildren⟩ := result_eq_some file hkind
    obtain rfl : m = n := Option.some.inj (hm.symm.trans hn)
    rw [hchildren] at hc
    obtain ⟨⟨spot, inside⟩, hmem, hresult⟩ := List.mem_filterMap.mp hc
    exact ⟨inside, mem_inner_of_mem_offspring hmem, hresult⟩

theorem exists_postorder_of_mem_preorder {file : Option Text} {o : Object} {n : Node}
    (hn : result file o = some n) {around : List Node} :
    ∀ visit ∈ n.preorder around, ∃ p ∈ postorder o, result file p = some visit.node := by
  induction around, n using preorder.induct generalizing o with
  | case1 around n ih =>
    intro visit hvisit
    rw [preorder_eq, List.mem_cons, List.mem_flatMap] at hvisit
    rcases hvisit with rfl | ⟨c, hc, hvisit⟩
    · exact ⟨o, mem_postorder_self o, hn⟩
    · obtain ⟨inside, hinside, hresult⟩ := exists_inner_of_mem_children hn hc
      obtain ⟨p, hp, hvisited⟩ := ih c hc hresult visit hvisit
      exact ⟨p, mem_postorder_of_mem_inner hinside hp, hvisited⟩

theorem IsDumped.of_mem_children {n c : Node} (h : n.IsDumped) (hc : c ∈ n.children) :
    c.IsDumped := by
  obtain ⟨file, o, hn⟩ := h
  obtain ⟨inside, -, hresult⟩ := exists_inner_of_mem_children hn hc
  exact ⟨file, inside, hresult⟩

theorem isDumped_of_ofDump {file : Option Text} {v : Json} {n : Node} (h : ofDump file v = some n) :
    n.IsDumped := by
  cases v with
  | obj o => exact ⟨file, o, h⟩
  | _ => exact absurd h (by simp [ofDump])

theorem IsDumped.of_mem_preorder {n : Node} (h : n.IsDumped) {around : List Node} :
    ∀ visit ∈ n.preorder around, visit.node.IsDumped := by
  intro visit hvisit
  obtain ⟨file, o, hn⟩ := h
  obtain ⟨p, -, hresult⟩ := exists_postorder_of_mem_preorder hn visit hvisit
  exact ⟨file, p, hresult⟩

/-- A walk through the tree of a dump meets nothing but what a dump gives. -/
theorem isDumped_of_mem_visits {file : Option Text} {raw : Json} {tree : Option Node}
    (h : hydrate file raw = .ok tree) :
    ∀ visit ∈ tree.toList.flatMap visits, visit.node.IsDumped := by
  intro visit hmem
  obtain ⟨n, hn, hvisit⟩ := List.mem_flatMap.mp hmem
  obtain rfl := Option.mem_toList.mp hn
  have hdumped : n.IsDumped := by
    cases raw with
    | obj o => exact Hydrated.isDumped h
    | _ => exact absurd (Except.ok.inj h) (by simp)
  rw [visits_eq_preorder] at hvisit
  exact hdumped.of_mem_preorder visit hvisit

theorem isDumped_value_entryOf (file : Option Text) (v : Json) :
    (entryOf file v).value.IsDumped := by
  cases v with
  | obj inside => exact Value.isDumped_ofChild fun n hn => isDumped_of_ofDump hn
  | arr items =>
    intro n hn
    obtain ⟨c, hc, hcn⟩ := List.mem_filterMap.mp hn
    obtain ⟨item, -, rfl⟩ := List.mem_map.mp hc
    exact isDumped_of_ofDump hcn
  | _ => exact trivial

/-- What an entry of a node without a shape of its own holds. -/
theorem IsDumped.value_of_lookup {range : Option Range} {type key : Text}
    {es : List (Text × Entry)} (h : (Node.mk range (.other type es)).IsDumped) {e : Entry}
    (he : es.lookup key = some e) : e.value.IsDumped := by
  obtain ⟨-, file, o, rfl⟩ := h.other
  obtain ⟨⟨k, v⟩, -, hentry⟩ := List.mem_filterMap.mp (mem_of_lookup he)
  rw [entryOf?] at hentry
  split at hentry
  · exact absurd hentry (by simp)
  · obtain ⟨rfl, rfl⟩ := Prod.mk.inj (Option.some.inj hentry)
    exact isDumped_value_entryOf file v

theorem isDumped_fields {range : Option Range} {shape : Shape} (h : (Node.mk range shape).IsDumped)
    (hliteral : ∀ value raw, shape ≠ .literal value raw)
    (hother : ∀ type es, shape ≠ .other type es) : ∀ f ∈ shape.fields, f.2.IsDumped := by
  have hchild (c : Option Node) (hc : ∀ m ∈ c, m ∈ childrenOf shape) :
      (Value.ofChild c).IsDumped :=
    Value.isDumped_ofChild fun m hm => h.of_mem_children (hc m hm)
  have hnodes (ns : List (Option Node)) (hns : ∀ m ∈ ns.filterMap id, m ∈ childrenOf shape) :
      (Value.nodes ns).IsDumped := fun m hm => h.of_mem_children (hns m hm)
  cases shape with
  | literal value raw => exact absurd rfl (hliteral value raw)
  | other type es => exact absurd rfl (hother type es)
  | _ =>
    simp only [Shape.fields, List.forall_mem_cons, List.not_mem_nil, false_implies, implies_true,
      and_true]
    and_intros
    all_goals first
      | exact trivial
      | exact hchild _ fun m hm => by simp_all [childrenOf]
      | exact hnodes _ fun m hm => by simp_all [childrenOf]

theorem get?_of_own {range : Option Range} {shape : Shape}
    (hother : ∀ type es, shape ≠ .other type es) {name : Text} (hname : isCommonName name = false) :
    (Node.mk range shape).get? name = shape.fields.lookup name := by
  have hnames : (name == ("type" : Text)) = false ∧ (name == ("source_range" : Text)) = false := by
    simp only [isCommonName, Bool.or_eq_false_iff] at hname
    exact ⟨hname.1.1, hname.2⟩
  cases shape with
  | other type es => exact absurd rfl (hother type es)
  | _ =>
    show (if _ then _ else if _ then _ else _) = _
    rw [hnames.1, hnames.2]
    rfl

/-- Does a name lead only to what has become of the parts of a dump? Not if every node answers to
it, nor if literals do. -/
def isPartName (name : Text) : Bool :=
  !isCommonName name && name != "value" && name != "raw"

theorem isCommonName_of_isPartName {name : Text} (h : isPartName name = true) :
    isCommonName name = false := by
  simp only [isPartName, Bool.and_eq_true, Bool.not_eq_true'] at h
  exact h.1.1

theorem at?_literal (range : Option Range) (value raw : Json) {name : Text}
    (h : isPartName name = true) :
    (Value.node (.mk range (.literal value raw))).at? [name] = none := by
  have hname := isCommonName_of_isPartName h
  simp only [isPartName, Bool.and_eq_true, bne_iff_ne, ne_eq, ← beq_eq_false_iff_ne] at h
  have hget : (Node.mk range (.literal value raw)).get? name = none := by
    rw [get?_of_own (fun _ _ hs => Shape.noConfusion hs) hname]
    simp only [Shape.fields, List.lookup_cons, h.1.2, h.2, List.lookup_nil]
  show ((get? _ name).bind Value.present?).bind some = none
  rw [hget]
  rfl

/-- What a path step finds in a node of a dump, unless the node is a literal: only literals hold
values that have not become nodes. -/
theorem IsDumped.field {n : Node} (h : n.IsDumped)
    (hliteral : ∀ value raw, n.shape ≠ .literal value raw) {name : Text}
    (hname : isCommonName name = false) {w : Value} (hw : (Value.node n).at? [name] = some w) :
    w.IsDumped := by
  obtain ⟨v, hv, hpresent⟩ : ∃ v, n.get? name = some v ∧ v.present? = some w := by
    rw [← Option.bind_eq_some_iff, ← hw]
    show _ = ((n.get? name).bind Value.present?).bind some
    rw [Option.bind_fun_some]
  obtain rfl := Value.eq_of_present? hpresent
  obtain ⟨range, shape⟩ := n
  by_cases hother : ∃ type es, shape = .other type es
  · obtain ⟨type, es, rfl⟩ := hother
    rw [get?, shape, hname] at hv
    obtain ⟨e, he, rfl⟩ := Option.map_eq_some_iff.mp hv
    exact h.value_of_lookup he
  · have hother : ∀ type es, shape ≠ .other type es := fun type es hs => hother ⟨type, es, hs⟩
    rw [get?_of_own hother hname] at hv
    exact isDumped_fields h hliteral hother (name, v) (mem_of_lookup hv)

/-- The items of what a dump gives are what it gives as well. -/
theorem isDumped_of_mem_items {v : Value} (h : v.IsDumped) {items : List Value}
    (hitems : v.items = .ok items) : ∀ p ∈ items, p.IsDumped := by
  cases v with
  | nodes ns =>
    obtain rfl := Except.ok.inj hitems
    intro p hp
    obtain ⟨c, hc, rfl⟩ := List.mem_map.mp hp
    refine Value.isDumped_ofChild fun n hn => h n ?_
    obtain rfl : c = some n := hn
    exact List.mem_filterMap.mpr ⟨some n, hc, rfl⟩
  | plain w =>
    cases w with
    | str s =>
      obtain rfl := Except.ok.inj hitems
      intro p hp
      obtain ⟨c, -, rfl⟩ := List.mem_map.mp hp
      exact trivial
    | null =>
      obtain rfl := Except.ok.inj hitems
      exact fun p hp => absurd hp (by simp)
    | arr items => exact absurd h (by simp [Value.IsDumped])
    | obj es => exact absurd h (by simp [Value.IsDumped])
    | _ => exact absurd hitems (by simp [Value.items])
  | entries es => exact absurd h (by simp [Value.IsDumped])
  | _ => exact absurd hitems (by simp [Value.items])

/-! ### Functions and classes -/

/-- The body of a function that is an expression. -/
def functionBody? : Node → Option Node
  | .mk _ (.functionNode .expression body _ _ _) => body
  | .mk _ (.functionNode .arrow body _ _ _) => body
  | _ => none

/-- The body of a function or a class that is an expression. -/
def expressionBody? : Node → Option Node
  | .mk _ (.classNode .expression body _ _) => body
  | n => n.functionBody?

theorem expressionBody?_of_functionBody? {n b : Node} (h : n.functionBody? = some b) :
    n.expressionBody? = some b := by
  obtain ⟨range, shape⟩ := n
  cases shape with
  | classNode form body id superClass => exact absurd h (by simp [functionBody?])
  | _ => exact h

theorem mem_children_of_expressionBody? {n b : Node} (h : n.expressionBody? = some b) :
    b ∈ n.children := by
  obtain ⟨range, shape⟩ := n
  cases shape with
  | functionNode form body params id expression =>
    cases form with
    | declaration => exact absurd h (by simp [expressionBody?, functionBody?])
    | _ =>
      obtain rfl : body = some b := h
      exact List.mem_append_right _ List.mem_cons_self
  | classNode form body id superClass =>
    cases form with
    | declaration => exact absurd h (by simp [expressionBody?, functionBody?])
    | expression =>
      obtain rfl : body = some b := h
      exact List.mem_append_right _ List.mem_cons_self
  | _ => exact absurd h (by simp [expressionBody?, functionBody?])

/-- The kinds of functions and classes have shapes of their own. -/
theorem IsDumped.not_function_of_other {range : Option Range} {type : Text}
    {es : List (Text × Entry)} (h : (Node.mk range (.other type es)).IsDumped) :
    functionKinds.contains type = false ∧ (type == ClassForm.expression.type) = false := by
  have hslots := h.other.1
  constructor
  · refine Bool.eq_false_iff.mpr fun hc => ?_
    have hc : type ∈ functionKinds := List.contains_iff_mem.mp hc
    simp only [functionKinds, List.mem_cons, List.not_mem_nil, or_false] at hc
    rcases hc with rfl | rfl
    · exact absurd hslots (by decide)
    · exact absurd hslots (by decide)
  · refine beq_false_of_ne ?_
    rintro rfl
    exact absurd hslots (by decide)

theorem at?_body_function (range : Option Range) (form : FunctionForm) (body : Option Node)
    (params : List (Option Node)) (id : Option Node) (expression : Bool) :
    (Value.node (.mk range (.functionNode form body params id expression))).at? ["body"] =
      body.map .node := by
  cases body <;> rfl

theorem at?_body_class (range : Option Range) (form : ClassForm)
    (body id superClass : Option Node) :
    (Value.node (.mk range (.classNode form body id superClass))).at? ["body"] =
      body.map .node := by
  cases body <;> rfl

/-- The statements of a function are those of its body. -/
theorem itemsAt_body_function (range : Option Range) (form : FunctionForm) (body : Option Node)
    (params : List (Option Node)) (id : Option Node) (expression : Bool) :
    (Value.node (.mk range (.functionNode form body params id expression))).itemsAt
        ["body", "body"] = body.elim (.ok []) fun b => (Value.node b).itemsAt ["body"] := by
  rw [Value.itemsAt, Value.at?_cons, at?_body_function]
  cases body <;> rfl

theorem itemsAt_body_class (range : Option Range) (form : ClassForm)
    (body id superClass : Option Node) :
    (Value.node (.mk range (.classNode form body id superClass))).itemsAt ["body", "body"] =
      body.elim (.ok []) fun b => (Value.node b).itemsAt ["body"] := by
  rw [Value.itemsAt, Value.at?_cons, at?_body_class]
  cases body <;> rfl

theorem IsDumped.itemsAt_function {n : Node} (h : n.IsDumped) :
    (if functionKinds.contains n.type = true then (Value.node n).itemsAt ["body", "body"]
      else .ok []) = n.functionBody?.elim (.ok []) fun b => (Value.node b).itemsAt ["body"] := by
  obtain ⟨range, shape⟩ := n
  cases shape with
  | functionNode form body params id expression =>
    cases form with
    | declaration => rfl
    | _ => exact itemsAt_body_function range _ body params id expression
  | other type es =>
    refine if_neg (Bool.eq_false_iff.mp ?_)
    exact h.not_function_of_other.1
  | classNode form body id superClass => cases form <;> rfl
  | _ => rfl

theorem IsDumped.itemsAt_expression {n : Node} (h : n.IsDumped) :
    (if (functionKinds.contains n.type || n.type == ClassForm.expression.type) = true then
      (Value.node n).itemsAt ["body", "body"] else .ok []) =
      n.expressionBody?.elim (.ok []) fun b => (Value.node b).itemsAt ["body"] := by
  obtain ⟨range, shape⟩ := n
  cases shape with
  | functionNode form body params id expression =>
    cases form with
    | declaration => rfl
    | _ => exact itemsAt_body_function range _ body params id expression
  | classNode form body id superClass =>
    cases form with
    | declaration => rfl
    | expression => exact itemsAt_body_class range _ body id superClass
  | other type es =>
    refine if_neg (Bool.eq_false_iff.mp ?_)
    exact Bool.or_eq_false_iff.mpr h.not_function_of_other
  | _ => rfl

theorem fails_itemsAt_body_iff {body : Option Node} :
    Fails (body.elim (.ok []) fun b => (Value.node b).itemsAt ["body"]) ↔
      body.any hasLoneBody = true := by
  cases body with
  | none => exact iff_of_false not_fails_ok (by simp)
  | some b =>
    rw [Option.elim_some, Value.fails_itemsAt_iff, any_isLone_body]
    rfl

/-! ### Arguments -/

/-- The argument of a call at a place. Nodes of kinds without a shape of their own may have
arguments as well. -/
def argument? (place : Nat) : Node → Option Node
  | .mk _ (.callExpression _ arguments) => arguments[place]?.join
  | .mk _ (.other _ es) =>
    match es.lookup ("arguments" : Text) with
    | some (.children nodes) => nodes[place]?.join
    | _ => none
  | _ => none

theorem mem_children_of_argument? {n c : Node} {place : Nat} (h : n.argument? place = some c) :
    c ∈ n.children := by
  obtain ⟨range, shape⟩ := n
  have hmem (l : List (Option Node)) (h : l[place]?.join = some c) : c ∈ l.filterMap id := by
    obtain ⟨o, ho, rfl⟩ : ∃ o, l[place]? = some o ∧ o = some c := by
      cases hl : l[place]? with
      | none => rw [hl] at h; exact absurd h (by simp)
      | some o => rw [hl] at h; exact ⟨o, rfl, h⟩
    exact List.mem_filterMap.mpr ⟨some c, List.mem_of_getElem? ho, rfl⟩
  cases shape with
  | callExpression callee arguments => exact List.mem_append_right _ (hmem arguments h)
  | other type es =>
    rw [argument?] at h
    split at h
    · rename_i nodes hlookup
      exact List.mem_flatMap.mpr ⟨("arguments", .children nodes), mem_of_lookup hlookup,
        hmem nodes h⟩
    · exact absurd h (by simp)
  | _ => exact absurd h (by simp [argument?])

theorem step?_natCast (v : Value) (place : Nat) :
    v.step? (.position place) =
      match v with
      | .plain (.arr items) => (items[place]?).bind fun item => (Value.plain item).present?
      | .nodes ns => (ns[place]?).bind fun child => (Value.ofChild child).present?
      | _ => none := by
  have hnonneg : ¬(place : Int) < 0 := by omega
  unfold Value.step?
  dsimp only
  rw [if_neg hnonneg]
  rfl

theorem step?_nodes (l : List (Option Node)) (place : Nat) :
    (Value.nodes l).step? (.position place) = (l[place]?.join).map Value.node := by
  rw [step?_natCast]
  dsimp only
  cases l[place]? with
  | none => rfl
  | some c => cases c <;> rfl

end Node

end AngularLint
