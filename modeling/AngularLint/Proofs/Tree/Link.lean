import AngularLint.Proofs.Angular.Registration
import AngularLint.Proofs.Tree.Lookup

/-!
# Links and the root, from any value

A look-up for a link may start anywhere, also at a value that is no node, and the way inward may
lead to nothing. `Value.spine` is what it goes along: a value, then what each call has for a callee
and each member access for an object, up to the first value that is neither, which may be absence.

**`Value.linkNamed?_on_spine`** says where on it the two look-ups end. The link with a name is the
first element that has it, so nothing outside the link has the name; the root is the last element.
As every part of a spine that goes on to its end is a spine again (`spine_of_eq_append`), a link has
the root of the chain that it was found in.
-/

set_option autoImplicit false

namespace AngularLint

namespace Value

/-- The way inward: to the object of a member access, and to the callee of a call, be it there or
not. -/
def inward? : Value → Option Value
  | node (.mk _ (.memberExpression object _ _)) => some (ofChild object)
  | node (.mk _ (.callExpression callee _)) => some (ofChild callee)
  | _ => none

theorem extent_lt_of_inward? {v w : Value} (h : v.inward? = some w) : w.extent < v.extent := by
  unfold inward? at h
  split at h
  · rename_i range object property computed
    obtain rfl := Option.some.inj h
    have hobject := extent_ofChild_lt object
    simp only [extent_node, Node.mk.sizeOf_spec, Shape.memberExpression.sizeOf_spec]
    omega
  · rename_i range callee arguments
    obtain rfl := Option.some.inj h
    have hcallee := extent_ofChild_lt callee
    simp only [extent_node, Node.mk.sizeOf_spec, Shape.callExpression.sizeOf_spec]
    omega
  · exact absurd h (by simp)

/-- A value and all that lies inward from it. -/
def spine (v : Value) : List Value :=
  match _h : v.inward? with
  | none => [v]
  | some w => v :: w.spine
termination_by v.extent
decreasing_by exact extent_lt_of_inward? _h

theorem spine_of_none {v : Value} (h : v.inward? = none) : v.spine = [v] := by
  rw [spine]
  split
  · rfl
  · rename_i w hw
    exact absurd (h.symm.trans hw) (by simp)

theorem spine_of_some {v w : Value} (h : v.inward? = some w) : v.spine = v :: w.spine := by
  rw [spine]
  split
  · rename_i hnone
    exact absurd (h.symm.trans hnone) (by simp)
  · rename_i w' hw'
    obtain rfl : w = w' := Option.some.inj (h.symm.trans hw')
    rfl

theorem head?_spine (v : Value) : v.spine.head? = some v := by
  cases h : v.inward? with
  | none => rw [spine_of_none h]; rfl
  | some w => rw [spine_of_some h]; rfl

theorem getLast?_spine_of_inward? {v w : Value} (h : v.inward? = some w) :
    v.spine.getLast? = w.spine.getLast? := by
  have hne : w.spine ≠ [] := by
    intro hnil
    have hhead := w.head?_spine
    rw [hnil] at hhead
    exact absurd hhead (by simp)
  rw [spine_of_some h, List.getLast?_cons, List.getLast?_eq_some_getLast hne]
  rfl

/-- **What lies inward from an element of a spine is the rest of the spine.** -/
theorem spine_of_eq_append {v w : Value} {outer inner : List Value}
    (h : v.spine = outer ++ w :: inner) : w.spine = w :: inner := by
  induction outer generalizing v with
  | nil =>
    have hhead := v.head?_spine
    rw [h] at hhead
    obtain rfl : w = v := Option.some.inj hhead
    exact h
  | cons first outer ih =>
    cases hinward : v.inward? with
    | none =>
      rw [spine_of_none hinward] at h
      exact absurd (List.cons.inj h).2.symm (by simp)
    | some next =>
      rw [spine_of_some hinward] at h
      exact ih (List.cons.inj h).2

/-! ## The two look-ups -/

/-- The nodes on the spine of a node are those that `Node.spine` has. -/
theorem filterMap_node?_spine (n : Node) : (node n).spine.filterMap node? = n.spine := by
  induction n using Node.spine.induct with
  | case1 n hnone =>
    rw [Node.spine_of_none hnone]
    -- There may be a way inward, but then it leads to nothing.
    have hstop (h : (node n).inward? = some absent) : (node n).spine.filterMap node? = [n] := by
      rw [spine_of_some h, spine_of_none rfl]
      rfl
    obtain ⟨range, shape⟩ := n
    cases shape with
    | memberExpression object property computed =>
      obtain rfl : object = none := hnone
      exact hstop rfl
    | callExpression callee arguments =>
      obtain rfl : callee = none := hnone
      exact hstop rfl
    | _ =>
      rw [spine_of_none rfl]
      rfl
  | case2 n m hsome ih =>
    have hinward : (node n).inward? = some (node m) := by
      obtain ⟨range, shape⟩ := n
      cases shape with
      | memberExpression object property computed =>
        obtain rfl : object = some m := hsome
        rfl
      | callExpression callee arguments =>
        obtain rfl : callee = some m := hsome
        rfl
      | _ => exact absurd hsome (by simp [Node.inward?])
    rw [Node.spine_of_some hsome, spine_of_some hinward, ← ih]
    rfl

theorem filterMap_node?_spine_of_not_node {v : Value} (h : v.node? = none) :
    v.spine.filterMap node? = [] := by
  cases v with
  | node n => exact absurd h (by simp [node?])
  | _ =>
    rw [spine_of_none rfl]
    rfl

/-- Is the value a member access whose property has the name? -/
def accesses (name : Text) (v : Value) : Bool := v.node?.any (·.accesses name)

/-- Does the value have the name that a look-up for a link asks for? -/
def answers (name : Text) (v : Value) : Bool :=
  v.node?.any fun n => n.accesses name || n.isIdentifierOf name

/-- **The link with a name is the first on the spine** that has it. -/
theorem linkNamed?_eq_find?_spine (name : Text) (v : Value) :
    v.linkNamed? name = (v.spine.find? (answers name)).bind node? := by
  have hfind (nodes : List Node) (h : v.spine.filterMap node? = nodes) :
      nodes.find? (fun n => n.accesses name || n.isIdentifierOf name) =
        (v.spine.find? (answers name)).bind node? := by
    rw [← h, List.find?_filterMap]
    rfl
  cases hnode : v.node? with
  | none =>
    rw [← hfind [] (filterMap_node?_spine_of_not_node hnode), linkNamed?, hnode]
    rfl
  | some n =>
    obtain rfl := eq_node_of_node? hnode
    rw [← hfind n.spine (filterMap_node?_spine n)]
    exact n.linkNamed?_eq_find? name

theorem answers_eq_true_iff {name : Text} {v : Value} :
    v.answers name = true ↔
      v.accesses name = true ∨ ∃ range, v = .node (.mk range (.identifier name)) := by
  cases v with
  | node n =>
    obtain ⟨range, shape⟩ := n
    cases shape <;> simp [answers, accesses, node?, Node.isIdentifierOf]
  | _ => simp [answers, accesses, node?]

theorem answers_eq_false_iff {name : Text} {v : Value} :
    v.answers name = false ↔
      v.accesses name = false ∧ ∀ range, v ≠ .node (.mk range (.identifier name)) := by
  rw [Bool.eq_false_iff, ne_eq, answers_eq_true_iff, not_or, not_exists, Bool.not_eq_true]

theorem root?_of_some {v w : Value} (h : v.inward? = some w) : v.root? = w.root? := by
  have hchild (child : Option Node) : (ofChild child).root? = child.bind (·.root?) := by
    cases child <;> rfl
  unfold inward? at h
  split at h
  · rename_i range object property computed
    obtain rfl := Option.some.inj h
    rw [hchild]
    cases object <;> rfl
  · rename_i range callee arguments
    obtain rfl := Option.some.inj h
    rw [hchild]
    cases callee <;> rfl
  · exact absurd h (by simp)

theorem root?_of_none {v : Value} (h : v.inward? = none) :
    v.root? = v.node?.filter (·.isIdentifier) := by
  cases v with
  | node n =>
    obtain ⟨range, shape⟩ := n
    cases shape with
    | memberExpression object property computed => exact absurd h (by simp [inward?])
    | callExpression callee arguments => exact absurd h (by simp [inward?])
    | _ => rfl
  | _ => rfl

/-- **The root is the end of the spine**, if that is an identifier. -/
theorem root?_eq_getLast?_spine (v : Value) :
    v.root? = v.spine.getLast?.bind fun last => last.node?.filter (·.isIdentifier) := by
  induction v using spine.induct with
  | case1 v hnone =>
    rw [spine_of_none hnone, root?_of_none hnone]
    rfl
  | case2 v w hsome ih => rw [getLast?_spine_of_inward? hsome, root?_of_some hsome, ih]

theorem root?_eq_some_iff {v : Value} {m : Node} :
    v.root? = some m ↔ v.spine.getLast? = some (.node m) ∧ m.isIdentifier = true := by
  rw [root?_eq_getLast?_spine, Option.bind_eq_some_iff]
  constructor
  · rintro ⟨last, hlast, hfilter⟩
    obtain ⟨hnode, hidentifier⟩ := Option.filter_eq_some_iff.mp hfilter
    obtain rfl := eq_node_of_node? hnode
    exact ⟨hlast, hidentifier⟩
  · rintro ⟨hlast, hidentifier⟩
    exact ⟨.node m, hlast, Option.filter_eq_some_iff.mpr ⟨rfl, hidentifier⟩⟩

/-- Every node of a spine has the same root. -/
theorem root?_of_spine_eq_append {v w : Value} {outer inner : List Value}
    (h : v.spine = outer ++ w :: inner) : w.root? = v.root? := by
  rw [root?_eq_getLast?_spine, root?_eq_getLast?_spine, spine_of_eq_append h, h,
    List.getLast?_append, List.getLast?_cons]
  rfl

theorem bind_find?_eq_none_iff {name : Text} {spine : List Value} :
    (spine.find? (answers name)).bind node? = none ↔ ∀ w ∈ spine, w.answers name = false := by
  simp only [← Bool.not_eq_true]
  rw [← List.find?_eq_none]
  constructor
  · intro h
    refine Option.eq_none_iff_forall_ne_some.mpr fun w hw => ?_
    have hanswers := List.find?_some hw
    rw [hw, Option.bind_some] at h
    exact absurd hanswers (by simp [answers, h])
  · intro h
    rw [h]
    rfl

theorem root?_of_identifier (range : Option Range) (name : Text) :
    (Value.node (.mk range (.identifier name))).root? = some (.mk range (.identifier name)) := rfl

/-- **Where the look-ups end.** The link with a name is the first on the spine that has it, and the
root is the end of the spine, if that is an identifier. A link has the root of the chain that it is
found in, and is an identifier only if it is that root. -/
theorem linkNamed?_on_spine (name : Text) (v : Value) :
    (v.linkNamed? name = none ↔
      (∀ w ∈ v.spine, w.accesses name = false) ∧
        ∀ range, v.spine.getLast? ≠ some (.node (.mk range (.identifier name)))) ∧
      (∀ m, v.linkNamed? name = some m →
        (m.accesses name = true ∨ ∃ range, m = .mk range (.identifier name)) ∧
          (∃ outer inner, v.spine = outer ++ .node m :: inner ∧
            ∀ w ∈ outer, w.accesses name = false ∧
              ∀ range, w ≠ .node (.mk range (.identifier name))) ∧
          (Value.node m).root? = v.root? ∧ (m.isIdentifier = true → v.root? = some m)) ∧
      ∀ m, v.root? = some m ↔ v.spine.getLast? = some (.node m) ∧ m.isIdentifier = true := by
  refine ⟨?_, ?_, fun m => root?_eq_some_iff⟩
  · rw [linkNamed?_eq_find?_spine, bind_find?_eq_none_iff]
    simp only [answers_eq_false_iff]
    constructor
    · intro h
      refine ⟨fun w hw => (h w hw).1, fun range hlast => ?_⟩
      exact (h _ (List.mem_of_getLast? hlast)).2 range rfl
    · rintro ⟨haccesses, hlast⟩ w hw
      refine ⟨haccesses w hw, ?_⟩
      -- An identifier that has the name would be the end of the spine.
      rintro range rfl
      obtain ⟨outer, inner, hspine⟩ := List.append_of_mem hw
      have hroot := (root?_of_spine_eq_append hspine).symm.trans (root?_of_identifier range name)
      exact hlast range (root?_eq_some_iff.mp hroot).1
  · intro m hm
    rw [linkNamed?_eq_find?_spine] at hm
    obtain ⟨w, hfind, hnode⟩ := Option.bind_eq_some_iff.mp hm
    obtain rfl := eq_node_of_node? hnode
    obtain ⟨hanswers, outer, inner, hspine, houter⟩ := List.find?_eq_some_iff_append.mp hfind
    have hroot : (Value.node m).root? = v.root? := root?_of_spine_eq_append hspine
    refine ⟨?_, ⟨outer, inner, hspine, fun w hw => ?_⟩, hroot, fun hidentifier => ?_⟩
    · rcases answers_eq_true_iff.mp hanswers with haccesses | ⟨range, hidentifier⟩
      · exact .inl haccesses
      · exact .inr ⟨range, Value.node.inj hidentifier⟩
    · exact answers_eq_false_iff.mp (Bool.not_eq_eq_eq_not.mp (houter w hw))
    · obtain ⟨range, shape⟩ := m
      cases shape with
      | identifier text => rw [← hroot, root?_of_identifier]
      | _ => exact absurd hidentifier (by simp [Node.isIdentifier])

open Registration in
/-- In a chain with two links of a name, the outer one is found; it has the root of the chain. -/
theorem linkNamed?_plainLinks :
    let root : Node := .mk none (.identifier "app")
    let m := (plainLink "run").access (Node.chain root [plainLink "run", plainLink "config"])
    let v := Value.node (Node.chain root [plainLink "run", plainLink "config", plainLink "run"])
    v.linkNamed? "run" = some m ∧ (Value.node m).root? = some root ∧
      ∃ outer inner, v.spine = outer ++ .node m :: inner ∧
        ∀ w ∈ outer, w.accesses "run" = false := by
  intro root m v
  obtain ⟨-, hlink, -⟩ := linkNamed?_on_spine "run" v
  obtain ⟨-, ⟨outer, inner, hspine, houter⟩, hroot, -⟩ := hlink m rfl
  exact ⟨rfl, hroot.trans rfl, outer, inner, hspine, fun w hw => (houter w hw).1⟩

end Value

end AngularLint
