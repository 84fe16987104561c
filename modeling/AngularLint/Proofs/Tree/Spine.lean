import AngularLint.Proofs.Tree.Preorder
import AngularLint.Tree.Chain

/-!
# The spine of a call chain

`Node.linkNamed?` and `Node.root?` both go inward along a chain, each with a loop of its own and a
reason of its own to stop. What they go along is the same: the **spine**, which is a node, then the
callee of each call and the object of each member access, up to a node that is neither or that lacks
the way on.

With the spine as a list both loops are library functions. The link with a name is the first element
that passes a test (`linkNamed?_eq_find?`), and the root is the last element, if it is an identifier
(`root?_eq_getLast?`). What a chain is built from, link by link, is then a matter of what its spine
begins and ends with (`spine_chain`).
-/

set_option autoImplicit false

namespace AngularLint

/-- The name of a node: what an identifier is called, and for a node without a shape of its own the
text that it has as its `name`. No other node has a name. -/
def Node.name? : Node → Option Text
  | .mk _ (.identifier text) => some text
  | .mk _ (.other _ entries) =>
    match entries.lookup ("name" : Text) with
    | some (.plain (.str text)) => some text
    | _ => none
  | _ => none

namespace Value

theorem str?_at?_name (n : Node) : ((node n).at? ["name"]).bind str? = n.name? := by
  obtain ⟨range, shape⟩ := n
  cases shape with
  | other type es =>
    show (((((es.lookup ("name" : Text)).map Entry.value).bind present?).bind some).bind str?) = _
    rw [Option.bind_fun_some, Node.name?]
    cases es.lookup ("name" : Text) with
    | none => rfl
    | some e =>
      cases e with
      | child n => cases n <;> rfl
      | children ns => rfl
      | plain value => cases value <;> rfl
  | _ => rfl

theorem isNamed_node (name : Text) (n : Node) : (node n).isNamed name = (n.name? == some name) :=
  congrArg (· == some name) (str?_at?_name n)

theorem isNamed_ofChild (name : Text) (n : Option Node) :
    (ofChild n).isNamed name = (n.bind Node.name? == some name) := by
  cases n with
  | none => rfl
  | some n => exact isNamed_node name n

end Value

namespace Node

/-- The way inward: to the object of a member access, and to the callee of a call. -/
def inward? : Node → Option Node
  | .mk _ (.memberExpression object _ _) => object
  | .mk _ (.callExpression callee _) => callee
  | _ => none

theorem mem_children_of_inward? {n m : Node} (h : n.inward? = some m) : m ∈ n.children := by
  obtain ⟨range, shape⟩ := n
  cases shape with
  | memberExpression object property computed =>
    obtain rfl : object = some m := h
    exact List.mem_append_left _ List.mem_cons_self
  | callExpression callee arguments =>
    obtain rfl : callee = some m := h
    exact List.mem_append_left _ List.mem_cons_self
  | _ => exact absurd h (by simp [inward?])

/-- A node and all that lies inward from it. -/
def spine (n : Node) : List Node :=
  match _h : n.inward? with
  | none => [n]
  | some m => n :: m.spine
termination_by sizeOf n
decreasing_by exact sizeOf_lt_of_mem_children (mem_children_of_inward? _h)

theorem spine_of_none {n : Node} (h : n.inward? = none) : n.spine = [n] := by
  rw [spine]
  split
  · rfl
  · rename_i m hm
    exact absurd (h.symm.trans hm) (by simp)

theorem spine_of_some {n m : Node} (h : n.inward? = some m) : n.spine = n :: m.spine := by
  rw [spine]
  split
  · rename_i hnone
    exact absurd (h.symm.trans hnone) (by simp)
  · rename_i m' hm'
    obtain rfl : m = m' := Option.some.inj (h.symm.trans hm')
    rfl

theorem spine_ne_nil (n : Node) : n.spine ≠ [] := by
  cases h : n.inward? with
  | none => rw [spine_of_none h]; exact List.cons_ne_nil _ _
  | some m => rw [spine_of_some h]; exact List.cons_ne_nil _ _

theorem getLast?_spine_of_some {n m : Node} (h : n.inward? = some m) :
    n.spine.getLast? = m.spine.getLast? := by
  rw [spine_of_some h, List.getLast?_cons, List.getLast?_eq_some_getLast m.spine_ne_nil]
  rfl

/-- Only the end of a spine leads no further inward. -/
theorem getLast?_spine_of_mem {n m : Node} (h : m ∈ n.spine) (hnone : m.inward? = none) :
    n.spine.getLast? = some m := by
  induction n using spine.induct with
  | case1 n hn =>
    rw [spine_of_none hn, List.mem_singleton] at h
    rw [spine_of_none hn, h]
    rfl
  | case2 n c hn ih =>
    rw [getLast?_spine_of_some hn]
    rw [spine_of_some hn] at h
    rcases List.mem_cons.mp h with rfl | hinner
    · exact absurd (hn.symm.trans hnone) (by simp)
    · exact ih hinner

/-! ## The two loops -/

/-- Is the node a member access whose property has the name? -/
def accesses (name : Text) : Node → Bool
  | .mk _ (.memberExpression _ property _) => property.bind name? == some name
  | _ => false

/-- Is the node an identifier? -/
def isIdentifier : Node → Bool
  | .mk _ (.identifier _) => true
  | _ => false

/-- Is the node the identifier with the name? -/
def isIdentifierOf (name : Text) : Node → Bool
  | .mk _ (.identifier text) => text == name
  | _ => false

/-- **The link with a name is the first on the spine** that accesses the name, or is an identifier
with that name. -/
theorem linkNamed?_eq_find? (name : Text) (n : Node) :
    n.linkNamed? name = n.spine.find? fun m => m.accesses name || m.isIdentifierOf name := by
  induction n using spine.induct with
  | case1 n hnone =>
    rw [spine_of_none hnone]
    obtain ⟨range, shape⟩ := n
    cases shape with
    | memberExpression object property computed =>
      obtain rfl : object = none := hnone
      rw [linkNamed?, List.find?_singleton, Value.isNamed_ofChild]
      simp only [accesses, isIdentifierOf, Bool.or_false]
    | callExpression callee arguments =>
      obtain rfl : callee = none := hnone
      rfl
    | identifier text =>
      rw [linkNamed?, List.find?_singleton]
      simp only [accesses, isIdentifierOf, Bool.false_or]
    | _ => rfl
  | case2 n m hsome ih =>
    -- A member access is the link or leaves it to its object, and a call always leaves it to its
    -- callee; that a call passes no test is what makes the two agree.
    rw [spine_of_some hsome]
    obtain ⟨range, shape⟩ := n
    cases shape with
    | memberExpression object property computed =>
      obtain rfl : object = some m := hsome
      rw [linkNamed?, List.find?_cons, ← ih, Value.isNamed_ofChild]
      simp only [accesses, isIdentifierOf, Bool.or_false]
      cases property.bind name? == some name <;> rfl
    | callExpression callee arguments =>
      obtain rfl : callee = some m := hsome
      rw [linkNamed?, List.find?_cons, ← ih]
      rfl
    | _ => exact absurd hsome (by simp [inward?])

/-- **The root is the end of the spine**, if that is an identifier. -/
theorem root?_eq_getLast? (n : Node) : n.root? = n.spine.getLast?.filter isIdentifier := by
  induction n using spine.induct with
  | case1 n hnone =>
    rw [spine_of_none hnone]
    obtain ⟨range, shape⟩ := n
    cases shape with
    | memberExpression object property computed =>
      obtain rfl : object = none := hnone
      rfl
    | callExpression callee arguments =>
      obtain rfl : callee = none := hnone
      rfl
    | _ => rfl
  | case2 n m hsome ih =>
    rw [getLast?_spine_of_some hsome, ← ih]
    obtain ⟨range, shape⟩ := n
    cases shape with
    | memberExpression object property computed =>
      obtain rfl : object = some m := hsome
      rw [root?]
    | callExpression callee arguments =>
      obtain rfl : callee = some m := hsome
      rw [root?]
    | _ => exact absurd hsome (by simp [inward?])

/-! ## A walk stops at every node of the spine -/

theorem exists_mem_preorder_of_mem_spine {n m : Node} (h : m ∈ n.spine) (around : List Node) :
    ∃ ancestors, ⟨m, ancestors⟩ ∈ n.preorder around := by
  induction n using spine.induct generalizing around with
  | case1 n hnone =>
    rw [spine_of_none hnone, List.mem_singleton] at h
    subst h
    rw [preorder_eq]
    exact ⟨around, List.mem_cons_self⟩
  | case2 n c hsome ih =>
    rw [spine_of_some hsome] at h
    rw [preorder_eq]
    rcases List.mem_cons.mp h with rfl | hinner
    · exact ⟨around, List.mem_cons_self⟩
    · obtain ⟨ancestors, hmem⟩ := ih hinner (around ++ [n])
      refine ⟨ancestors, List.mem_cons_of_mem _ (List.mem_flatMap.mpr ⟨c, ?_, hmem⟩)⟩
      exact mem_children_of_inward? hsome

/-- From a node on a walk goes through the tree of the node. -/
theorem mem_preorder_of_mem_preorder {root : Node} {around : List Node} {visit : Visit}
    (h : visit ∈ root.preorder around) :
    ∀ inside ∈ visit.node.preorder visit.ancestors, inside ∈ root.preorder around := by
  induction around, root using preorder.induct with
  | case1 around root ih =>
    intro inside hinside
    rw [preorder_eq, List.mem_cons, List.mem_flatMap] at h
    rcases h with rfl | ⟨c, hc, hvisit⟩
    · exact hinside
    · rw [preorder_eq, List.mem_cons, List.mem_flatMap]
      exact .inr ⟨c, hc, ih c hc hvisit inside hinside⟩

theorem exists_visit_of_mem_spine {tree : Option Node} {visit : Visit}
    (h : visit ∈ tree.toList.flatMap visits) {m : Node} (hm : m ∈ visit.node.spine) :
    ∃ inside ∈ tree.toList.flatMap visits, inside.node = m := by
  obtain ⟨root, hroot, hvisit⟩ := List.mem_flatMap.mp h
  rw [visits_eq_preorder] at hvisit
  obtain ⟨ancestors, hmem⟩ := exists_mem_preorder_of_mem_spine hm visit.ancestors
  refine ⟨⟨m, ancestors⟩, List.mem_flatMap.mpr ⟨root, hroot, ?_⟩, rfl⟩
  rw [visits_eq_preorder]
  exact mem_preorder_of_mem_preorder hvisit _ hmem

end Node

/-! ## Building a chain -/

/-- What one link of a chain adds to it: `.property(arguments)`. -/
structure Link where
  callRange : Option Range
  memberRange : Option Range
  property : Option Node
  computed : Bool
  arguments : List (Option Node)

namespace Link

def name? (k : Link) : Option Text := k.property.bind Node.name?

/-- The member access of a link, which is the callee of its call. -/
def access (n : Node) (k : Link) : Node :=
  .mk k.memberRange (.memberExpression (some n) k.property k.computed)

/-- The call of a link. -/
def onto (n : Node) (k : Link) : Node :=
  .mk k.callRange (.callExpression (some (k.access n)) k.arguments)

theorem spine_onto (n : Node) (k : Link) :
    (k.onto n).spine = k.onto n :: k.access n :: n.spine := by
  rw [Node.spine_of_some (m := k.access n) rfl, Node.spine_of_some (m := n) rfl]

end Link

namespace Node

/-- The chain of links, the first of them innermost. -/
def chain (root : Node) (links : List Link) : Node := links.foldl Link.onto root

theorem chain_append (root : Node) (inner outer : List Link) :
    chain root (inner ++ outer) = chain (chain root inner) outer :=
  List.foldl_append

/-- **The spine of a chain ends with the spine of its root**, whatever its links. -/
theorem spine_chain (root : Node) (links : List Link) :
    ∃ outer, (chain root links).spine = outer ++ root.spine := by
  induction links generalizing root with
  | nil => exact ⟨[], rfl⟩
  | cons k rest ih =>
    obtain ⟨outer, houter⟩ := ih (k.onto root)
    refine ⟨outer ++ [k.onto root, k.access root], ?_⟩
    rw [chain, List.foldl_cons, ← chain, houter, Link.spine_onto, List.append_assoc]
    rfl

theorem mem_spine_chain {root m : Node} (links : List Link) (h : m ∈ root.spine) :
    m ∈ (chain root links).spine := by
  obtain ⟨outer, houter⟩ := spine_chain root links
  rw [houter]
  exact List.mem_append_right _ h

theorem getLast?_spine_chain (root : Node) (links : List Link) :
    (chain root links).spine.getLast? = root.spine.getLast? := by
  obtain ⟨outer, houter⟩ := spine_chain root links
  rw [houter, List.getLast?_append, List.getLast?_eq_some_getLast root.spine_ne_nil]
  rfl

end Node

end AngularLint
