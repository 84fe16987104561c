import AngularLint.Tree.Walk

/-!
# A walk is the recursion over the tree

`Node.visits` walks with a stack of levels and a list of enclosing nodes that it pushes and pops
(`Tree/Walk.lean`). What it should give is said without any stack: the root with the nodes around
it, and then the same for every child, with the root around the child as well. That is
`Node.preorder`, and this file proves the two equal:

> **`visits_eq_preorder`**: `n.visits = n.preorder []`.

The one thing to find is what a walk that is under way still has to do, and `run_level` says it: a
walk first gives the preorder of every node of its innermost level, *inside the nodes that enclose
it now*, and then goes on as if that level had been empty. The stack of levels and the list of
enclosing nodes stay aligned because leaving a level takes one entry off both.
-/

set_option autoImplicit false

namespace AngularLint

namespace Node

/-- The visits of a tree by recursion, for a root that the nodes `around` enclose. -/
def preorder (around : List Node) (n : Node) : List Visit :=
  ⟨n, around⟩ :: n.children.attach.flatMap fun ⟨c, _⟩ => c.preorder (around ++ [n])
termination_by sizeOf n
decreasing_by rename_i h; exact sizeOf_lt_of_mem_children h

theorem preorder_eq (around : List Node) (n : Node) :
    n.preorder around = ⟨n, around⟩ :: n.children.flatMap (preorder (around ++ [n])) := by
  rw [preorder, List.flatMap_subtype (g := preorder (around ++ [n])) fun _ _ => rfl,
    List.unattach_attach]

/-- The number of nodes in the trees of a level. -/
def countAll (level : List Node) : Nat := total (level.map count)

theorem countAll_children_lt (n : Node) : countAll n.children < n.count := by
  rw [count_eq, countAll]
  omega

end Node

namespace Walk

open Node

theorem run_eq (w : Walk) :
    w.run = match w.step with
      | none => []
      | some (none, w') => w'.run
      | some (some visit, w') => visit :: w'.run := by
  rw [run]
  split
  · rename_i hstep; rw [hstep]
  · rename_i w' hstep; rw [hstep]
  · rename_i visit w' hstep; rw [hstep]

theorem run_nil (enclosing : List Node) : run ⟨[], enclosing⟩ = [] := by
  rw [run_eq]
  rfl

theorem run_leave (outer : List (List Node)) (enclosing : List Node) :
    run ⟨[] :: outer, enclosing⟩ = run ⟨outer, enclosing.drop 1⟩ := by
  rw [run_eq]
  rfl

theorem run_enter (n : Node) (level : List Node) (outer : List (List Node))
    (enclosing : List Node) :
    run ⟨(n :: level) :: outer, enclosing⟩ =
      ⟨n, enclosing.reverse⟩ :: run ⟨n.children :: level :: outer, n :: enclosing⟩ := by
  rw [run_eq]
  rfl

/-- **What a walk under way still has to do.** The induction is on the number of nodes on and below
the innermost level: both the children of its first node and the rest of it have fewer. -/
theorem run_level (level : List Node) (outer : List (List Node)) (enclosing : List Node) :
    run ⟨level :: outer, enclosing⟩ =
      level.flatMap (preorder enclosing.reverse) ++ run ⟨outer, enclosing.drop 1⟩ := by
  induction h : countAll level using Nat.strongRecOn generalizing level outer enclosing with
  | ind size ih =>
    subst h
    cases level with
    | nil => rw [run_leave, List.flatMap_nil, List.nil_append]
    | cons n rest =>
      have hchildren : countAll n.children < countAll (n :: rest) := by
        have := countAll_children_lt n
        simp only [countAll, List.map_cons, total_cons] at this ⊢
        omega
      have hrest : countAll rest < countAll (n :: rest) := by
        have := n.count_eq
        simp only [countAll, List.map_cons, total_cons]
        omega
      -- Entering `n` puts its children on a level of their own and `n` around them; the two steps
      -- of the induction are that level, and then the rest of the level that `n` was on.
      rw [run_enter, ih _ hchildren _ _ _ rfl, List.drop_succ_cons, List.drop_zero,
        ih _ hrest _ _ _ rfl, List.flatMap_cons, preorder_eq, List.reverse_cons]
      simp only [List.cons_append, List.append_assoc]

end Walk

/-- **A walk is the recursion over the tree.** -/
theorem Node.visits_eq_preorder (n : Node) : n.visits = n.preorder [] := by
  rw [visits, Walk.start, Walk.run_level, Walk.run_nil, List.reverse_nil, List.flatMap_singleton,
    List.append_nil]

/-- The root of a tree is visited, inside no node. -/
theorem Node.root_mem_visits (root : Node) :
    (⟨root, []⟩ : Visit) ∈ (some root).toList.flatMap visits := by
  rw [Option.toList_some, List.flatMap_singleton, visits_eq_preorder, preorder_eq]
  exact List.mem_cons_self

end AngularLint
