import AngularLint.Total
import AngularLint.Tree.Path

/-!
# Walking a tree

A walk visits every node once, each before the nodes below it, and knows at each visit the nodes
around it. It keeps what is still to be visited on every level between the root and its place, so
depth costs no recursion: `Walk.step` is one move, and `visits` is all of them.
-/

set_option autoImplicit false

namespace AngularLint

/-- A stop of a walk: the node, and the nodes around it from the root down to its parent. -/
structure Visit where
  node : Node
  ancestors : List Node

namespace Node

def count (n : Node) : Nat := 1 + total (n.children.attach.map fun ⟨c, _⟩ => c.count)
termination_by sizeOf n
decreasing_by rename_i h; exact sizeOf_lt_of_mem_children h

theorem count_eq (n : Node) : n.count = 1 + total (n.children.map count) := by
  rw [count]
  congr 2
  exact List.attach_map_val (l := n.children) (f := count)

end Node

/-- The place of a walk. -/
structure Walk where
  /-- The nodes still to be visited on each level, the innermost level first. -/
  pending : List (List Node)
  /-- The nodes whose levels these are, the innermost first. -/
  enclosing : List Node

namespace Walk

def start (root : Node) : Walk := ⟨[[root]], []⟩

/-- What is left of a walk, counted so that every move leaves less: a node counts for the visit, for
leaving its level, and for all below it. -/
def remaining (w : Walk) : Nat :=
  total (w.pending.map fun level => 1 + total (level.map fun n => 2 * n.count))

/-- One move: the next node of the innermost level is visited and its children become the innermost
level, or an exhausted level is left. -/
def step (w : Walk) : Option (Option Visit × Walk) :=
  match w.pending with
  | [] => none
  | [] :: outer => some (none, ⟨outer, w.enclosing.drop 1⟩)
  | (n :: level) :: outer =>
    some (some ⟨n, w.enclosing.reverse⟩, ⟨n.children :: level :: outer, n :: w.enclosing⟩)

theorem total_map_two_mul (l : List Node) :
    total (l.map fun n => 2 * n.count) = 2 * total (l.map Node.count) := by
  induction l with
  | nil => rfl
  | cons n l ih => simp [ih]; omega

theorem remaining_lt_of_step {w w' : Walk} {v : Option Visit} (h : w.step = some (v, w')) :
    w'.remaining < w.remaining := by
  unfold step at h
  split at h
  · simp at h
  · rename_i outer hp
    simp only [Option.some.injEq, Prod.mk.injEq] at h
    simp [← h.2, remaining, hp]
  · rename_i n level outer hp
    simp only [Option.some.injEq, Prod.mk.injEq] at h
    have := n.count_eq
    simp only [← h.2, remaining, hp, List.map_cons, total_cons, total_map_two_mul]
    omega

/-- The visits of the rest of a walk, in order. -/
def run (w : Walk) : List Visit :=
  match _h : w.step with
  | none => []
  | some (none, w') => w'.run
  | some (some visit, w') => visit :: w'.run
termination_by w.remaining
decreasing_by all_goals exact remaining_lt_of_step _h

end Walk

/-- The visits of a walk through a tree, from the root on. -/
def Node.visits (root : Node) : List Visit := (Walk.start root).run

/-- The walk through a value. There is nothing to visit in a value that is no node. -/
def Walk.through : Value → Walk
  | .node root => start root
  | _ => ⟨[], []⟩

def Value.visits (v : Value) : List Visit := (Walk.through v).run

end AngularLint
