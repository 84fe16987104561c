import AngularLint.Proofs.Tree.Lookup
import Mathlib.Data.Set.Card

/-!
# What a walk knows of its place

`Proofs/Tree/Preorder.lean` says which visits a walk makes. This file says what holds *while* it is
under way, move by move, of the two lists that it pushes and pops: the levels still to be visited,
and the nodes around them.

`Walk.Aligned` is the invariant. The nodes of every level are children of the node that the level
lies in, and the nodes around the innermost level are a **trail** from the root down, each a child
of the one before. A move keeps it (`Aligned.of_step`), so every run does (`Moves.aligned`); when no
level is left, no node is left around it either.

How many visits there are is counted by **positions**: a position says which child to go to on each
level, and two positions may have equal nodes, but they are two. `Node.map_nodeAt?_positions` says
that a walk goes through the positions in order.

**`Value.visits_trail`** has it all, for any value to walk through.
-/

set_option autoImplicit false

namespace AngularLint

open Dump

/-- The same visit, with one more node around all others. -/
def Visit.inside (root : Node) (visit : Visit) : Visit := ⟨visit.node, root :: visit.ancestors⟩

/-- Nodes that lead down from a root, each a child of the one before. -/
structure Node.Trail (root : Node) (nodes : List Node) : Prop where
  starts : nodes.head? = some root
  descends : nodes.IsChain fun parent child => child ∈ parent.children

namespace Node

theorem Trail.singleton (root : Node) : root.Trail [root] := ⟨rfl, List.isChain_singleton root⟩

theorem Trail.concat {root n c : Node} {nodes : List Node} (h : root.Trail (nodes ++ [n]))
    (hc : c ∈ n.children) : root.Trail (nodes ++ [n] ++ [c]) := by
  constructor
  · rw [List.head?_append, h.starts]
    rfl
  · rw [List.isChain_append]
    refine ⟨h.descends, List.isChain_singleton c, ?_⟩
    intro parent hparent child hchild
    rw [List.getLast?_concat, Option.mem_some_iff] at hparent
    rw [List.head?_singleton, Option.mem_some_iff] at hchild
    rwa [← hparent, ← hchild]

end Node

/-! ## Move by move -/

namespace Walk

/-- Moves in a row, and the visits that they make. -/
inductive Moves : Walk → List Visit → Walk → Prop
  | refl (w : Walk) : Moves w [] w
  | leave {w w₁ w₂ : Walk} {visits : List Visit} (move : w.step = some (none, w₁))
      (later : Moves w₁ visits w₂) : Moves w visits w₂
  | enter {w w₁ w₂ : Walk} {visit : Visit} {visits : List Visit}
      (move : w.step = some (some visit, w₁)) (later : Moves w₁ visits w₂) :
      Moves w (visit :: visits) w₂

theorem Moves.run_eq_append {w w' : Walk} {visits : List Visit} (h : w.Moves visits w') :
    w.run = visits ++ w'.run := by
  induction h with
  | refl w => rw [List.nil_append]
  | leave move later ih =>
    rw [run_eq, move]
    exact ih
  | enter move later ih =>
    rw [run_eq, move, List.cons_append]
    exact congrArg _ ih

/-- A walk comes to its end, and makes the visits of its run on the way. -/
theorem exists_moves_run (w : Walk) : ∃ w', w.Moves w.run w' ∧ w'.step = none := by
  induction w using run.induct with
  | case1 w hstep =>
    rw [run_eq, hstep]
    exact ⟨w, .refl w, hstep⟩
  | case2 w w₁ hstep ih =>
    obtain ⟨w', hmoves, hend⟩ := ih
    rw [run_eq, hstep]
    exact ⟨w', .leave hstep hmoves, hend⟩
  | case3 w visit w₁ hstep ih =>
    obtain ⟨w', hmoves, hend⟩ := ih
    rw [run_eq, hstep]
    exact ⟨w', .enter hstep hmoves, hend⟩

/-- Do the levels of a walk lie in the nodes around them, and do these lead down from the root? -/
inductive Aligned (root : Node) : Walk → Prop
  | done : Aligned root ⟨[], []⟩
  | outermost {level : List Node} (isRoot : ∀ n ∈ level, n = root) : Aligned root ⟨[level], []⟩
  | within {level : List Node} {outer : List (List Node)} {parent : Node} {enclosing : List Node}
      (trail : root.Trail (parent :: enclosing).reverse) (below : ∀ n ∈ level, n ∈ parent.children)
      (outside : Aligned root ⟨outer, enclosing⟩) :
      Aligned root ⟨level :: outer, parent :: enclosing⟩

variable {root n : Node} {level : List Node} {outer : List (List Node)} {enclosing : List Node}

theorem Aligned.leave (h : Aligned root ⟨level :: outer, enclosing⟩) :
    Aligned root ⟨outer, enclosing.drop 1⟩ := by
  cases h with
  | outermost isRoot => exact .done
  | within trail below outside => exact outside

theorem Aligned.tail (h : Aligned root ⟨(n :: level) :: outer, enclosing⟩) :
    Aligned root ⟨level :: outer, enclosing⟩ := by
  cases h with
  | outermost isRoot => exact .outermost fun m hm => isRoot m (List.mem_cons_of_mem n hm)
  | within trail below outside =>
    exact .within trail (fun m hm => below m (List.mem_cons_of_mem n hm)) outside

/-- The next node to be visited lies at the end of a trail. -/
theorem Aligned.trail (h : Aligned root ⟨(n :: level) :: outer, enclosing⟩) :
    root.Trail (enclosing.reverse ++ [n]) := by
  cases h with
  | outermost isRoot =>
    rw [isRoot n List.mem_cons_self]
    exact .singleton root
  | within trail below outside =>
    rw [List.reverse_cons] at trail ⊢
    exact trail.concat (below n List.mem_cons_self)

theorem Aligned.of_step {w w' : Walk} {visit : Option Visit} (h : w.Aligned root)
    (hstep : w.step = some (visit, w')) : w'.Aligned root := by
  obtain ⟨pending, enclosing⟩ := w
  match pending with
  | [] => exact absurd hstep (by simp [step])
  | [] :: outer =>
    obtain ⟨-, rfl⟩ := Prod.mk.inj (Option.some.inj hstep)
    exact h.leave
  | (n :: level) :: outer =>
    -- The level of the children lies in `n`, and the rest of the level of `n` where it lay before.
    obtain ⟨-, rfl⟩ := Prod.mk.inj (Option.some.inj hstep)
    refine .within ?_ (fun _ hc => hc) h.tail
    rw [List.reverse_cons]
    exact h.trail

theorem Moves.aligned {w w' : Walk} {visits : List Visit} (h : w.Moves visits w')
    (hw : w.Aligned root) : w'.Aligned root := by
  induction h with
  | refl w => exact hw
  | leave move later ih => exact ih (hw.of_step move)
  | enter move later ih => exact ih (hw.of_step move)

/-- A visit is made where the walk is, with the nodes around it at that moment. -/
theorem Aligned.trail_of_step {w w' : Walk} {visit : Visit} (h : w.Aligned root)
    (hstep : w.step = some (some visit, w')) :
    visit.ancestors = w.enclosing.reverse ∧ root.Trail (visit.ancestors ++ [visit.node]) := by
  obtain ⟨pending, enclosing⟩ := w
  match pending with
  | [] => exact absurd hstep (by simp [step])
  | [] :: outer => exact absurd hstep (by simp [step])
  | (n :: level) :: outer =>
    obtain ⟨hvisit, -⟩ := Prod.mk.inj (Option.some.inj hstep)
    rw [← Option.some.inj hvisit]
    exact ⟨rfl, h.trail⟩

/-- At the end no node is left around. -/
theorem Aligned.enclosing_of_end {w : Walk} (h : w.Aligned root) (hend : w.step = none) :
    w.enclosing = [] := by
  cases h with
  | done => rfl
  | @outermost level isRoot => cases level <;> exact absurd hend (by simp [step])
  | @within level outer parent enclosing trail below outside =>
    cases level <;> exact absurd hend (by simp [step])

theorem aligned_start (root : Node) : (start root).Aligned root :=
  .outermost fun _ hn => List.mem_singleton.mp hn

/-- A walk through a value is aligned with its root, and with any node if it has none. -/
theorem exists_aligned_through (v : Value) :
    ∃ root, (through v).Aligned root ∧ ∀ n, v.node? = some n → n = root := by
  cases v with
  | node n => exact ⟨n, aligned_start n, fun m hm => (Option.some.inj hm).symm⟩
  | _ => exact ⟨.mk none .thisExpression, .done, fun n hn => absurd hn (by simp [Value.node?])⟩

end Walk

/-! ## Positions -/

namespace Node

/-- The node at a position, which says on each level which child to go to. -/
def nodeAt? : Node → List Nat → Option Node
  | n, [] => some n
  | n, place :: position => n.children[place]?.bind (nodeAt? · position)

/-- The positions of a tree, each before the positions below it. -/
def positions (n : Node) : List (List Nat) :=
  [] :: n.children.attach.zipIdx.flatMap fun (c, place) => c.1.positions.map (place :: ·)
termination_by sizeOf n
decreasing_by exact sizeOf_lt_of_mem_children c.2

theorem positions_eq (n : Node) :
    n.positions =
      [] :: n.children.zipIdx.flatMap fun (c, place) => c.positions.map (place :: ·) := by
  have hattach : n.children.zipIdx =
      n.children.attach.zipIdx.map (Prod.map Subtype.val id) := by
    rw [← List.zipIdx_map, List.attach_map_subtype_val]
  rw [positions, hattach, List.flatMap_map]
  rfl

theorem nodup_positions (n : Node) : n.positions.Nodup := by
  induction n using positions.induct with
  | case1 n ih =>
    rw [positions_eq, List.nodup_cons]
    constructor
    · intro hmem
      obtain ⟨_, -, hroot⟩ := List.mem_flatMap.mp hmem
      obtain ⟨_, -, hcons⟩ := List.mem_map.mp hroot
      exact absurd hcons (List.cons_ne_nil _ _)
    · -- Positions below different children differ in their first place.
      refine nodup_flatMap_of_label Prod.snd List.head? (nodup_map_snd_zipIdx n.children) ?_ ?_
      · intro entry hentry
        refine (ih ⟨entry.1, List.fst_mem_of_mem_zipIdx hentry⟩).map ?_
        exact fun _ _ h => (List.cons.inj h).2
      · intro entry _ position hposition
        obtain ⟨_, -, rfl⟩ := List.mem_map.mp hposition
        rfl

theorem mem_positions_iff {n : Node} {position : List Nat} :
    position ∈ n.positions ↔ (n.nodeAt? position).isSome := by
  induction position generalizing n with
  | nil =>
    rw [positions_eq]
    exact iff_of_true List.mem_cons_self rfl
  | cons place position ih =>
    rw [positions_eq, List.mem_cons, nodeAt?, List.mem_flatMap]
    simp only [List.cons_ne_nil, false_or, List.mem_map, List.cons.injEq, Prod.exists]
    constructor
    · rintro ⟨c, i, hc, p, hp, rfl, rfl⟩
      rw [List.mk_mem_zipIdx_iff_getElem?.mp hc]
      exact ih.mp hp
    · intro hsome
      obtain ⟨m, hm⟩ := Option.isSome_iff_exists.mp hsome
      obtain ⟨c, hc, hposition⟩ := Option.bind_eq_some_iff.mp hm
      refine ⟨c, place, List.mk_mem_zipIdx_iff_getElem?.mpr hc, position, ?_, rfl, rfl⟩
      exact ih.mpr (Option.isSome_of_eq_some hposition)

/-- **A walk goes through the positions in order**, whatever is around the root. -/
theorem map_nodeAt?_positions (n : Node) (around : List Node) :
    n.positions.map n.nodeAt? = (n.preorder around).map fun visit => some visit.node := by
  induction around, n using preorder.induct with
  | case1 around n ih =>
    rw [positions_eq, preorder_eq, List.map_cons, List.map_cons, List.map_flatMap,
      List.map_flatMap]
    refine congrArg _ ?_
    -- The children on the right, each with its place.
    conv_rhs => rw [← List.zipIdx_map_fst 0 n.children, List.flatMap_map]
    refine List.flatMap_congr fun entry hentry => ?_
    rw [← ih entry.1 (List.fst_mem_of_mem_zipIdx hentry), List.map_map]
    refine List.map_congr_left fun position _ => ?_
    show n.nodeAt? (entry.2 :: position) = _
    rw [nodeAt?, List.mk_mem_zipIdx_iff_getElem?.mp hentry]
    rfl

/-- Positions are counted as visits are. -/
theorem ncard_positions_any (n : Node) (p : Node → Bool) :
    {position | (n.nodeAt? position).any p = true}.ncard =
      n.visits.countP fun visit => p visit.node := by
  have hset : {position | (n.nodeAt? position).any p = true} =
      ↑(n.positions.filter fun position => (n.nodeAt? position).any p).toFinset := by
    ext position
    have hmem (hp : (n.nodeAt? position).any p = true) : position ∈ n.positions := by
      rw [mem_positions_iff]
      exact Option.isSome_of_any hp
    rw [Set.mem_ofPred_eq, List.coe_toFinset, Set.mem_ofPred_eq, List.mem_filter]
    exact ⟨fun hp => ⟨hmem hp, hp⟩, fun hp => hp.2⟩
  have hcount := congrArg (List.countP (Option.any p)) (n.map_nodeAt?_positions [])
  rw [List.countP_map, List.countP_map, ← visits_eq_preorder] at hcount
  rw [hset, Set.ncard_coe_finset, List.toFinset_card_of_nodup (n.nodup_positions.filter _),
    ← List.countP_eq_length_filter]
  exact hcount

theorem ncard_positions (n : Node) :
    {position | (n.nodeAt? position).isSome}.ncard = n.visits.length := by
  have hcount := n.ncard_positions_any fun _ => true
  simp only [List.countP_true] at hcount
  rw [← hcount]
  refine congrArg Set.ncard (Set.ext fun position => ?_)
  cases h : n.nodeAt? position with
  | none => simp [h]
  | some m => simp [h]

theorem preorder_inside (root : Node) (around : List Node) (n : Node) :
    n.preorder (root :: around) = (n.preorder around).map (Visit.inside root) := by
  induction around, n using preorder.induct with
  | case1 around n ih =>
    rw [preorder_eq, preorder_eq, List.map_cons, List.map_flatMap]
    refine congrArg _ (List.flatMap_congr fun c hc => ?_)
    exact ih c hc

end Node

/-! ## Any value -/

namespace Value

theorem visits_of_not_node {v : Value} (h : v.node? = none) : v.visits = [] := by
  cases v with
  | node n => exact absurd h (by simp [node?])
  | _ => exact Walk.run_nil []

theorem visits_node (n : Node) :
    (node n).visits =
      ⟨n, []⟩ :: n.children.flatMap fun c => (node c).visits.map (Visit.inside n) := by
  show n.visits = _ :: n.children.flatMap fun c => c.visits.map (Visit.inside n)
  rw [Node.visits_eq_preorder, Node.preorder_eq, List.nil_append]
  refine congrArg _ (List.flatMap_congr fun c _ => ?_)
  rw [Node.visits_eq_preorder, Node.preorder_inside]

/-- **What a walk through a value does.** It visits the root and then the trees of its children in
order, each inside the root. Wherever it is, the nodes around it are those that it hands to the next
visit, and lead down from the root to the parent of the visited node; it comes to its end, and is
then inside no node. It makes one visit for each position of the tree. -/
theorem visits_trail (v : Value) :
    v.visits = (match v.node? with
      | none => []
      | some root => ⟨root, []⟩ ::
        root.children.flatMap fun c => (node c).visits.map (Visit.inside root)) ∧
      (∀ seen w, (Walk.through v).Moves seen w →
        (∀ visit w', w.step = some (some visit, w') →
          visit.ancestors = w.enclosing.reverse ∧
            ∃ root, v.node? = some root ∧ root.Trail (visit.ancestors ++ [visit.node])) ∧
        ∃ later last, w.Moves later last ∧ last.step = none ∧ last.enclosing = [] ∧
          v.visits = seen ++ later) ∧
      v.visits.length = {position | (v.node?.bind (·.nodeAt? position)).isSome}.ncard := by
  refine ⟨?_, ?_, ?_⟩
  · cases hroot : v.node? with
    | none => exact visits_of_not_node hroot
    | some root =>
      obtain rfl := eq_node_of_node? hroot
      exact visits_node root
  · intro seen w hmoves
    have hseen : v.visits = seen ++ w.run := hmoves.run_eq_append
    obtain ⟨root, haligned, hroot⟩ := Walk.exists_aligned_through v
    have hw := hmoves.aligned haligned
    constructor
    · intro visit w' hstep
      obtain ⟨hancestors, htrail⟩ := hw.trail_of_step hstep
      refine ⟨hancestors, root, ?_, htrail⟩
      cases hnode : v.node? with
      | none =>
        -- The walk through such a value makes no visit, but here is one.
        rw [visits_of_not_node hnode, w.run_eq, hstep] at hseen
        exact absurd hseen (by simp)
      | some n => rw [hroot n hnode]
    · obtain ⟨last, hlater, hend⟩ := w.exists_moves_run
      exact ⟨w.run, last, hlater, hend, (hlater.aligned hw).enclosing_of_end hend, hseen⟩
  · cases hroot : v.node? with
    | none => simp [visits_of_not_node hroot]
    | some root =>
      obtain rfl := eq_node_of_node? hroot
      exact root.ncard_positions.symm

/-- A program of one statement, which is nothing but `this`. -/
def thisNode : Node := .mk none .thisExpression

def thisStatement : Node := .mk none (.expressionStatement (some thisNode))

def thisProgram : Node := .mk none (.program [some thisStatement])

/-- After two visits of three, the walk is about to visit what lies deepest. -/
theorem visits_thisProgram :
    ∃ w, (Walk.through (node thisProgram)).Moves
        [⟨thisProgram, []⟩, ⟨thisStatement, [thisProgram]⟩] w ∧
      w.enclosing = [thisStatement, thisProgram] ∧
      thisProgram.Trail [thisProgram, thisStatement, thisNode] ∧
      {position | (thisProgram.nodeAt? position).isSome}.ncard = 3 := by
  obtain ⟨hvisits, hwalk, hcount⟩ := visits_trail (node thisProgram)
  have hmoves : (Walk.through (node thisProgram)).Moves
      [⟨thisProgram, []⟩, ⟨thisStatement, [thisProgram]⟩]
      ⟨[[thisNode], [], []], [thisStatement, thisProgram]⟩ := .enter rfl (.enter rfl (.refl _))
  obtain ⟨hnext, -⟩ := hwalk _ _ hmoves
  obtain ⟨-, root, hroot, htrail⟩ := hnext ⟨thisNode, [thisProgram, thisStatement]⟩ _ rfl
  obtain rfl := Option.some.inj hroot
  refine ⟨_, hmoves, rfl, htrail, hcount.symm.trans ?_⟩
  rw [visits_node, show thisProgram.children = [thisStatement] from rfl, List.flatMap_singleton,
    visits_node, show thisStatement.children = [thisNode] from rfl, List.flatMap_singleton,
    visits_node]
  rfl

end Value

end AngularLint
