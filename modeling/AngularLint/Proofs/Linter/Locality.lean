import AngularLint.Proofs.Linter.Steady

/-!
# Verdicts are a matter of the calls

The rules of the tool listen to calls and to nothing else. Each of them looks into the call that it
is given, and the one for test files looks at the outermost node around it, of which it reports the
place. So all that a program contributes to what is found in it is where it stands and which calls
there are in it, in their order (`Node.calls`): the nodes between the program and a call, and those
beside it, are never looked at.

The outermost node is where the walk comes in. `under_of_mem_visits` says that at every node below
the root the list of ancestors starts with the root, however deep the node lies.

Hence programs can be cut, wrapped and padded (**`verify_local`**).
-/

set_option autoImplicit false

namespace AngularLint

variable {σ : Type}

namespace Node

/-! ## The calls of a tree -/

def isCall (n : Node) : Bool := n.type == "CallExpression"

/-- The calls in a tree, in the order of a walk. -/
def calls (n : Node) : List Node := (n.visits.map (·.node)).filter isCall

theorem node_preorder (around : List Node) (n : Node) :
    (n.preorder around).map (·.node) = (n.preorder []).map (·.node) := by
  -- What is around a node is handed down and not looked at, so it is free in the induction.
  induction h : sizeOf n using Nat.strongRecOn generalizing n around with
  | ind size ih =>
    subst h
    rw [preorder_eq, preorder_eq, List.map_cons, List.map_cons, List.map_flatMap, List.map_flatMap]
    refine congrArg (List.cons n) (List.flatMap_congr fun c hc => ?_)
    have hsize := sizeOf_lt_of_mem_children hc
    rw [ih _ hsize (around ++ [n]) c rfl, ih _ hsize ([] ++ [n]) c rfl]

theorem calls_eq (n : Node) :
    n.calls = [n].filter isCall ++ n.children.flatMap calls := by
  -- The walk goes through a child with the node around it; the calls of the child are the same.
  have hchild (c : Node) : c.calls = ((c.preorder ([] ++ [n])).map (·.node)).filter isCall := by
    rw [calls, visits_eq_preorder, ← node_preorder]
  rw [List.flatMap_congr fun c _ => hchild c, calls, visits_eq_preorder, preorder_eq,
    List.map_cons, List.map_flatMap, ← List.singleton_append, List.filter_append,
    List.filter_flatMap]

theorem calls_of_not_isCall {n : Node} (h : n.isCall = false) :
    n.calls = n.children.flatMap calls := by
  rw [calls_eq, List.filter_singleton, h]
  rfl

theorem calls_program (range : Option Range) (body : List (Option Node)) :
    (Node.mk range (.program body)).calls = (body.filterMap id).flatMap calls := by
  rw [calls_of_not_isCall rfl]
  rfl

theorem calls_program_append (range : Option Range) (body more : List (Option Node)) :
    (Node.mk range (.program (body ++ more))).calls =
      (Node.mk range (.program body)).calls ++ (Node.mk range (.program more)).calls := by
  rw [calls_program, calls_program, calls_program, List.filterMap_append, List.flatMap_append]

/-! ### Wrapping and padding -/

/-- A node of a kind without a shape of its own around another, and so on for any number of levels;
there is no call beside the innermost node. -/
inductive Tower (s : Node) : Node → Prop
  | ground : Tower s s
  | level {n : Node} {range : Option Range} {type : Text} {entries : List (Text × Entry)}
      {before after : List Node} (hkind : type ≠ "CallExpression")
      (hchildren : (Node.mk range (.other type entries)).children = before ++ n :: after)
      (hbefore : ∀ c ∈ before, c.calls = []) (hafter : ∀ c ∈ after, c.calls = [])
      (below : Tower s n) : Tower s (.mk range (.other type entries))

/-- Statements, of which some have been wrapped into towers, with others put between them in which
there is no call. -/
inductive Padded : List (Option Node) → List (Option Node) → Prop
  | nil : Padded [] []
  | hole {body body' : List (Option Node)} (rest : Padded body body') :
      Padded (none :: body) (none :: body')
  | wrap {s n : Node} {body body' : List (Option Node)} (tower : Tower s n)
      (rest : Padded body body') : Padded (some s :: body) (some n :: body')
  | insert {added : Option Node} {body body' : List (Option Node)}
      (quiet : ∀ s ∈ added, s.calls = []) (rest : Padded body body') : Padded body (added :: body')

theorem Tower.calls_eq {s n : Node} (h : Tower s n) : n.calls = s.calls := by
  induction h with
  | ground => rfl
  | @level n range type entries before after hkind hchildren hbefore hafter below ih =>
    have hcall : (Node.mk range (.other type entries)).isCall = false := beq_false_of_ne hkind
    rw [calls_of_not_isCall hcall, hchildren, List.flatMap_append,
      List.flatMap_cons, List.flatMap_eq_nil_iff.mpr hbefore, List.flatMap_eq_nil_iff.mpr hafter,
      ih, List.append_nil, List.nil_append]

theorem Padded.calls_eq {body body' : List (Option Node)} (h : Padded body body')
    (range : Option Range) :
    (Node.mk range (.program body)).calls = (Node.mk range (.program body')).calls := by
  rw [calls_program, calls_program]
  induction h with
  | nil => rfl
  | hole rest ih => exact ih
  | @wrap s n body body' tower rest ih =>
    show s.calls ++ (body.filterMap id).flatMap calls =
      n.calls ++ (body'.filterMap id).flatMap calls
    rw [tower.calls_eq, ih]
  | @insert added body body' quiet rest ih =>
    cases added with
    | none => exact ih
    | some s =>
      show _ = s.calls ++ (body'.filterMap id).flatMap calls
      rw [quiet s rfl, List.nil_append]
      exact ih

end Node

open Node

/-! ## What a rule sees of a visit -/

namespace Visit

/-- Is the visit one below a program that stands at the given place? -/
def Under (range : Option Range) (v : Visit) : Prop :=
  ∃ body, v.ancestors.head? = some (.mk range (.program body))

theorem ancestors_of_mem_preorder {around : List Node} {n : Node} {v : Visit}
    (h : v ∈ n.preorder around) :
    v = ⟨n, around⟩ ∨ ∃ inner, v.ancestors = around ++ n :: inner := by
  induction hsize : sizeOf n using Nat.strongRecOn generalizing n around with
  | ind size ih =>
    subst hsize
    rw [preorder_eq, List.mem_cons, List.mem_flatMap] at h
    rcases h with rfl | ⟨c, hc, hv⟩
    · exact .inl rfl
    · -- Through the child `c`, around which there is `n` as well.
      right
      rcases ih _ (sizeOf_lt_of_mem_children hc) hv rfl with rfl | ⟨inner, hinner⟩
      · exact ⟨[], rfl⟩
      · refine ⟨c :: inner, ?_⟩
        rw [hinner, List.append_assoc]
        rfl

/-- The outermost node around a visit below the root is the root. -/
theorem head?_ancestors {root : Node} {v : Visit} (h : v ∈ root.visits)
    (hne : v.node.type ≠ root.type) : v.ancestors.head? = some root := by
  rw [visits_eq_preorder] at h
  rcases ancestors_of_mem_preorder h with rfl | ⟨inner, hinner⟩
  · exact absurd rfl hne
  · rw [hinner]
    rfl

theorem under_of_mem_visits {range : Option Range} {body : List (Option Node)} {v : Visit}
    (h : v ∈ (Node.mk range (.program body)).visits) (hcall : v.node.isCall = true) :
    v.Under range := by
  refine ⟨body, head?_ancestors h fun hprogram => ?_⟩
  -- The program itself is no call.
  rw [isCall, hprogram] at hcall
  exact absurd hcall Bool.false_ne_true

end Visit

/-- What is reported at the outermost node does not show what is inside it. -/
theorem TestFilename.onCall_alike (c : Context σ) (s : Surroundings) {range : Option Range}
    {v v' : Visit} (hnode : v.node = v'.node) (h : v.Under range) (h' : v'.Under range) :
    (onCall s v).Alike c id (onCall s v') := by
  obtain ⟨body, hbody⟩ := h
  obtain ⟨body', hbody'⟩ := h'
  rw [onCall, onCall, hnode]
  split
  · -- The requests are made at different nodes. What is looked at is the report, and that has the
    -- kind and the place of the node only.
    refine Outcome.alike_ofLookup (fun r => (c.report r).map id) ?_ fun _ _ _ _ hr => hr
    rw [judge, judge, hbody, hbody']
    cases suffixText (suffixOption s.options) with
    | error fault => rfl
    | ok suffix =>
      show Except.map _ (if _ then _ else _) = Except.map _ (if _ then _ else _)
      split
      · rfl
      · rfl
  · exact .refl c id _

/-- The rules of the tool listen to calls. -/
theorem Registry.kind_of_mem_habits {s : Surroundings} {convention : Convention}
    (hconvention : convention ∈ conventions) {e : Text × (Visit → Outcome)}
    (he : e ∈ convention.habits s) : e.1 = "CallExpression" := by
  simp only [conventions, List.mem_cons, List.not_mem_nil, or_false] at hconvention
  rcases hconvention with rfl | rfl | rfl
  all_goals
    obtain rfl := List.mem_singleton.mp he
    rfl

theorem Registry.conventions_alike (c : Context σ) (s : Surroundings) {range : Option Range}
    {v v' : Visit} (hnode : v.node = v'.node) (h : v.Under range) (h' : v'.Under range) :
    ∀ convention ∈ conventions, ∀ e ∈ convention.habits s, (e.2 v).Alike c id (e.2 v') := by
  intro convention hconvention e he
  simp only [conventions, List.mem_cons, List.not_mem_nil, or_false] at hconvention
  rcases hconvention with rfl | rfl | rfl
  · obtain rfl := List.mem_singleton.mp he
    exact TestFilename.onCall_alike c s hnode h h'
  · obtain rfl := List.mem_singleton.mp he
    dsimp only
    rw [hnode]
    exact .refl c id _
  · obtain rfl := List.mem_singleton.mp he
    dsimp only
    rw [hnode]
    exact .refl c id _

namespace Linter

/-! ## The calls that are made -/

variable {l : Linter σ}

/-- The calls that are made at visits. -/
def made (l : Linter σ) (filename : Text) (visits : List Visit) : List (Call σ) :=
  Call.schedule (Listener.enlist l.settings filename l.registry l.memory).listeners visits

/-- The visits to the calls of a program. -/
def callVisits (root : Node) : List Visit := root.visits.filter (·.node.isCall)

theorem node_callVisits (root : Node) : (callVisits root).map (·.node) = root.calls := by
  rw [callVisits, Node.calls, List.filter_map]
  rfl

theorem isSteady_standard (hregistry : l.registry = .standard) :
    l.IsSteady Registry.conventions := hregistry

theorem made_append (l : Linter σ) (filename : Text) (visits more : List Visit) :
    l.made filename (visits ++ more) = l.made filename visits ++ l.made filename more :=
  List.flatMap_append

theorem calls_eq_made (hregistry : l.registry = .standard) (root : Node) (filename : Text) :
    l.calls (some root) filename = l.made filename (callVisits root) := by
  rw [made, callVisits, Call.schedule_filter, calls, Option.toList_some, List.flatMap_singleton]
  intro listener hlistener visit _ hcall
  rw [hregistry] at hlistener
  obtain ⟨convention, hconvention, -, rfl⟩ := Listener.mem_enlist_map.mp hlistener
  rw [Listener.lookup_ofConvention, List.lookup_eq_none_iff.mpr fun e he => ?_]
  · rfl
  · rw [Registry.kind_of_mem_habits hconvention he]
    exact bne_iff_ne.mpr (beq_eq_false_iff_ne.mp hcall)

theorem made_alike (hregistry : l.registry = .standard) (filename : Text) {range : Option Range}
    {visits visits' : List Visit} (h : ∀ v ∈ visits, v.Under range)
    (h' : ∀ v ∈ visits', v.Under range) (hnodes : visits.map (·.node) = visits'.map (·.node)) :
    List.Forall₂ (Call.Alike Eq id) (l.made filename visits) (l.made filename visits') := by
  have hpairs : List.Forall₂ (fun v v' => v.Under range ∧ v'.Under range ∧ v.node = v'.node)
      visits visits' := by
    rw [← List.forall₂_eq_eq_eq, List.forall₂_map_left_iff, List.forall₂_map_right_iff] at hnodes
    refine (List.forall₂_and_left _ _).mpr ⟨h, List.Forall₂.flip ?_⟩
    exact (List.forall₂_and_left _ _).mpr ⟨h', hnodes.flip⟩
  rw [made, made, hregistry]
  refine Call.schedule_alike_map ?_ ?_ hpairs
  · rintro v v' ⟨-, -, hnode⟩
    rw [hnode]
  · rintro v v' ⟨hv, hv', hnode⟩ convention hconvention
    exact Registry.conventions_alike _ _ hnode hv hv' convention hconvention

theorem under_of_mem_callVisits {range : Option Range} {body : List (Option Node)} :
    ∀ v ∈ callVisits (.mk range (.program body)), v.Under range := by
  intro v hv
  obtain ⟨hvisit, hcall⟩ := List.mem_filter.mp hv
  exact Visit.under_of_mem_visits hvisit hcall

theorem verify_program_of_calls_eq (hregistry : l.registry = .standard) {range : Option Range}
    {body body' : List (Option Node)} (filename : Text)
    (h : (Node.mk range (.program body)).calls = (Node.mk range (.program body')).calls) :
    l.verify (some (.mk range (.program body))) filename =
      l.verify (some (.mk range (.program body'))) filename := by
  have hcalls : List.Forall₂ (Call.Alike Eq id)
      (l.calls (some (.mk range (.program body))) filename)
      (l.calls (some (.mk range (.program body'))) filename) := by
    rw [calls_eq_made hregistry, calls_eq_made hregistry]
    apply made_alike hregistry filename under_of_mem_callVisits under_of_mem_callVisits
    rw [node_callVisits, node_callVisits, h]
  obtain ⟨vs, vs', hfirst, hsecond, hsame, hrest⟩ :=
    verify_alike (isSteady_standard hregistry) hcalls
  rw [List.map_id, List.map_id] at hsame
  refine Prod.ext ?_ hrest
  rw [hfirst, hsecond, hsame]

theorem verify_program_append (hregistry : l.registry = .standard) (range : Option Range)
    (body more : List (Option Node)) (filename : Text) :
    let first := l.verify (some (.mk range (.program body))) filename
    let second := first.2.1.verify (some (.mk range (.program more))) filename
    ∃ vs₁ vs₂, first.1 = .ok vs₁ ∧ second.1 = .ok vs₂ ∧
      l.verify (some (.mk range (.program (body ++ more)))) filename =
        (.ok (vs₁ ++ vs₂), second.2.1, first.2.2 ++ second.2.2) := by
  apply verify_eq_append (isSteady_standard hregistry)
  rw [calls_eq_made hregistry, calls_eq_made hregistry, calls_eq_made hregistry, ← made_append]
  apply made_alike hregistry filename under_of_mem_callVisits
  · intro v hv
    rcases List.mem_append.mp hv with hv | hv
    · exact under_of_mem_callVisits v hv
    · exact under_of_mem_callVisits v hv
  · rw [List.map_append, node_callVisits, node_callVisits, node_callVisits, calls_program_append]

/-- **What is found in a program is a matter of its calls.** -/
theorem verify_local (hregistry : l.registry = .standard) (range : Option Range)
    (filename : Text) :
    let lint (l : Linter σ) (body : List (Option Node)) :=
      l.verify (some (.mk range (.program body))) filename
    (∀ body body',
      (Node.mk range (.program body)).calls = (Node.mk range (.program body')).calls →
        lint l body = lint l body') ∧
      (∀ body more,
        let first := lint l body
        let second := lint first.2.1 more
        ∃ vs₁ vs₂, first.1 = .ok vs₁ ∧ second.1 = .ok vs₂ ∧
          lint l (body ++ more) = (.ok (vs₁ ++ vs₂), second.2.1, first.2.2 ++ second.2.2)) ∧
      (∀ body more, ∃ vs₁ vs₂, (lint l body).1 = .ok vs₁ ∧ (lint l more).1 = .ok vs₂ ∧
        (lint l (body ++ more)).1 = .ok (vs₁ ++ vs₂)) ∧
      ∀ body body', Padded body body' → lint l body = lint l body' := by
  intro lint
  refine ⟨fun body body' => ?_, fun body more => ?_, fun body more => ?_, fun body body' h => ?_⟩
  · exact verify_program_of_calls_eq hregistry filename
  · exact verify_program_append hregistry range body more filename
  · -- The second linter has the log of the first, and the log has no say in what is reported.
    obtain ⟨vs₁, vs₂, hfirst, hsecond, hboth⟩ :=
      verify_program_append hregistry range body more filename
    refine ⟨vs₁, vs₂, hfirst, ?_, congrArg Prod.fst hboth⟩
    rw [← hsecond]
    symm
    apply verify_congr (isSteady_standard hregistry)
    · rfl
    · rfl
    · exact memory_verify (isSteady_standard hregistry) _ filename
  · exact verify_program_of_calls_eq hregistry filename (h.calls_eq range)

/-- A test, which the rule for test files reports. -/
def testCall : Node := .mk none (.callExpression (some (.mk none (.identifier "it"))) [])

/-- The test under a condition. -/
def conditional : Node := .mk none (.other "IfStatement" [("consequent", .child (some testCall))])

/-- A test and a component whose controller cannot be judged; and the same with the test under a
condition, and a `this` between the two. -/
theorem verify_padded :
    let l : Linter Unit := start .standard [] ()
    let plain := some (Node.mk none (.program [some testCall, some component]))
    let padded := some (Node.mk none
      (.program [some conditional, some (.mk none .thisExpression), some component]))
    l.verify plain "a.js" = l.verify padded "a.js" ∧
      (l.verify plain "a.js").1.toOption.map List.length = some 1 ∧
      (l.verify plain "a.js").2.2.length = 1 := by
  intro l plain padded
  obtain ⟨-, -, -, hpadded⟩ := verify_local (l := l) rfl none "a.js"
  refine ⟨hpadded _ _ ?_, by decide +kernel, by decide +kernel⟩
  have htower : Tower testCall conditional := by
    refine @Tower.level _ testCall _ _ _ [] [] (by decide) rfl ?_ ?_ .ground
    · exact fun c hc => absurd hc (by simp)
    · exact fun c hc => absurd hc (by simp)
  refine .wrap htower (.insert ?_ (.wrap .ground .nil))
  rintro s ⟨⟩
  rw [calls_of_not_isCall rfl]
  rfl

end Linter

end AngularLint
