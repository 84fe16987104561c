import AngularLint.Proofs.Angular.Hook
import AngularLint.Proofs.Linter.Answer
import AngularLint.Proofs.Linter.Failure

/-!
# Which components lack the hook

The rule asks the controller of a component for its hook. The controller is the value of the first
entry for it (`OnInit.HasController`), and has the hook if one of its own statements gives it
(`OnInit.HasHook`). If not, or if there is no controller, the rule reports the controller, once.

**`OnInit.makes_of_hasController`** says so for every call of a tree. Nothing but the call's own
name and its second argument is looked at, so in a chain each registration is judged by itself,
though the calls further out contain it.

**`OnInit.hasHook_of_hydrate`** says what the hook is worth: a component on which the rule is
silent has a controller that defines the hook, or merely mentions it on the left side of an
expression of an unknown kind.
-/

set_option autoImplicit false

namespace AngularLint

open Node

namespace OnInit

open Registration

/-- Is the value the controller of a component: the value of the first entry for it, or nothing if
there is no such entry? -/
inductive HasController (n : Node) : Value → Prop
  | given {d p : Node} (argument : n.argument? 1 = some d) (entry : d.Holds "controller" p) :
      HasController n (.ofOption ((Value.node p).at? ["value"]))
  | missing (noEntry : ∀ d p, n.argument? 1 = some d → ¬d.Holds "controller" p) :
      HasController n .absent

/-- Does a statement of the controller give the hook? -/
def HasHook (controller : Value) : Prop :=
  ∃ k s, controller = .node k ∧ k.Owns s ∧ s.GivesHook

theorem HasController.unique {n : Node} {k k' : Value} (h : HasController n k)
    (h' : HasController n k') : k = k' := by
  cases h with
  | given argument entry =>
    cases h' with
    | given argument' entry' =>
      obtain rfl := Option.some.inj (argument.symm.trans argument')
      rw [entry.unique entry']
    | missing noEntry => exact absurd entry (noEntry _ _ argument)
  | missing noEntry =>
    cases h' with
    | given argument' entry' => exact absurd entry' (noEntry _ _ argument')
    | missing _ => rfl

theorem exists_hasController (n : Node) : ∃ k, HasController n k := by
  by_cases h : ∃ d p, n.argument? 1 = some d ∧ d.Holds "controller" p
  · obtain ⟨d, p, hd, hp⟩ := h
    exact ⟨_, .given hd hp⟩
  · refine ⟨_, .missing fun d p hd hp => h ⟨d, p, hd, hp⟩⟩

/-- The look-up for a controller finds the controller. -/
theorem hasController_of_propertyValue? {n : Node} (h : n.IsDumped) {found : Option Value}
    (hfound : (Value.ofOption (configuration? (.node n))).propertyValue? "controller" =
      .ok found) : HasController n (.ofOption found) := by
  rw [configuration?_node h] at hfound
  rcases Value.propertyValue?_cases
      (fun d hd => h.of_mem_children (mem_children_of_argument? hd)) hfound with
    ⟨d, p, hd, hp, rfl⟩ | ⟨hnone, rfl⟩
  · exact .given hd hp
  · exact .missing hnone

/-- The judgement of a component, if it comes to an end. -/
theorem judge_cases {n : Node} (h : n.IsDumped) (hcomponent : isOf "component" (.node n) = true)
    {found : Option Request} (hfound : judge (.node n) = .ok found) :
    ∃ k, HasController n k ∧
      (HasHook k ∧ found = none ∨ ¬HasHook k ∧ ∃ r, r.anchor = k ∧ found = some r) := by
  rw [judge, hcomponent] at hfound
  obtain ⟨controller, hcontroller, hhook⟩ := bind_eq_ok.mp hfound
  obtain ⟨hook, hhook, hrequest⟩ := bind_eq_ok.mp hhook
  have hdumped : (Value.ofOption controller).IsDumped := by
    refine Value.isDumped_ofOption ?_
    rintro w rfl
    exact Value.isDumped_of_propertyValue? (isDumped_configuration h) hcontroller
  have hiff : hook = true ↔ HasHook (.ofOption controller) := Controller.hasHook_iff hdumped hhook
  refine ⟨_, hasController_of_propertyValue? h hcontroller, ?_⟩
  cases hook with
  | true => exact .inl ⟨hiff.mp rfl, (Except.ok.inj hrequest).symm⟩
  | false =>
    refine .inr ⟨fun hgives => ?_, _, rfl, (Except.ok.inj hrequest).symm⟩
    exact absurd (hiff.mpr hgives) (by simp)

/-- With a list, or nothing, in the two places where one is looked for, a call can be judged. -/
theorem not_stuck {n : Node} (h : n.IsDumped) {k : Value} (hk : HasController n k)
    (hlisted : ∀ d, n.argument? 1 = some d → d.hasLoneProperties = false)
    (hbody : ∀ f, k = .node f → f.expressionBody?.any hasLoneBody = false) : ¬Stuck n := by
  rintro ⟨-, ⟨d, hd, hlone⟩ | ⟨f, hf, hlone⟩⟩
  · rw [hlisted d hd] at hlone
    exact absurd hlone (by simp)
  · have hcontroller : HasController n (.node f) := hasController_of_propertyValue? h hf
    rw [hbody f (hk.unique hcontroller)] at hlone
    exact absurd hlone (by simp)

theorem rule_judges {σ : Type} : (rule : Rule σ).Judges judge where
  create := fun _ _ => rfl
  messages call r hr := by
    rw [(request_judge hr).1]
    exact Option.some_ne_none _

variable {file : Option Text} {raw : Json} {tree : Option Node}

/-- **The rule reports each component whose controller lacks the hook**, at the controller, and
nothing else. In a chain each registration is judged by its own name and its own argument. -/
theorem makes_of_hasController (h : hydrate file raw = .ok tree) :
    (∀ visit ∈ tree.toList.flatMap visits, visit.node.type = "CallExpression" →
      ∀ (σ : Type) (c : Context σ), c.rule = rule → ∃ reaction, c.Makes visit reaction ∧
        let n := visit.node
        (isOf "component" (.node n) = false → reaction = ⟨[], none⟩) ∧
        (isOf "component" (.node n) = true →
          (∀ d, n.argument? 1 = some d → d.hasLoneProperties = false) →
          ∃ k, HasController n k ∧
            ((∀ f, k = .node f → f.expressionBody?.any hasLoneBody = false) →
              (HasHook k → reaction = ⟨[], none⟩) ∧
              (¬HasHook k → ∃ v, reaction = ⟨[v], none⟩ ∧ v.PointsAt c k)))) ∧
    ∀ visit ∈ tree.toList.flatMap visits,
      ∀ (range : Option Range) (m : Link) (before : List Link) (k : Link) (after : List Link),
      m.name? = some moduleName →
      let global : Node := .mk range (.identifier globalName)
      visit.node = chain global (m :: before ++ k :: after) →
        ∃ inside ∈ tree.toList.flatMap visits,
          inside.node = k.onto (chain global (m :: before)) ∧
          (isOf "component" (.node inside.node) = true ↔ k.name? = some ("component" : Text)) ∧
          inside.node.argument? 1 = k.arguments[1]?.join := by
  constructor
  · intro visit hvisit hcall σ c hrule
    have hn : visit.node.IsDumped := isDumped_of_mem_visits h visit hvisit
    have hjudges : c.rule.Judges judge := by
      rw [hrule]
      exact rule_judges
    refine ⟨_, hjudges.makes hcall, ?_, ?_⟩
    · intro hother
      rw [judge, hother]
      rfl
    · intro hcomponent hlisted
      obtain ⟨k, hk⟩ := exists_hasController visit.node
      refine ⟨k, hk, fun hbody => ?_⟩
      obtain ⟨found, hfound⟩ : ∃ found, judge (.node visit.node) = .ok found := by
        rw [← not_fails_iff, fails_judge_iff hn]
        exact not_stuck hn hk hlisted hbody
      obtain ⟨k', hk', hcases⟩ := judge_cases hn hcomponent hfound
      obtain rfl := hk.unique hk'
      rcases hcases with ⟨hhook, rfl⟩ | ⟨hlacks, r, hanchor, rfl⟩
      · rw [hfound]
        exact ⟨fun _ => rfl, fun hlacks => absurd hhook hlacks⟩
      · refine ⟨fun hhook => absurd hhook hlacks, fun _ => ?_⟩
        obtain ⟨v, hv, hreaction⟩ := hjudges.reaction hfound
        rw [hanchor] at hv
        exact ⟨v, hreaction, hv⟩
  · intro visit hvisit range m before k after hm global hchain
    have hspine : k.onto (chain global (m :: before)) ∈ visit.node.spine := by
      rw [hchain]
      exact mem_spine_chain_append global (m :: before) k after
    obtain ⟨inside, hinside, hcall⟩ := exists_visit_of_mem_spine hvisit hspine
    refine ⟨inside, hinside, hcall, ?_, ?_⟩
    · rw [hcall]
      exact isOf_onto_chain range hm before k "component"
    · rw [hcall]
      rfl

/-! ### Two components in a chain -/

open Linter

def thisDump : Json := .obj [("type", .str "ThisExpression")]

/-- The dump of `this.$onInit`. -/
def hookDump : Json := memberDump thisDump Controller.hookName

def statementDump (e : Json) : Json :=
  .obj [("type", .str "ExpressionStatement"), ("expression", e)]

def assignmentDump (left right : Json) : Json :=
  .obj [("type", .str "AssignmentExpression"), ("operator", .str "="), ("left", left),
    ("right", right)]

def functionDump (statements : List Json) : Json :=
  .obj [("type", .str "FunctionExpression"),
    ("body", .obj [("type", .str "BlockStatement"), ("body", .arr statements)])]

/-- What becomes of `this.$onInit`. -/
def hook : Node :=
  .mk none (.memberExpression (some (.mk none .thisExpression))
    (some (.mk none (.identifier Controller.hookName))) false)

/-- What becomes of a function with the statements. -/
def functionOf (statements : List (Option Node)) : Node :=
  .mk none (.functionNode .expression (some (.mk none (.blockStatement statements))) [] none false)

theorem ofDump_hookDump : ofDump none hookDump = some hook := by
  have hthis : ofDump none thisDump = some (.mk none .thisExpression) := by
    rw [thisDump, ofDump_obj]
    rfl
  rw [hookDump, ofDump_memberDump, hthis]
  rfl

theorem ofDump_statementDump (e : Json) :
    ofDump none (statementDump e) = some (.mk none (.expressionStatement (ofDump none e))) := by
  rw [statementDump, ofDump_obj]
  show some (Node.mk none (.expressionStatement (childUnder none _ "expression"))) = _
  rw [childUnder_eq_bind]
  rfl

theorem ofDump_assignmentDump (left right : Json) :
    ofDump none (assignmentDump left right) =
      some (.mk none (.assignmentExpression "=" (ofDump none left) (ofDump none right))) := by
  rw [assignmentDump, ofDump_obj]
  show some (Node.mk none (.assignmentExpression "=" (childUnder none _ "left")
    (childUnder none _ "right"))) = _
  rw [childUnder_eq_bind, childUnder_eq_bind]
  rfl

theorem ofDump_functionDump (statements : List Json) :
    ofDump none (functionDump statements) =
      some (functionOf (statements.map (ofDump none))) := by
  have hblock : ofDump none (.obj [("type", .str "BlockStatement"), ("body", .arr statements)]) =
      some (.mk none (.blockStatement (statements.map (ofDump none)))) := by
    rw [ofDump_obj]
    rfl
  rw [functionOf, ← hblock, functionDump, ofDump_obj]
  rfl

/-- The first component has a controller with the hook, the second one a controller without. -/
def chainDump : Json :=
  callOfDump (memberDump (registrationDump "component" [textDump "first", objectDump
      [entryDump (identifierDump "controller")
        (functionDump [statementDump (assignmentDump hookDump (functionDump []))])]]) "component")
    [textDump "second", objectDump [entryDump (identifierDump "controller") (functionDump [])]]

/-- The link that registers a component with the controller. -/
def componentLink (name : Text) (controller : Node) : Link :=
  ⟨none, none, some (.mk none (.identifier "component")), false,
    [some (.mk none (.literal (.str name) .null)), some (.mk none (.objectExpression
      [some (.mk none (.property (some (.mk none (.identifier "controller"))) (some controller)
        "init" false false false))]))]⟩

/-- A controller with the hook. -/
def hooked : Node :=
  functionOf [some (.mk none (.expressionStatement
    (some (.mk none (.assignmentExpression "=" (some hook) (some (functionOf [])))))))]

/-- What becomes of the first component. -/
def firstCall : Node :=
  chain (.mk none (.identifier globalName)) [plainLink moduleName, componentLink "first" hooked]

/-- What becomes of the chain, which is also the second component. -/
def secondCall : Node :=
  chain (.mk none (.identifier globalName))
    [plainLink moduleName, componentLink "first" hooked, componentLink "second" (functionOf [])]

theorem hydrate_chainDump : hydrate none chainDump = .ok (some secondCall) := by
  rw [hydrate_of_finiteLocations ?_]
  · simp only [chainDump, ofDump_callOfDump, ofDump_memberDump, ofDump_registrationDump,
      ofDump_objectDump, ofDump_entryDump, ofDump_textDump, ofDump_identifierDump,
      ofDump_functionDump, ofDump_statementDump, ofDump_assignmentDump, ofDump_hookDump,
      List.map_cons, List.map_nil]
    rfl
  · refine Json.finiteLocations_of_not_within fun x => ?_
    simp [chainDump, registrationDump, callOfDump, memberDump, identifierDump, textDump,
      entryDump, objectDump, functionDump, statementDump, assignmentDump, hookDump, thisDump,
      Json.within_float_obj, Json.within_float_arr, Json.not_within_float]

theorem hasController_componentLink (n : Node) (name : Text) (controller : Node) :
    HasController ((componentLink name controller).onto n) (.node controller) := by
  let entry : Node := .mk none (.property (some (.mk none (.identifier "controller")))
    (some controller) "init" false false false)
  have hholds : (Node.mk none (.objectExpression [some entry])).Holds "controller" entry :=
    ⟨[], [], rfl, rfl, by simp⟩
  exact HasController.given (p := entry) rfl hholds

theorem hasHook_hooked : HasHook (.node hooked) :=
  ⟨hooked, _, rfl, ⟨by decide, _, rfl, List.mem_cons_self⟩,
    .expression rfl ⟨_, _, rfl, rfl, rfl, rfl⟩⟩

theorem not_hasHook_functionOf_nil : ¬HasHook (.node (functionOf [])) := by
  rintro ⟨k, s, hk, ⟨-, b, hb, hs⟩, -⟩
  obtain rfl := Value.node.inj hk
  obtain rfl : Node.mk none (.blockStatement []) = b := Option.some.inj hb
  exact absurd hs (by show s ∉ []; simp)

theorem hasLoneProperties_componentLink (n : Node) (name : Text) (controller : Node) :
    ∀ d, ((componentLink name controller).onto n).argument? 1 = some d →
      d.hasLoneProperties = false := by
  intro d hd
  obtain rfl := Option.some.inj hd
  rfl

theorem hasLoneBody_functionOf (statements : List (Option Node)) :
    ∀ f, Value.node (functionOf statements) = .node f →
      f.expressionBody?.any hasLoneBody = false := by
  intro f hf
  obtain rfl := Value.node.inj hf
  rfl

/-- The rule is silent at the first component, although it is inside the second one, and reports
the second one, although the first one is inside it. -/
theorem makes_chain :
    let c : Context Unit := ⟨rule, "a.js", [], .error⟩
    (∃ inside, inside.node = firstCall ∧ c.Makes inside ⟨[], none⟩) ∧
      ∃ v, c.Makes ⟨secondCall, []⟩ ⟨[v], none⟩ ∧ v.PointsAt c (.node (functionOf [])) := by
  intro c
  obtain ⟨hverdict, hlinks⟩ := makes_of_hasController hydrate_chainDump
  have hvisit := secondCall.root_mem_visits
  constructor
  · obtain ⟨inside, hinside, hfirst, -, -⟩ := hlinks _ hvisit none (plainLink moduleName) []
      (componentLink "first" hooked) [componentLink "second" (functionOf [])] rfl rfl
    have hfirst : inside.node = firstCall := hfirst
    have hcall : inside.node.type = "CallExpression" := by
      rw [hfirst]
      rfl
    obtain ⟨reaction, hmakes, -, hcomponent⟩ := hverdict inside hinside hcall Unit c rfl
    rw [hfirst] at hcomponent
    obtain ⟨k, hk, hjudged⟩ := hcomponent rfl (hasLoneProperties_componentLink _ "first" hooked)
    obtain rfl := hk.unique (hasController_componentLink _ "first" hooked)
    obtain ⟨hsilent, -⟩ := hjudged (hasLoneBody_functionOf _)
    obtain rfl := hsilent hasHook_hooked
    exact ⟨inside, hfirst, hmakes⟩
  · obtain ⟨reaction, hmakes, -, hcomponent⟩ := hverdict _ hvisit rfl Unit c rfl
    obtain ⟨k, hk, hjudged⟩ := hcomponent rfl
      (hasLoneProperties_componentLink _ "second" (functionOf []))
    obtain rfl := hk.unique (hasController_componentLink _ "second" (functionOf []))
    obtain ⟨-, hreported⟩ := hjudged (hasLoneBody_functionOf _)
    obtain ⟨v, rfl, hv⟩ := hreported not_hasHook_functionOf_nil
    exact ⟨v, hmakes, hv⟩

/-- **What it takes to have the hook**: a statement that defines it, or one that merely mentions it.
So a component on which the rule is silent has a controller with such a statement. -/
theorem hasHook_of_hydrate (h : hydrate file raw = .ok tree) :
    (∀ visit ∈ tree.toList.flatMap visits,
      let k := visit.node
      Controller.hasHook (.node k) = .ok true ↔
        ∃ s, k.Owns s ∧ (s.DefinesHook ∨ s.MentionsHook)) ∧
    ∀ (σ : Type) (l : Linter σ) (filename : Text), ∀ call ∈ l.calls tree filename,
      call.context.rule = rule → isOf "component" (.node call.visit.node) = true →
      ∀ m, (call.answer m).1 = ⟨[], none⟩ →
        ∃ k s, HasController call.visit.node (.node k) ∧ k.Owns s ∧
          (s.DefinesHook ∨ s.MentionsHook) := by
  have hdumped := isDumped_of_mem_visits h
  constructor
  · intro visit hvisit k
    have hk : k.IsDumped := hdumped visit hvisit
    constructor
    · intro hhook
      obtain ⟨k', s, hk', howns, hgives⟩ :=
        (Controller.hasHook_iff (w := .node k) hk hhook).mp rfl
      obtain rfl := Value.node.inj hk'
      exact ⟨s, howns, givesHook_iff.mp hgives⟩
    · rintro ⟨s, howns, hs⟩
      exact Controller.hasHook_of_owns hk howns (givesHook_iff.mpr hs)
  · intro σ l filename call hcall hrule hcomponent m hsilent
    obtain ⟨hvisit, -⟩ := Call.mem_schedule.mp hcall
    have hn : call.visit.node.IsDumped := hdumped call.visit hvisit
    have hjudges : call.context.rule.Judges judge := by
      rw [hrule]
      exact rule_judges
    have hanswer := Linter.answer_of_makes hcall (hjudges.makes (type_of_isOf hcomponent)) m
    rw [hsilent] at hanswer
    have hfault : (call.context.reaction (judge (.node call.visit.node))).fault = none := by
      rw [← hanswer]
    obtain ⟨found, hfound⟩ := Context.exists_of_fault_reaction hfault
    obtain ⟨controller, hcontroller, hcases⟩ := judge_cases hn hcomponent hfound
    rcases hcases with ⟨⟨k, s, rfl, howns, hgives⟩, rfl⟩ | ⟨-, r, -, rfl⟩
    · exact ⟨k, s, hcontroller, howns, givesHook_iff.mp hgives⟩
    · -- Silence is not what comes of a request for a known message.
      obtain ⟨v, -, hreaction⟩ := hjudges.reaction hfound
      rw [hreaction] at hanswer
      exact absurd hanswer (by simp)

/-! ### A hook that is only compared -/

/-- A function that compares `this.$onInit` with something, and does not define it. -/
def comparingDump : Json :=
  functionDump [statementDump (.obj [("type", .str "BinaryExpression"), ("operator", .str "==="),
    ("left", hookDump), ("right", identifierDump "other")])]

/-- What becomes of its only statement. -/
def comparison : Node :=
  .mk none (.expressionStatement (some (.mk none (.other "BinaryExpression"
    [("operator", .plain (.str "===")), ("left", .child (some hook)),
      ("right", .child (some (.mk none (.identifier "other"))))]))))

def comparing : Node := functionOf [some comparison]

/-- A component with such a controller. -/
def comparingComponentDump : Json :=
  registrationDump "component" [textDump "name", objectDump
    [entryDump (identifierDump "controller") comparingDump]]

def comparingComponent : Node :=
  chain (.mk none (.identifier globalName)) [plainLink moduleName, componentLink "name" comparing]

theorem ofDump_comparingDump : ofDump none comparingDump = some comparing := by
  have hcomparison : ofDump none (.obj [("type", .str "BinaryExpression"),
      ("operator", .str "==="), ("left", hookDump), ("right", identifierDump "other")]) =
      some (.mk none (.other "BinaryExpression" [("operator", .plain (.str "===")),
        ("left", .child (ofDump none hookDump)),
        ("right", .child (ofDump none (identifierDump "other")))])) := by
    rw [ofDump_obj]
    rfl
  rw [ofDump_hookDump, ofDump_identifierDump] at hcomparison
  rw [comparingDump, ofDump_functionDump, List.map_cons, List.map_nil, ofDump_statementDump,
    hcomparison]
  rfl

theorem hydrate_comparingDump : hydrate none comparingDump = .ok (some comparing) := by
  rw [hydrate_of_finiteLocations ?_, ofDump_comparingDump]
  refine Json.finiteLocations_of_not_within fun x => ?_
  simp [comparingDump, memberDump, identifierDump, functionDump, statementDump, hookDump, thisDump,
    Json.within_float_obj, Json.within_float_arr, Json.not_within_float]

theorem hydrate_comparingComponentDump :
    hydrate none comparingComponentDump = .ok (some comparingComponent) := by
  rw [hydrate_of_finiteLocations ?_]
  · simp only [comparingComponentDump, ofDump_registrationDump, ofDump_objectDump,
      ofDump_entryDump, ofDump_textDump, ofDump_identifierDump, ofDump_comparingDump,
      List.map_cons, List.map_nil]
    rfl
  · refine Json.finiteLocations_of_not_within fun x => ?_
    simp [comparingComponentDump, comparingDump, registrationDump, callOfDump, memberDump,
      identifierDump, textDump, entryDump, objectDump, functionDump, statementDump, hookDump,
      thisDump, Json.within_float_obj, Json.within_float_arr, Json.not_within_float]

/-- The comparison counts as the hook, and nothing is reported. -/
theorem hasHook_comparing :
    let c : Context Unit := ⟨rule, "a.js", [], .error⟩
    hydrate none comparingDump = .ok (some comparing) ∧
      Controller.hasHook (.node comparing) = .ok true ∧
      (∀ s, comparing.Owns s → ¬s.DefinesHook) ∧
      HasController comparingComponent (.node comparing) ∧
      c.Makes ⟨comparingComponent, []⟩ ⟨[], none⟩ := by
  intro c
  have hjudges : c.rule.Judges judge := rule_judges
  refine ⟨hydrate_comparingDump, rfl, ?_, hasController_componentLink _ _ _,
    hjudges.makes rfl⟩
  rintro s ⟨-, b, hb, hs⟩ hdefines
  obtain rfl : Node.mk none (.blockStatement [some comparison]) = b := Option.some.inj hb
  obtain rfl : s = comparison := List.mem_singleton.mp hs
  cases hdefines

/-- A linter with no other rule makes no more of the component than the theorem says. -/
theorem hasController_comparingComponent :
    ∃ k s, HasController comparingComponent (.node k) ∧ k.Owns s ∧
      (s.DefinesHook ∨ s.MentionsHook) := by
  let l : Linter Unit := start [rule] [] ()
  obtain ⟨-, hsilent⟩ := hasHook_of_hydrate hydrate_comparingComponentDump
  have hvisit := comparingComponent.root_mem_visits
  let call : Call Unit := ⟨Listener.contextOf [] "a.js" rule,
    .ofHabit fun visit => .ofLookup (judge (.node visit.node)), ⟨comparingComponent, []⟩⟩
  have hcall : call ∈ l.calls (some comparingComponent) "a.js" :=
    Call.mem_schedule.mpr ⟨hvisit, _, List.mem_cons_self, rfl, rfl⟩
  exact hsilent Unit l "a.js" call hcall rfl rfl () rfl

end OnInit

end AngularLint
