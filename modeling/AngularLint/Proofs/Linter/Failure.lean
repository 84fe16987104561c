import AngularLint.Proofs.Linter.Calls
import AngularLint.Proofs.Rule.Failure
import AngularLint.Proofs.Rule.Steady
import AngularLint.Proofs.Tree.Finite

/-!
# Which calls a linter leaves unchecked

A callback that fails is told of once and lets everything else go on. So a linter that has told
nothing has judged every call it came to, and one that has told something has left a call unchecked.

Rules that keep nothing in mind make an `Outcome` of a visit, and as long as they ask for messages
that they have, a call fails if and only if the outcome has a fault (`Work.Reports.fault_ask`). That
a linter tells something if and only if some outcome has one is `told_eq_nil_iff`.

**`told_eq_nil_iff_of_hydrate`** is what this means for the rules of the tool: which look-ups fail
on which nodes of a dump, and on which dumps a call is left unchecked.
-/

set_option autoImplicit false

namespace AngularLint

variable {σ : Type}

open Node Hydrate

/-! ## Nothing is told if and only if nothing fails -/

/-- Work that asks for known messages fails with the fault of its outcome. -/
theorem Work.Reports.fault_ask {c : Context σ} {fault : Option Fault} {m : σ}
    {requests : List Request}
    (hknown : ∀ r ∈ requests, c.rule.messages.lookup r.message ≠ none) {vs : List Violation}
    {e : Ending σ Unit} (h : (Outcome.ask fault m requests).Reports c vs e) :
    e.fault = fault.map Mishap.fault := by
  induction requests generalizing vs with
  | nil =>
    cases fault with
    | none =>
      cases h
      rfl
    | some f =>
      cases h
      rfl
  | cons r rest ih =>
    cases h with
    | met report hrest => exact ih (fun r' hr' => hknown r' (List.mem_cons_of_mem _ hr')) hrest
    | refused unknown hrest => exact absurd unknown (hknown r List.mem_cons_self)

namespace Session

theorem told_foldl_take_ne_nil {calls : List (Call σ)}
    (hcalls : ∀ c ∈ calls, c.FailsOnlyWith Mishap.IsTold) {s : Session σ}
    (hs : s.interruption = none) (h : s.told.toList ≠ []) :
    (calls.foldl take s).told.toList ≠ [] := by
  induction calls generalizing s with
  | nil => exact h
  | cons c rest ih =>
    obtain ⟨henters, hnext⟩ := take_of_isTold hs (hcalls c List.mem_cons_self)
    refine ih (fun c' hc' => hcalls c' (List.mem_cons_of_mem _ hc')) hnext ?_
    rw [henters.told]
    exact fun hnil => h (List.append_eq_nil_iff.mp hnil).1

/-- A session that has logged nothing yet tells something if and only if a call fails, as long as
what is kept in mind does not decide which calls fail. -/
theorem told_foldl_take_eq_nil_iff {calls : List (Call σ)}
    (hcalls : ∀ c ∈ calls, c.FailsOnlyWith Mishap.IsTold) {s : Session σ}
    (hs : s.interruption = none) (hlog : s.log = []) (htold : s.told.toList = [])
    (faultOf : Call σ → Option Mishap)
    (hfault : ∀ c ∈ calls, ∀ m, (c.answer m).1.fault = faultOf c) :
    (calls.foldl take s).told.toList = [] ↔ ∀ c ∈ calls, faultOf c = none := by
  induction calls generalizing s with
  | nil => exact iff_of_true htold (by simp)
  | cons c rest ih =>
    have hrest := fun c' hc' => hcalls c' (List.mem_cons_of_mem _ hc')
    have hfirst := hfault c List.mem_cons_self s.memory
    obtain ⟨henters, hnext⟩ := take_of_isTold hs (hcalls c List.mem_cons_self)
    rw [List.foldl_cons, List.forall_mem_cons]
    cases hc : faultOf c with
    | none =>
      have hnews : s.news c = [] := by rw [news, hfirst, hc]; rfl
      have hquiet : (s.take c).log = [] ∧ (s.take c).told.toList = [] := by
        rw [henters.log, henters.told, hnews, hlog, htold]
        exact ⟨rfl, rfl⟩
      rw [ih hrest hnext hquiet.1 hquiet.2 fun c' hc' => hfault c' (List.mem_cons_of_mem _ hc')]
      exact (and_iff_right rfl).symm
    | some x =>
      obtain ⟨text, htext⟩ := hcalls c List.mem_cons_self s.memory x (hfirst.trans hc)
      have hloud : (s.take c).told.toList ≠ [] := by
        rw [henters.told, news, hfirst, hc, hlog, Option.bind_some, Mishap.text?, htext]
        simp [Except.toOption]
      refine iff_of_false (told_foldl_take_ne_nil hrest hnext hloud) ?_
      intro hall
      exact absurd hall.1 (by simp)

end Session

/-! ## Rules that keep nothing in mind -/

namespace Call

/-- The call of a rule that keeps nothing in mind. -/
def ofHabit (settings : Settings) (filename : Text) (rule : Rule σ) (habit : Visit → Outcome)
    (visit : Visit) : Call σ :=
  ⟨Listener.contextOf settings filename rule, .ofHabit habit, visit⟩

/-- Such a call fails with the fault of the outcome, as long as it asks for known messages. -/
theorem fault_answer_ofHabit (settings : Settings) (filename : Text) (rule : Rule σ)
    {habit : Visit → Outcome} {visit : Visit}
    (hknown : ∀ r ∈ (habit visit).requests, rule.messages.lookup r.message ≠ none) (m : σ) :
    ((ofHabit settings filename rule habit visit).answer m).1.fault =
      (habit visit).fault.map Mishap.fault :=
  ((Listener.contextOf settings filename rule).reports_perform
    ((habit visit).work m)).fault_ask hknown

/-- Rules that keep nothing in mind are called with their habits. -/
theorem mem_schedule_map {settings : Settings} {filename : Text} {conventions : List Convention}
    {m : σ} {visits : List Visit} {c : Call σ} :
    c ∈ schedule
        (Listener.enlist settings filename (conventions.map Convention.rule) m).listeners visits ↔
      ∃ visit ∈ visits, ∃ convention ∈ conventions,
        let rule : Rule σ := convention.rule
        (settings.settingFor rule).severity ≠ .off ∧
        ∃ habit, (convention.habits ⟨filename, (settings.settingFor rule).options⟩).lookup
            visit.node.type = some habit ∧ c = ofHabit settings filename rule habit visit := by
  obtain ⟨context, callback, visit⟩ := c
  rw [mem_schedule]
  simp only [Listener.mem_enlist_map]
  constructor
  · rintro ⟨hvisit, _, ⟨convention, hconvention, hon, rfl⟩, rfl, hcallback⟩
    rw [Listener.lookup_ofConvention, Option.map_eq_some_iff] at hcallback
    obtain ⟨habit, hhabit, rfl⟩ := hcallback
    exact ⟨visit, hvisit, convention, hconvention, hon, habit, hhabit, rfl⟩
  · rintro ⟨visit', hvisit, convention, hconvention, hon, habit, hhabit, hc⟩
    obtain ⟨rfl, rfl, rfl⟩ := Call.mk.inj hc
    refine ⟨hvisit, _, ⟨convention, hconvention, hon, rfl⟩, rfl, ?_⟩
    rw [Listener.lookup_ofConvention, hhabit]
    rfl

end Call

/-- Does a rule ask for no message that it does not have? -/
def Convention.HasMessages (c : Convention) : Prop :=
  ∀ s, ∀ e ∈ c.habits s, ∀ visit, ∀ r ∈ (e.2 visit).requests, c.messages.lookup r.message ≠ none

namespace Linter

/-- **A fresh linter with rules that keep nothing in mind** tells nothing if and only if no rule at
work makes a fault of a visit that it listens to. -/
theorem told_eq_nil_iff {conventions : List Convention}
    (hknown : ∀ convention ∈ conventions, convention.HasMessages)
    (settings : Settings) (m : σ) (tree : Option Node) (filename : Text) :
    ((start (conventions.map Convention.rule) settings m).verify tree filename).2.2 = [] ↔
      ∀ visit ∈ tree.toList.flatMap visits, ∀ convention ∈ conventions,
        (settings.settingFor (convention.rule : Rule σ)).severity ≠ .off →
        ∀ habit, (convention.habits
            ⟨filename, (settings.settingFor (convention.rule : Rule σ)).options⟩).lookup
              visit.node.type = some habit → (habit visit).fault = none := by
  let l : Linter σ := start (conventions.map Convention.rule) settings m
  have htold := Registry.failsOnlyWith_map (σ := σ) conventions
  let faultOf (c : Call σ) := (c.answer m).1.fault
  have hfault {convention : Convention} (hconvention : convention ∈ conventions)
      {habit : Visit → Outcome} {visit : Visit}
      (hhabit : (convention.habits
        ⟨filename, (settings.settingFor (convention.rule : Rule σ)).options⟩).lookup
          visit.node.type = some habit) (m : σ) :=
    Call.fault_answer_ofHabit settings filename convention.rule
      (hknown convention hconvention _ _ (mem_of_lookup hhabit) visit) m
  rw [verify_eq_calls, Session.told_foldl_take_eq_nil_iff
    (failsOnlyWith_of_mem_calls (l := l) htold tree filename)
    (interruption_session (l := l) htold filename) rfl rfl faultOf]
  · constructor
    · intro hall visit hvisit convention hconvention hon habit hhabit
      rw [← Option.map_eq_none_iff, ← hfault hconvention hhabit m]
      exact hall _ (Call.mem_schedule_map.mpr
        ⟨visit, hvisit, convention, hconvention, hon, habit, hhabit, rfl⟩)
    · intro hall c hc
      obtain ⟨visit, hvisit, convention, hconvention, hon, habit, hhabit, rfl⟩ :=
        Call.mem_schedule_map.mp hc
      refine (hfault hconvention hhabit m).trans (Option.map_eq_none_iff.mpr ?_)
      exact hall visit hvisit convention hconvention hon habit hhabit
  · intro c hc m'
    obtain ⟨visit, -, convention, hconvention, -, habit, hhabit, rfl⟩ :=
      Call.mem_schedule_map.mp hc
    exact (hfault hconvention hhabit m').trans (hfault hconvention hhabit m).symm

/-! ## The rules of the tool -/

theorem hasMessages_conventions :
    ∀ convention ∈ Registry.conventions, convention.HasMessages := by
  intro convention hconvention s e he visit r hr
  simp only [Registry.conventions, List.mem_cons, List.not_mem_nil, or_false] at hconvention
  rcases hconvention with rfl | rfl | rfl
  · obtain rfl := List.mem_singleton.mp he
    rw [show r.message = _ from (TestFilename.request_onCall hr).1]
    exact Option.some_ne_none _
  · obtain rfl := List.mem_singleton.mp he
    rw [show r.message = _ from (TwoWayBinding.request_judge (Outcome.eq_of_mem_ofLookup hr)).1]
    exact Option.some_ne_none _
  · obtain rfl := List.mem_singleton.mp he
    rw [show r.message = _ from (OnInit.request_judge (Outcome.eq_of_mem_ofLookup hr)).1]
    exact Option.some_ne_none _

theorem forall_lookup_iff {habit : Visit → Outcome} {visit : Visit} {stuck : Prop}
    (htype : stuck → visit.node.type = "CallExpression")
    (hfault : (habit visit).fault = none ↔ ¬stuck) :
    (∀ habit', ([("CallExpression", habit)] : List (Text × (Visit → Outcome))).lookup
        visit.node.type = some habit' → (habit' visit).fault = none) ↔ ¬stuck := by
  by_cases hcall : visit.node.type = "CallExpression"
  · have hlookup : ([("CallExpression", habit)] : List (Text × (Visit → Outcome))).lookup
        visit.node.type = some habit := by
      rw [hcall]
      rfl
    simp only [hlookup, Option.some.injEq, forall_eq', hfault]
  · refine iff_of_true (fun habit' h => ?_) (fun h => hcall (htype h))
    rw [List.lookup_cons, beq_false_of_ne hcall] at h
    exact absurd h (by simp)

/-! ### A controller that cannot be judged

An arrow that returns a class is registered as the controller of a component. -/

def identifierDump (name : Text) : Json := .obj [("type", .str "Identifier"), ("name", .str name)]

def memberDump (object : Json) (name : Text) : Json :=
  .obj [("type", .str "MemberExpression"), ("object", object), ("property", identifierDump name)]

def callOfDump (callee : Json) (arguments : List Json) : Json :=
  .obj [("type", .str "CallExpression"), ("callee", callee), ("arguments", .arr arguments)]

/-- The dump of a call that registers an element with a module. -/
def registrationDump (element : Text) (arguments : List Json) : Json :=
  callOfDump (memberDump (callOfDump (memberDump (identifierDump "angular") "module") []) element)
    arguments

def textDump (text : Text) : Json := .obj [("type", .str "Literal"), ("value", .str text)]

def entryDump (key value : Json) : Json :=
  .obj [("type", .str "Property"), ("key", key), ("value", value)]

def objectDump (entries : List Json) : Json :=
  .obj [("type", .str "ObjectExpression"), ("properties", .arr entries)]

def arrowDump : Json :=
  .obj [("type", .str "ArrowFunctionExpression"),
    ("body", .obj [("type", .str "ClassExpression"),
      ("body", .obj [("type", .str "ClassBody"), ("body", .arr [])])])]

def configurationDump : Json :=
  .obj [("type", .str "ObjectExpression"),
    ("properties", .arr [.obj [("type", .str "Property"), ("key", identifierDump "controller"),
      ("value", arrowDump)]])]

def componentDump : Json :=
  callOfDump
    (memberDump (callOfDump (memberDump (identifierDump "angular") "module") []) "component")
    [identifierDump "name", configurationDump]

/-- What becomes of the arrow. -/
def arrow : Node :=
  .mk none (.functionNode .arrow
    (some (.mk none (.classNode .expression (some (.mk none (.classBody []))) none none))) [] none
    false)

def configuration : Node :=
  .mk none (.objectExpression
    [some (.mk none (.property (some (.mk none (.identifier "controller"))) (some arrow) "init"
      false false false))])

/-- What becomes of the registration. -/
def component : Node :=
  .mk none (.callExpression
    (some (.mk none (.memberExpression
      (some (.mk none (.callExpression
        (some (.mk none (.memberExpression (some (.mk none (.identifier "angular")))
          (some (.mk none (.identifier "module"))) false))) [])))
      (some (.mk none (.identifier "component"))) false)))
    [some (.mk none (.identifier "name")), some configuration])

theorem ofDump_identifierDump (name : Text) :
    ofDump none (identifierDump name) = some (.mk none (.identifier name)) := by
  rw [identifierDump, ofDump_obj]
  rfl

theorem ofDump_memberDump (object : Json) (name : Text) :
    ofDump none (memberDump object name) =
      some (.mk none (.memberExpression (ofDump none object) (some (.mk none (.identifier name)))
        false)) := by
  rw [memberDump, ofDump_obj]
  show some (Node.mk none (.memberExpression (childUnder none _ "object")
    (childUnder none _ "property") false)) = _
  rw [childUnder_eq_bind, childUnder_eq_bind, ← ofDump_identifierDump]
  rfl

theorem ofDump_callOfDump (callee : Json) (arguments : List Json) :
    ofDump none (callOfDump callee arguments) =
      some (.mk none (.callExpression (ofDump none callee) (arguments.map (ofDump none)))) := by
  rw [callOfDump, ofDump_obj]
  show some (Node.mk none (.callExpression (childUnder none _ "callee") _)) = _
  rw [childUnder_eq_bind]
  rfl

/-- What becomes of the dump of a registration. -/
def registration (element : Text) (arguments : List (Option Node)) : Node :=
  .mk none (.callExpression
    (some (.mk none (.memberExpression
      (some (.mk none (.callExpression
        (some (.mk none (.memberExpression (some (.mk none (.identifier "angular")))
          (some (.mk none (.identifier "module"))) false))) [])))
      (some (.mk none (.identifier element))) false))) arguments)

theorem ofDump_registrationDump (element : Text) (arguments : List Json) :
    ofDump none (registrationDump element arguments) =
      some (registration element (arguments.map (ofDump none))) := by
  rw [registrationDump, ofDump_callOfDump, ofDump_memberDump, ofDump_callOfDump,
    ofDump_memberDump, ofDump_identifierDump]
  rfl

theorem ofDump_textDump (text : Text) :
    ofDump none (textDump text) = some (.mk none (.literal (.str text) .null)) := by
  rw [textDump, ofDump_obj]
  rfl

theorem ofDump_entryDump (key value : Json) :
    ofDump none (entryDump key value) =
      some (.mk none (.property (ofDump none key) (ofDump none value) "init" false false
        false)) := by
  rw [entryDump, ofDump_obj]
  show some (Node.mk none (.property (childUnder none _ "key") (childUnder none _ "value") "init"
    false false false)) = _
  rw [childUnder_eq_bind, childUnder_eq_bind]
  rfl

theorem ofDump_objectDump (entries : List Json) :
    ofDump none (objectDump entries) =
      some (.mk none (.objectExpression (entries.map (ofDump none)))) := by
  rw [objectDump, ofDump_obj]
  rfl

theorem ofDump_arrowDump : ofDump none arrowDump = some arrow := by
  have hbody : ofDump none (.obj [("type", .str "ClassBody"), ("body", .arr [])]) =
      some (.mk none (.classBody [])) := by
    rw [ofDump_obj]
    rfl
  rw [arrow, ← hbody]
  have hclass : ofDump none (.obj [("type", .str "ClassExpression"),
      ("body", .obj [("type", .str "ClassBody"), ("body", .arr [])])]) =
      some (.mk none (.classNode .expression
        (ofDump none (.obj [("type", .str "ClassBody"), ("body", .arr [])])) none none)) := by
    rw [ofDump_obj]
    rfl
  rw [← hclass, arrowDump, ofDump_obj]
  rfl

theorem ofDump_configurationDump : ofDump none configurationDump = some configuration := by
  have hobject := ofDump_objectDump [entryDump (identifierDump "controller") arrowDump]
  rw [List.map_cons, List.map_nil, ofDump_entryDump, ofDump_identifierDump,
    ofDump_arrowDump] at hobject
  exact hobject

theorem ofDump_componentDump : ofDump none componentDump = some component := by
  have hcomponent := ofDump_registrationDump "component" [identifierDump "name", configurationDump]
  rw [List.map_cons, List.map_cons, List.map_nil, ofDump_identifierDump,
    ofDump_configurationDump] at hcomponent
  exact hcomponent

theorem stuck_component : OnInit.Stuck component := by
  refine ⟨rfl, .inr ⟨arrow, rfl, rfl⟩⟩

theorem hydrate_componentDump : hydrate none componentDump = .ok (some component) := by
  rw [hydrate_of_finiteLocations ?_, ofDump_componentDump]
  refine Json.finiteLocations_of_not_within fun x => ?_
  simp [componentDump, callOfDump, memberDump, identifierDump, configurationDump, arrowDump,
    Json.within_float_obj, Json.within_float_arr, Json.not_within_float]

/-! ### What is left unchecked -/

/-- **Which look-ups fail in the tree of a dump**, and when a linter with the rules of the tool
leaves a call unchecked: where a call is stuck by one of the rules that are at work. -/
theorem told_eq_nil_iff_of_hydrate [Limits] {file : Option Text} {raw : Json}
    {tree : Option Node} (h : hydrate file raw = .ok tree) :
    (∀ visit ∈ tree.toList.flatMap visits,
      let n := visit.node
      let loneArgument := ∃ c, n.argument? 1 = some c ∧ c.hasLoneProperties
      let loneFactory := ∃ f, n.argument? 1 = some f ∧ f.functionBody?.any hasLoneBody
      (∀ key, Fails ((Value.node n).propertyValue? key) ↔ n.hasLoneProperties) ∧
      (Fails (Registration.directiveConfiguration? (.node n)) ↔ loneFactory) ∧
      (Fails (Binding.ofComponent? (.node n)) ↔ loneArgument) ∧
      (Fails (Binding.ofDirective? (.node n)) ↔ loneFactory ∨
        ∃ d, Registration.directiveConfiguration? (.node n) = .ok (some (.node d)) ∧
          d.hasLoneProperties) ∧
      (Fails (Binding.firstTwoWay? (.node n)) ↔ n.hasLoneProperties) ∧
      (Fails (Controller.statements (.node n)) ↔ n.expressionBody?.any hasLoneBody) ∧
      (Fails (Controller.hasHook (.node n)) ↔ n.expressionBody?.any hasLoneBody)) ∧
    ∀ (σ : Type) (m : σ) (filename : Text) (settings : Settings),
      settings.AreAccepted (.standard : Registry σ) →
      (((start .standard settings m).verify tree filename).2.2 = [] ↔
        ∀ visit ∈ tree.toList.flatMap visits,
          ((settings.settingFor (TwoWayBinding.rule (σ := σ))).severity ≠ .off →
            ¬TwoWayBinding.Stuck visit.node) ∧
          ((settings.settingFor (OnInit.rule (σ := σ))).severity ≠ .off →
            ¬OnInit.Stuck visit.node)) := by
  have hdumped := isDumped_of_mem_visits h
  constructor
  · intro visit hvisit n loneArgument loneFactory
    have hn : n.IsDumped := hdumped visit hvisit
    have hv : (Value.node n).IsDumped := hn
    have hlone {p : Node → Prop} : (∃ m, Value.node n = .node m ∧ p m) ↔ p n := by simp
    refine ⟨fun key => ?_, Registration.fails_directiveConfiguration?_iff hn,
      Binding.fails_ofComponent?_iff hn, Binding.fails_ofDirective?_iff hn, ?_, ?_, ?_⟩
    · rw [Value.fails_propertyValue?_iff key hv, hlone]
    · rw [Binding.fails_firstTwoWay?_iff hv, hlone]
    · rw [Controller.fails_statements_iff hv, hlone]
    · rw [Controller.fails_hasHook_iff hv, hlone]
  · intro σ m filename settings haccepted
    rw [Registry.standard, told_eq_nil_iff hasMessages_conventions]
    refine forall₂_congr fun visit hvisit => ?_
    have hn : visit.node.IsDumped := hdumped visit hvisit
    simp only [Registry.conventions, List.forall_mem_cons, List.not_mem_nil, false_implies,
      implies_true, and_true]
    have htest : ∀ habit, (TestFilename.convention.habits ⟨filename,
        (settings.settingFor (TestFilename.rule (σ := σ))).options⟩).lookup visit.node.type =
          some habit → (habit visit).fault = none := by
      have hrule : (TestFilename.rule : Rule σ) ∈ Registry.standard := List.mem_cons_self
      have htextual := haccepted.isTextual hrule
      refine (forall_lookup_iff False.elim ?_).mpr id
      exact iff_of_true (TestFilename.fault_onCall htextual visit) id
    refine (and_iff_right fun _ => htest).trans (and_congr ?_ ?_)
    · refine imp_congr_right fun _ => forall_lookup_iff TwoWayBinding.Stuck.type_eq ?_
      rw [← TwoWayBinding.fails_judge_iff hn]
      exact Outcome.fault_ofLookup_iff
    · refine imp_congr_right fun _ => forall_lookup_iff OnInit.Stuck.type_eq ?_
      rw [← OnInit.fails_judge_iff hn]
      exact Outcome.fault_ofLookup_iff

/-- The arrow is hydrated, and to ask it for its hook is a failure. So under no settings at all the
linter tells that it has left the registration unchecked. -/
theorem told_component :
    hydrate none componentDump = .ok (some component) ∧
      Settings.AreAccepted (.standard : Registry Unit) [] ∧
      ((start (.standard : Registry Unit) [] ()).verify (some component) "a.js").2.2 ≠ [] := by
  obtain ⟨-, htold⟩ := told_eq_nil_iff_of_hydrate hydrate_componentDump
  have haccepted : Settings.AreAccepted (.standard : Registry Unit) [] := by
    intro rule _ setting h
    exact absurd h (by simp)
  refine ⟨hydrate_componentDump, haccepted, fun h => ?_⟩
  have hvisit : (⟨component, []⟩ : Visit) ∈ (some component).toList.flatMap visits := by
    rw [Option.toList_some, List.flatMap_singleton, visits_eq_preorder, preorder_eq]
    exact List.mem_cons_self
  exact ((htold Unit () "a.js" [] haccepted).mp h _ hvisit).2 (by decide) stuck_component

theorem fails_hasHook_arrow :
    hydrate none arrowDump = .ok (some arrow) ∧ Fails (Controller.hasHook (.node arrow)) := by
  refine ⟨?_, _, rfl⟩
  rw [hydrate_of_finiteLocations ?_, ofDump_arrowDump]
  refine Json.finiteLocations_of_not_within fun x => ?_
  simp [arrowDump, Json.within_float_obj, Json.within_float_arr, Json.not_within_float]

end Linter

end AngularLint
