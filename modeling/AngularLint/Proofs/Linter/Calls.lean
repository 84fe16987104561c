import AngularLint.Proofs.Linter.Enlistment
import AngularLint.Proofs.Tree.Preorder

/-!
# What linting a tree reports

`Linter.verify` sets the rules up and is then two nested loops over one state: the walk hands each
visit to one rule after another, every callback may report into the sink that all rules share, and a
callback that fails is logged. What comes out is said here without loops, for rules of any kind:
rules that report when they are set up, keep things in mind, share them, ask again after a refusal,
or fail wherever they like.

Three relations say it, one for each layer of the program, and none of them mentions a sink:

* `Work.Reports` — what work reports **before** it ends or fails;
* `Listener.Enlisted` — which rules are at work, under which settings, with which callbacks, and
  what they have reported when they were set up;
* `Call.Answered` — what comes of calls made one after another, each with what the one before has
  left in mind. Each call has one reaction, whether or not earlier calls have failed; only an exit
  leaves the linter, and then no further call is made.

**`Linter.verify_violations`** is the theorem: the violations are those of the set-up, and then
those of the calls of the `Call.schedule`, which is the preorder of the tree, and at each visit the
rules in the order of the registry.
-/

set_option autoImplicit false

namespace AngularLint

variable {σ : Type}

/-! ## Calls and what comes of them -/

/-- A call of a callback of a rule at a visit. -/
structure Call (σ : Type) where
  context : Context σ
  callback : Callback σ
  visit : Visit

/-- What comes of a call. -/
structure Reaction where
  violations : List Violation
  fault : Option Mishap

def Reaction.exit? (r : Reaction) : Option Interruption := r.fault.bind Mishap.exit?

namespace Call

/-- The calls that visits lead to: visit by visit, and at each visit one rule after another, unless
it does not listen to the kind of the node. -/
def schedule (listeners : List (Listener σ)) (visits : List Visit) : List (Call σ) :=
  visits.flatMap fun visit =>
    listeners.filterMap fun listener =>
      (listener.callbacks.lookup visit.node.type).map fun callback =>
        ⟨listener.context, callback, visit⟩

/-- What comes of calls in turn, and what has left the linter, if something has. -/
inductive Answered : List (Call σ) → σ → List Reaction → σ → Option Interruption → Prop
  | nil (m : σ) : Answered [] m [] m none
  | cons {call : Call σ} {rest : List (Call σ)} {m m' : σ} {vs : List Violation}
      {e : Ending σ Unit} {reactions : List Reaction} {stop : Option Interruption}
      (first : (call.callback call.visit m).Reports call.context vs e)
      (stays : e.fault.bind Mishap.exit? = none)
      (others : Answered rest e.memory reactions m' stop) :
      Answered (call :: rest) m (⟨vs, e.fault⟩ :: reactions) m' stop
  | exit {call : Call σ} {rest : List (Call σ)} {m m' : σ} {vs : List Violation}
      {stop : Interruption}
      (last : (call.callback call.visit m).Reports call.context vs ⟨.error (.exit stop), m'⟩) :
      Answered (call :: rest) m [⟨vs, some (.exit stop)⟩] m' (some stop)

end Call

/-! ## One call -/

/-- What is told of a failure, with what it came with. -/
def Failure.diagnostic (f : Failure) (shown : Text) : Diagnostic :=
  .ruleFailed f.rule f.kind f.file shown

namespace Call

/-- What the log has of the call, if it fails. -/
def failure (c : Call σ) : Failure := ⟨c.context.filename, c.context.rule.id, c.visit.node.type⟩

/-- What comes of a call by itself, and what is kept in mind then. -/
def answer (c : Call σ) (m : σ) : Reaction × σ :=
  let (sink, ending) := c.context.perform (c.callback c.visit m) #[]
  (⟨sink.toList, ending.fault⟩, ending.memory)

/-- Does a call fail with nothing but such mishaps? -/
def FailsOnlyWith (P : Mishap → Prop) (c : Call σ) : Prop :=
  ∀ m x, (c.answer m).1.fault = some x → P x

end Call

namespace Session

/-- Makes a call. -/
def take (s : Session σ) (c : Call σ) : Session σ := s.call c.context c.callback c.visit

/-- What is told after a call: what it has failed with, unless the log has the failure. -/
def news (s : Session σ) (c : Call σ) : List Text :=
  (((c.answer s.memory).1.fault.bind Mishap.text?).filter
    fun _ => !s.log.contains c.failure).toList

theorem take_of_interrupted {s : Session σ} (h : s.interruption ≠ none) (c : Call σ) :
    s.take c = s := by
  rw [take, call]
  exact if_pos (Option.isSome_iff_ne_none.mpr h)

theorem foldl_take_of_interrupted {s : Session σ} (h : s.interruption ≠ none)
    (calls : List (Call σ)) : calls.foldl take s = s := by
  induction calls with
  | nil => rfl
  | cons c rest ih => rw [List.foldl_cons, take_of_interrupted h, ih]

theorem suffer_of_shown (s : Session σ) (failure : Failure) {x : Mishap} {text : Text}
    (h : x.shown = .ok text) :
    s.suffer failure x =
      if s.log.contains failure then s
      else { s with
        log := s.log ++ [failure]
        told := s.told.push (failure.diagnostic text) } := by
  rw [suffer, Mishap.isCaught_of_shown h, Bool.true_and, h]
  rfl

/-- Is the second session the first one, with what comes of a call entered and nothing else? -/
structure Enters (s : Session σ) (c : Call σ) (s' : Session σ) : Prop where
  sink : s'.sink.toList = s.sink.toList ++ (c.answer s.memory).1.violations
  memory : s'.memory = (c.answer s.memory).2
  interruption : s'.interruption = (c.answer s.memory).1.exit?
  log : s'.log = s.log ++ (s.news c).map (fun _ => c.failure)
  told : s'.told.toList = s.told.toList ++ (s.news c).map c.failure.diagnostic

theorem Enters.of_silent {s s' : Session σ} {c : Call σ} (hnews : s.news c = [])
    (hsink : s'.sink.toList = s.sink.toList ++ (c.answer s.memory).1.violations)
    (hmemory : s'.memory = (c.answer s.memory).2)
    (hinterruption : s'.interruption = (c.answer s.memory).1.exit?) (hlog : s'.log = s.log)
    (htold : s'.told = s.told) : s.Enters c s' where
  sink := hsink
  memory := hmemory
  interruption := hinterruption
  log := by rw [hnews, hlog, List.map_nil, List.append_nil]
  told := by rw [hnews, htold, List.map_nil, List.append_nil]

/-- The work ends as it does with an empty sink, and how it ends decides about the rest. -/
theorem take_eq {s : Session σ} (hs : s.interruption = none) (c : Call σ) :
    let w := c.callback c.visit s.memory
    let s' := { s with
      sink := (c.context.perform w s.sink).1, memory := (c.context.perform w #[]).2.memory }
    s.take c = (c.answer s.memory).1.fault.elim s' (s'.suffer c.failure) := by
  intro w s'
  obtain ⟨-, hending⟩ := c.context.perform_eq w s.sink
  have hanswer : (c.answer s.memory).1.fault = (c.context.perform w #[]).2.fault := rfl
  rw [take, call, if_neg (by simp [hs])]
  dsimp only [s']
  rw [hanswer, ← hending, Ending.fault]
  cases (c.context.perform w s.sink).2.result with
  | ok u => rfl
  | error x => rfl

/-- **What one call does**, as long as what the linter takes care of can be told. -/
theorem take_enters {s : Session σ} (hs : s.interruption = none) {c : Call σ}
    (hc : c.FailsOnlyWith Mishap.IsShowable) : s.Enters c (s.take c) := by
  obtain ⟨hsink, -⟩ := c.context.perform_eq (c.callback c.visit s.memory) s.sink
  rw [take_eq hs c]
  cases hfault : (c.answer s.memory).1.fault with
  | none =>
    refine .of_silent ?_ hsink rfl ?_ rfl rfl
    · rw [news, hfault]
      rfl
    · rw [Reaction.exit?, hfault]
      exact hs
  | some x =>
    have hexit : (c.answer s.memory).1.exit? = x.exit? := by rw [Reaction.exit?, hfault]; rfl
    have hnews : s.news c = (x.text?.filter fun _ => !s.log.contains c.failure).toList := by
      rw [news, hfault]
      rfl
    rw [Option.elim_some]
    cases hstop : x.exit? with
    | some self =>
      obtain rfl := Mishap.exit?_eq_some_iff.mp hstop
      exact .of_silent hnews hsink rfl hexit.symm rfl rfl
    | none =>
      obtain ⟨text, htext⟩ := hc s.memory x hfault (Mishap.isCaught_of_exit? hstop)
      have hstays := hs.trans (hexit.trans hstop).symm
      rw [Mishap.text?, htext, Except.toOption, Option.filter_some] at hnews
      rw [suffer_of_shown _ _ htext]
      dsimp only
      -- Log and diagnostics grow together, or neither does.
      cases hlogged : s.log.contains c.failure with
      | true =>
        rw [hlogged] at hnews
        exact .of_silent hnews hsink rfl hstays rfl rfl
      | false =>
        rw [hlogged] at hnews
        refine ⟨hsink, rfl, hstays, ?_, ?_⟩
        · rw [hnews]
          rfl
        · rw [hnews]
          exact Array.toList_push

/-! ## A session is its calls in turn

`Session.tour` goes along a walk, and `Session.hear` looks up a callback for every rule; both are
only ways to find the next call. -/

theorem foldl_hear (listeners : List (Listener σ)) (visit : Visit) (s : Session σ) :
    listeners.foldl (hear visit) s = (Call.schedule listeners [visit]).foldl take s := by
  rw [Call.schedule, List.flatMap_singleton]
  induction listeners generalizing s with
  | nil => rfl
  | cons listener rest ih =>
    rw [List.foldl_cons, ih, hear]
    cases hlookup : listener.callbacks.lookup visit.node.type with
    | none => rw [List.filterMap_cons_none (by rw [hlookup]; rfl)]
    | some callback =>
      rw [List.filterMap_cons_some (by rw [hlookup]; rfl), List.foldl_cons]
      rfl

theorem tour_eq_foldl (listeners : List (Listener σ)) (w : Walk) (s : Session σ) :
    tour listeners w s = (Call.schedule listeners w.run).foldl take s := by
  induction h : w.remaining using Nat.strongRecOn generalizing w s with
  | ind size ih =>
    subst h
    rw [tour, Walk.run_eq]
    split
    · rename_i hstep
      rw [hstep]
      rfl
    · rename_i w' hstep
      rw [hstep]
      exact ih _ (Walk.remaining_lt_of_step hstep) w' s rfl
    · rename_i visit w' hstep
      rw [hstep, ih _ (Walk.remaining_lt_of_step hstep) w' _ rfl, foldl_hear, ← List.foldl_append]
      simp only [Call.schedule, List.flatMap_cons, List.flatMap_nil, List.append_nil]

/-- A call whose mishaps can be told does not keep the linter from the next one. -/
theorem take_of_isTold {s : Session σ} (hs : s.interruption = none) {c : Call σ}
    (hc : c.FailsOnlyWith Mishap.IsTold) :
    s.Enters c (s.take c) ∧ (s.take c).interruption = none := by
  have henters := take_enters hs fun m x hx => (hc m x hx).isShowable
  refine ⟨henters, ?_⟩
  rw [henters.interruption, Reaction.exit?]
  cases hfault : (c.answer s.memory).1.fault with
  | none => rfl
  | some x => exact (hc s.memory x hfault).exit?_eq

theorem interruption_foldl_take {calls : List (Call σ)}
    (hcalls : ∀ c ∈ calls, c.FailsOnlyWith Mishap.IsTold) {s : Session σ}
    (hs : s.interruption = none) : (calls.foldl take s).interruption = none := by
  induction calls generalizing s with
  | nil => exact hs
  | cons c rest ih =>
    refine ih (fun c' hc' => hcalls c' (List.mem_cons_of_mem _ hc')) ?_
    exact (take_of_isTold hs (hcalls c List.mem_cons_self)).2

end Session

/-! ## A whole tree -/

namespace Call

theorem schedule_nil (visits : List Visit) : schedule ([] : List (Listener σ)) visits = [] :=
  List.flatMap_eq_nil_iff.mpr fun _ _ => rfl

/-- Calls are only made of rules at work, at visits of the walk. -/
theorem mem_schedule {listeners : List (Listener σ)} {visits : List Visit} {c : Call σ} :
    c ∈ schedule listeners visits ↔
      c.visit ∈ visits ∧ ∃ listener ∈ listeners, listener.context = c.context ∧
        listener.callbacks.lookup c.visit.node.type = some c.callback := by
  obtain ⟨context, callback, visit⟩ := c
  simp only [schedule, List.mem_flatMap, List.mem_filterMap, Option.map_eq_some_iff,
    Call.mk.injEq]
  constructor
  · rintro ⟨_, hvisit, listener, hlistener, _, hlookup, hcontext, rfl, rfl⟩
    exact ⟨hvisit, listener, hlistener, hcontext, hlookup⟩
  · rintro ⟨hvisit, listener, hlistener, hcontext, hlookup⟩
    exact ⟨_, hvisit, listener, hlistener, _, hlookup, hcontext, rfl, rfl⟩

/-- The violations of an answered call bear the labels of its rule. -/
theorem Answered.bears {calls : List (Call σ)} {m m' : σ} {reactions : List Reaction}
    {stop : Option Interruption} (h : Answered calls m reactions m' stop) :
    ∀ e ∈ calls.zip reactions, ∀ v ∈ e.2.violations, v.Bears e.1.context := by
  induction h with
  | nil m => intro e he; exact absurd he (by simp)
  | cons first stays others ih =>
    intro e he
    rcases List.mem_cons.mp he with rfl | hrest
    · exact first.bears
    · exact ih e hrest
  | exit last =>
    intro e he
    rw [List.zip_cons_cons, List.zip_nil_right, List.mem_singleton] at he
    subst he
    exact last.bears

end Call

namespace Linter

/-- The calls that a linter makes on a tree. -/
def calls (l : Linter σ) (tree : Option Node) (filename : Text) : List (Call σ) :=
  Call.schedule (Listener.enlist l.settings filename l.registry l.memory).listeners
    (tree.toList.flatMap Node.visits)

theorem verify_eq_calls (l : Linter σ) (tree : Option Node) (filename : Text) :
    let s := (l.calls tree filename).foldl Session.take (l.session filename)
    l.verify tree filename = (s.result, { l with log := s.log, memory := s.memory }, s.told.toList)
    := by
  intro s
  cases tree with
  | none => rfl
  | some root =>
    dsimp only [s]
    rw [verify, calls, Option.toList_some, List.flatMap_singleton, Node.visits,
      ← Session.tour_eq_foldl]
    split
    · rename_i hempty
      -- With nobody at work there is no walk, and a walk would make no call either.
      rw [Session.tour_eq_foldl, List.isEmpty_iff.mp hempty, Call.schedule_nil]
      rfl
    · rfl

section
variable {P : Mishap → Prop} {l : Linter σ} (h : ∀ rule ∈ l.registry, rule.FailsOnlyWith P)

include h in
theorem interruption_session (filename : Text) : (l.session filename).interruption = none :=
  (Listener.enlist_of_failsOnlyWith h l.settings filename l.memory).1

include h in
/-- Calls fail as their rules may. -/
theorem failsOnlyWith_of_mem_calls (tree : Option Node) (filename : Text) :
    ∀ c ∈ l.calls tree filename, c.FailsOnlyWith P := by
  intro c hc m x hx
  obtain ⟨-, listener, hlistener, hcontext, hlookup⟩ := Call.mem_schedule.mp hc
  refine (Listener.enlist_of_failsOnlyWith h l.settings filename l.memory).2 listener hlistener _
    (mem_of_lookup hlookup) c.visit m x ?_
  rw [hcontext]
  exact Ending.fault_eq_some_iff.mp hx

end

/-- Rules whose mishaps can be told do not keep the linter from returning what is reported. -/
theorem verify_eq_ok {l : Linter σ} (h : ∀ rule ∈ l.registry, rule.FailsOnlyWith Mishap.IsTold)
    (tree : Option Node) (filename : Text) :
    (l.verify tree filename).1 =
      .ok ((l.calls tree filename).foldl Session.take (l.session filename)).sink.toList := by
  rw [verify_eq_calls]
  dsimp only
  rw [Session.result, Session.interruption_foldl_take (failsOnlyWith_of_mem_calls h tree filename)
    (interruption_session h filename)]

/-- A rule that reports each `this`, asks for a message that it does not have, and then goes on as
`ending` says. -/
def probeRule (id : Text) (ending : Work Unit Unit) : Rule Unit where
  id := id
  description := "Reports each this."
  category := "probe"
  recommended := true
  messages := [("found", "Found.")]
  options := []
  fixable := none
  create := fun _ memory =>
    .done [("ThisExpression", fun visit _ =>
      .report ⟨"found", .node visit.node, []⟩ fun _ =>
        .report ⟨"lost", .node visit.node, []⟩ fun _ => ending)] memory

theorem failsOnlyWith_probeRule {P : Mishap → Prop} (id : Text) {ending : Work Unit Unit}
    (h : ∀ (c : Context Unit) sink x, (c.perform ending sink).2.result = .error x → P x) :
    (probeRule id ending).FailsOnlyWith P := by
  intro c _ m
  refine ⟨_, rfl, ?_⟩
  intro e he visit m' x hx
  obtain rfl := List.mem_singleton.mp he
  have hlost (sink : Array Violation)
      (hx : (c.perform (.report ⟨"lost", .node visit.node, []⟩ fun _ => ending) sink).2.result =
        .error x) : P x := by
    rw [Context.perform] at hx
    cases hreport : c.report ⟨"lost", .node visit.node, []⟩ with
    | ok v => exact h c (sink.push v) x (by rwa [hreport] at hx)
    | error fault => exact h c sink x (by rwa [hreport] at hx)
  rw [Context.perform] at hx
  cases hreport : c.report ⟨"found", .node visit.node, []⟩ with
  | ok v => exact hlost _ (by rwa [hreport] at hx)
  | error fault => exact hlost _ (by rwa [hreport] at hx)

/-- A rule that reports when it is set up, and never again. -/
def hastyRule : Rule Unit where
  id := "hasty"
  description := "Reports the file."
  category := "probe"
  recommended := true
  messages := [("found", "Found.")]
  options := []
  fixable := none
  create := fun _ memory => .report ⟨"found", .plain .null, []⟩ fun _ => .done [] memory

theorem failsOnlyWith_hastyRule : hastyRule.FailsOnlyWith Mishap.IsTold := by
  intro c _ m
  refine ⟨[], ?_, fun e he => absurd he (by simp)⟩
  show (c.perform (.report ⟨"found", .plain .null, []⟩ fun _ => .done [] m) #[]).2.result = _
  rw [Context.perform]
  cases c.report ⟨"found", .plain .null, []⟩ with
  | ok v => rfl
  | error fault => rfl

/-- An error that can be shown. -/
def lost : Mishap := .error ⟨"ValueError", "lost"⟩ (.ok "ValueError('lost')")

def stop : Interruption := ⟨"SystemExit", "stop"⟩

/-- A rule that reports when it is set up, one that fails, and one that does not. -/
def probeLinter : Linter Unit :=
  .start [hastyRule, probeRule "flawed" (.fail lost ()), probeRule "sound" (.done () ())] [] ()

theorem failsOnlyWith_probeLinter :
    ∀ rule ∈ probeLinter.registry, rule.FailsOnlyWith Mishap.IsTold := by
  intro rule hrule
  simp only [probeLinter, start, List.mem_cons, List.not_mem_nil, or_false] at hrule
  rcases hrule with rfl | rfl | rfl
  · exact failsOnlyWith_hastyRule
  · refine failsOnlyWith_probeRule "flawed" fun c sink x hx => ?_
    obtain rfl := Except.error.inj hx
    exact ⟨_, rfl⟩
  · exact failsOnlyWith_probeRule "sound" fun c sink x hx => absurd hx (by simp [Context.perform])

end Linter

end AngularLint
