import AngularLint.Proofs.Linter.Independence
import AngularLint.Proofs.Linter.Pairing

/-!
# The life of a linter

A linter works on one tree after another, and its settings may change in between. What it carries
along is the log of the failures that it has told of. This file says what the log is good for and
that it does no harm:

* it holds the failures of all callbacks that have failed so far, and each of them has been told
  **once**, when it first came up and with what it was shown as then (`Accounts`, which one call
  keeps and therefore every life does);
* it has no say in what is reported. If the rules do not keep anything in mind from one file to the
  next (`Registry.StartsAfresh`), what a linter reports on a tree is what a linter without a past
  would report there.

The rules may keep things in mind *within* a file, and share them with each other. They may also end
the work on a file; the linter that is left then can go on with the next one.
-/

set_option autoImplicit false

namespace AngularLint

variable {σ : Type}

/-- A callback has failed, and what it has failed with is shown like this. -/
structure Incident where
  failure : Failure
  shown : Text

namespace Incident

def diagnostic (i : Incident) : Diagnostic := i.failure.diagnostic i.shown

/-- Of every failure the first incident, in the order of the incidents. -/
def firsts (incidents : List Incident) : List Incident :=
  incidents.eraseDupsBy fun i j => i.failure == j.failure

theorem firsts_concat (incidents : List Incident) (last : Incident) :
    firsts (incidents ++ [last]) =
      if last.failure ∈ incidents.map failure then firsts incidents
      else firsts incidents ++ [last] := by
  -- On the length: `eraseDupsBy` goes on with what is left of the tail, not with the tail.
  induction h : incidents.length using Nat.strongRecOn generalizing incidents with
  | ind size ih =>
    subst h
    cases incidents with
    | nil => rfl
    | cons i rest =>
      let others := rest.filter fun j => decide ((j.failure == i.failure) = false)
      have hcons (l : List Incident) : firsts (i :: l) =
          i :: firsts (l.filter fun j => decide ((j.failure == i.failure) = false)) :=
        List.eraseDupsBy_cons
      have hlength : others.length < (i :: rest).length :=
        Nat.lt_succ_of_le (List.length_filter_le _ _)
      rw [List.cons_append, hcons, hcons, List.filter_append]
      by_cases hi : last.failure = i.failure
      · -- The last incident is of the failure of the first, which goes without it.
        have hlast : [last].filter (fun j => decide ((j.failure == i.failure) = false)) = [] := by
          simp [hi]
        rw [hlast, List.append_nil, if_pos (by simp [hi])]
      · have hlast : [last].filter (fun j => decide ((j.failure == i.failure) = false)) =
            [last] := by simp [hi]
        -- What is taken out are incidents of another failure, so it is new behind all if it is new
        -- behind the others.
        have hmem : last.failure ∈ others.map failure ↔
            last.failure ∈ (i :: rest).map failure := by
          simp only [others, List.mem_map, List.mem_filter, List.mem_cons]
          constructor
          · rintro ⟨j, ⟨hj, -⟩, heq⟩
            exact ⟨j, .inr hj, heq⟩
          · rintro ⟨j, rfl | hj, heq⟩
            · exact absurd heq.symm hi
            · exact ⟨j, ⟨hj, by simpa [heq] using hi⟩, heq⟩
        rw [hlast, ih _ hlength others rfl]
        simp only [hmem]
        split
        · rfl
        · rfl

/-- Do a log and what has been told give account of incidents? -/
structure Accounts (incidents : List Incident) (log : List Failure) (told : List Diagnostic) :
    Prop where
  log : ∀ failure, failure ∈ log ↔ ∃ i ∈ incidents, i.failure = failure
  told : told = (firsts incidents).map diagnostic

namespace Accounts

variable {incidents : List Incident} {log : List Failure} {told : List Diagnostic}

theorem mem_log_iff (h : Accounts incidents log told) {failure : Failure} :
    failure ∈ log ↔ failure ∈ incidents.map Incident.failure := by
  rw [h.log failure, List.mem_map]

theorem repetition (h : Accounts incidents log told) {i : Incident} (hlogged : i.failure ∈ log) :
    Accounts (incidents ++ [i]) log told := by
  constructor
  · intro failure
    rw [h.log failure]
    simp only [List.mem_append, List.mem_singleton, or_and_right, exists_or, exists_eq_left]
    refine (or_iff_left_of_imp ?_).symm
    rintro rfl
    exact (h.log i.failure).mp hlogged
  · rw [firsts_concat, if_pos (h.mem_log_iff.mp hlogged)]
    exact h.told

theorem first (h : Accounts incidents log told) {i : Incident} (hnew : i.failure ∉ log) :
    Accounts (incidents ++ [i]) (log ++ [i.failure]) (told ++ [i.diagnostic]) := by
  constructor
  · intro failure
    rw [List.mem_append, List.mem_singleton, h.log failure]
    simp only [List.mem_append, List.mem_singleton, or_and_right, exists_or, exists_eq_left]
    exact or_congr_right eq_comm
  · rw [firsts_concat, if_neg fun hmem => hnew (h.mem_log_iff.mpr hmem), List.map_append, h.told]
    rfl

end Accounts

end Incident

open Incident

namespace Call

/-- What the call adds to the incidents. -/
def incident? (c : Call σ) (m : σ) : Option Incident :=
  ((c.answer m).1.fault.bind Mishap.text?).map (Incident.mk c.failure)

/-- The incidents among calls in turn. To exit is no incident, and no call comes behind it. -/
def incidents : List (Call σ) → σ → List Incident
  | [], _ => []
  | c :: rest, m =>
    if (c.answer m).1.exit?.isSome then []
    else (c.incident? m).toList ++ incidents rest (c.answer m).2

end Call

namespace Session

/-- The account is kept through one call. -/
theorem accounts_of_enters {s s' : Session σ} {past : List Incident} {before : List Diagnostic}
    (h : Accounts past s.log (before ++ s.told.toList)) {c : Call σ} (henters : s.Enters c s') :
    Accounts (past ++ (c.incident? s.memory).toList) s'.log (before ++ s'.told.toList) := by
  rw [henters.log, henters.told, ← List.append_assoc, news, Call.incident?]
  cases (c.answer s.memory).1.fault.bind Mishap.text? with
  | none =>
    simp only [Option.map_none, Option.toList_none, Option.filter_none, List.map_nil,
      List.append_nil]
    exact h
  | some text =>
    rw [Option.map_some, Option.toList_some, Option.filter_some]
    -- The log knows what the past knows (`mem_log_iff`): it tells a repetition from a first time.
    by_cases hlogged : c.failure ∈ s.log
    · rw [List.contains_iff_mem.mpr hlogged]
      simp only [Bool.not_true, Bool.false_eq_true, if_false, Option.toList_none, List.map_nil,
        List.append_nil]
      exact h.repetition hlogged
    · rw [Bool.eq_false_iff.mpr fun hc => hlogged (List.contains_iff_mem.mp hc)]
      exact h.first hlogged

/-- **The account is kept through calls in turn.** -/
theorem foldl_take_accounts {calls : List (Call σ)}
    (hcalls : ∀ c ∈ calls, c.FailsOnlyWith Mishap.IsShowable) {s : Session σ}
    (hs : s.interruption = none) {past : List Incident} {before : List Diagnostic}
    (h : Accounts past s.log (before ++ s.told.toList)) :
    Accounts (past ++ Call.incidents calls s.memory) (calls.foldl take s).log
      (before ++ (calls.foldl take s).told.toList) := by
  -- With each call its incident becomes part of the past.
  induction calls generalizing s past with
  | nil =>
    rw [Call.incidents, List.append_nil]
    exact h
  | cons c rest ih =>
    have henters := take_enters hs (hcalls c List.mem_cons_self)
    have hfirst := accounts_of_enters h henters
    rw [Call.incidents, List.foldl_cons]
    cases hexit : (c.answer s.memory).1.exit? with
    | some self =>
      -- What exits cannot be told, and so it is no incident.
      have hinterrupted : (s.take c).interruption ≠ none := by
        rw [henters.interruption, hexit]
        simp
      obtain ⟨x, hfault, hx⟩ := Option.bind_eq_some_iff.mp hexit
      obtain rfl := Mishap.exit?_eq_some_iff.mp hx
      have hnone : c.incident? s.memory = none := by
        rw [Call.incident?, hfault]
        rfl
      rw [hnone] at hfirst
      rw [foldl_take_of_interrupted hinterrupted]
      exact hfirst
    | none =>
      have hrest := ih (fun c' hc' => hcalls c' (List.mem_cons_of_mem _ hc'))
        (henters.interruption.trans hexit) hfirst
      rw [henters.memory, List.append_assoc] at hrest
      exact hrest

end Session

/-! ## Rules that start every file afresh -/

/-- Are the rules set up alike for every file, whatever has been in mind before? What is different
in mind then, within `R`, makes no difference to what comes of their callbacks. -/
def Registry.StartsAfresh (registry : Registry σ) : Prop :=
  ∀ (settings : Settings) (filename : Text), ∃ R : σ → σ → Prop, ∀ m m' : σ,
    let enlisted := Listener.enlist settings filename registry m
    let enlisted' := Listener.enlist settings filename registry m'
    R enlisted.memory enlisted'.memory ∧ enlisted.reports = enlisted'.reports ∧
      List.Forall₂ (fun l l' => List.Forall₂ (fun e e' => e.1 = e'.1 ∧ ∀ visit,
          Call.Alike R id ⟨l.context, e.2, visit⟩ ⟨l'.context, e'.2, visit⟩)
        l.callbacks l'.callbacks) enlisted.listeners enlisted'.listeners

namespace Linter

/-- A linter whose rules start afresh reports as if it had no past. -/
theorem verify_of_startsAfresh {l l' : Linter σ} (hregistry : l.registry = l'.registry)
    (hsettings : l.settings = l'.settings)
    (hshowable : ∀ rule ∈ l.registry, rule.FailsOnlyWith Mishap.IsShowable)
    (hafresh : l.registry.StartsAfresh) (tree : Option Node) (filename : Text) :
    (l.verify tree filename).1 = (l'.verify tree filename).1 := by
  obtain ⟨R, hR⟩ := hafresh l.settings filename
  obtain ⟨hmemory, hreports, hlisteners⟩ := hR l.memory l'.memory
  have hcalls : List.Forall₂ (Call.Alike R id) (l.calls tree filename)
      (l'.calls tree filename) := by
    rw [calls, calls, ← hregistry, ← hsettings]
    refine Call.schedule_alike (V := Eq) ?_ hlisteners
      (List.forall₂_same.mpr fun visit _ => rfl)
    rintro listener listener' hcallbacks visit _ rfl
    rcases Listener.lookup_of_forall₂
      (S := fun cb cb' => ∀ visit, Call.Alike R id ⟨listener.context, cb, visit⟩
        ⟨listener'.context, cb', visit⟩) hcallbacks visit.node.type with
      ⟨hnone, hnone'⟩ | ⟨cb, cb', hsome, hsome', halike⟩
    · rw [hnone, hnone']
      exact .none
    · rw [hsome, hsome']
      exact .some (halike visit)
  have hstart : (l.session filename).Alike R id (l'.session filename) := by
    -- The logs differ, and `Alike` does not ask about them.
    refine ⟨?_, ?_, ?_⟩
    · rw [session, session, ← hregistry, ← hsettings, hreports]
    · rw [session, session, ← hregistry, ← hsettings]
      exact hmemory
    · rw [interruption_session hshowable, interruption_session (hregistry ▸ hshowable)]
  have hresult := (Session.foldl_take_alike hcalls
    (failsOnlyWith_of_mem_calls hshowable tree filename)
    (failsOnlyWith_of_mem_calls (hregistry ▸ hshowable) tree filename) hstart).1.result
  rw [List.map_id_fun, Except.map_id, id, id] at hresult
  rw [verify_eq_calls, verify_eq_calls]
  exact hresult

/-! ## A whole life -/

/-- What happens to a linter. -/
inductive Event where
  | configure (settings : Settings)
  | lint (tree : Option Node) (filename : Text)

/-- A linter, and what there has been in its life. -/
structure History (σ : Type) where
  linter : Linter σ
  incidents : List Incident
  told : List Diagnostic

namespace History

def next (h : History σ) : Event → History σ
  | .configure settings => { h with linter := { h.linter with settings } }
  | .lint tree filename =>
    let (_, linter, told) := h.linter.verify tree filename
    ⟨linter, h.incidents ++ Call.incidents (h.linter.calls tree filename)
      (h.linter.session filename).memory, h.told ++ told⟩

/-- The life of a linter that is new at first. -/
def of (registry : Registry σ) (settings : Settings) (m : σ) (events : List Event) : History σ :=
  events.foldl next ⟨start registry settings m, [], []⟩

theorem registry_next (h : History σ) (event : Event) :
    (h.next event).linter.registry = h.linter.registry := by
  cases event with
  | configure settings => rfl
  | lint tree filename => rfl

/-- A session takes over the log and has told nothing yet. -/
theorem accounts_session {h : History σ} (haccounts : Accounts h.incidents h.linter.log h.told)
    (filename : Text) :
    Accounts h.incidents (h.linter.session filename).log
      (h.told ++ (h.linter.session filename).told.toList) := by
  show Accounts h.incidents h.linter.log (h.told ++ [])
  rw [List.append_nil]
  exact haccounts

theorem next_accounts {h : History σ}
    (hshowable : ∀ rule ∈ h.linter.registry, rule.FailsOnlyWith Mishap.IsShowable)
    (haccounts : Accounts h.incidents h.linter.log h.told) (event : Event) :
    Accounts (h.next event).incidents (h.next event).linter.log (h.next event).told := by
  cases event with
  | configure settings => exact haccounts
  | lint tree filename =>
    have hcalls := Session.foldl_take_accounts (failsOnlyWith_of_mem_calls hshowable tree filename)
      (interruption_session hshowable filename) (accounts_session haccounts filename)
    rw [next, verify_eq_calls]
    exact hcalls

/-- What one event keeps, a life keeps. -/
theorem foldl_next {P : History σ → Prop} (hstep : ∀ h event, P h → P (h.next event))
    (events : List Event) {h : History σ} (hstart : P h) : P (events.foldl next h) := by
  induction events generalizing h with
  | nil => exact hstart
  | cons event rest ih => exact ih (hstep h event hstart)

end History

/-- **The log and what is told, at every point of a life**, also in the middle of a tree; and what a
linter reports, with a past and without. -/
theorem history_accounts {registry : Registry σ}
    (hshowable : ∀ rule ∈ registry, rule.FailsOnlyWith Mishap.IsShowable) (settings : Settings)
    (m : σ) (events : List Event) :
    let h := History.of registry settings m events
    Accounts h.incidents h.linter.log h.told ∧
      (∀ (tree : Option Node) (filename : Text) (done pending : List (Call σ)),
        h.linter.calls tree filename = done ++ pending →
        let s := h.linter.session filename
        Accounts (h.incidents ++ Call.incidents done s.memory) (done.foldl Session.take s).log
          (h.told ++ (done.foldl Session.take s).told.toList)) ∧
      (registry.StartsAfresh → ∀ (tree : Option Node) (filename : Text) (m' : σ),
        (h.linter.verify tree filename).1 =
          ((start registry h.linter.settings m').verify tree filename).1) := by
  intro h
  have hregistry : h.linter.registry = registry := by
    refine History.foldl_next (P := fun h => h.linter.registry = registry)
      (fun h event hpast => (h.registry_next event).trans hpast) events rfl
  have haccounts : Accounts h.incidents h.linter.log h.told := by
    refine (History.foldl_next (P := fun h => h.linter.registry = registry ∧
      Accounts h.incidents h.linter.log h.told) (fun h event hpast => ?_) events ?_).2
    · obtain ⟨hsame, hpast⟩ := hpast
      refine ⟨(h.registry_next event).trans hsame, History.next_accounts ?_ hpast event⟩
      rw [hsame]
      exact hshowable
    · exact ⟨rfl, fun failure => by simp [start], rfl⟩
  have hown : ∀ rule ∈ h.linter.registry, rule.FailsOnlyWith Mishap.IsShowable := by
    rw [hregistry]
    exact hshowable
  refine ⟨haccounts, ?_, ?_⟩
  · intro tree filename done pending hsplit s
    refine Session.foldl_take_accounts (fun c hc => ?_) (interruption_session hown filename)
      (History.accounts_session haccounts filename)
    refine failsOnlyWith_of_mem_calls hown tree filename c ?_
    rw [hsplit]
    exact List.mem_append_left _ hc
  · intro hafresh tree filename m'
    apply verify_of_startsAfresh
    · exact hregistry
    · rfl
    · exact hown
    · rw [hregistry]
      exact hafresh

/-- A rule that fails at each `this`, with the number of those before it in the file. -/
def countingRule : Rule Nat where
  id := "counting"
  description := "Counts each this."
  category := "probe"
  recommended := true
  messages := []
  options := []
  fixable := none
  create := fun _ _ =>
    .done [("ThisExpression", fun _ count =>
      .fail (.error ⟨"ValueError", toString count⟩ (.ok s!"ValueError('{count}')")) (count + 1))] 0

theorem failsOnlyWith_countingRule :
    ∀ rule ∈ [countingRule], rule.FailsOnlyWith Mishap.IsShowable := by
  intro rule hrule c _ m
  obtain rfl := List.mem_singleton.mp hrule
  refine ⟨_, rfl, fun e he visit count x hx => ?_⟩
  obtain rfl := List.mem_singleton.mp he
  obtain rfl := Except.error.inj hx
  exact fun _ => ⟨_, rfl⟩

theorem startsAfresh_countingRule : Registry.StartsAfresh [countingRule] := by
  intro settings filename
  by_cases hoff : (settings.settingFor countingRule).severity = .off
  · -- Not set up at all: what was in mind stays there, and nobody looks at it.
    refine ⟨fun _ _ => True, fun m m' => ?_⟩
    rw [Listener.enlist_off hoff, Listener.enlist_off hoff]
    exact ⟨trivial, rfl, .nil⟩
  · -- Set up: the count starts at zero on both sides, and goes on alike.
    refine ⟨Eq, fun m m' => ?_⟩
    rw [Listener.enlist_done hoff rfl, Listener.enlist_done hoff rfl]
    refine ⟨rfl, rfl, .cons (.cons ⟨rfl, fun visit => ?_⟩ .nil) .nil⟩
    constructor
    · rfl
    · rintro m _ rfl
      rfl
    · rintro m _ rfl
      rfl
    · rintro m _ rfl
      rfl

/-- Two of them. -/
def pair : Node :=
  .mk none (.program [some (.mk none .thisExpression), some (.mk none .thisExpression)])

/-- A file, the file again with the rule switched off and on, and another file. -/
def pairEvents : List Event :=
  [.lint (some pair) "a.js", .configure [("counting", ⟨.off, []⟩)], .lint (some pair) "a.js",
    .configure [], .lint (some pair) "a.js", .lint (some pair) "b.js"]

/-- Of six incidents two are told, one for each file, and with the number that came first. -/
theorem history_pairEvents :
    let h := History.of [countingRule] [] 7 pairEvents
    (∀ rule ∈ [countingRule], rule.FailsOnlyWith Mishap.IsShowable) ∧
      Registry.StartsAfresh [countingRule] ∧ h.incidents.length = 6 ∧
      h.told = (firsts h.incidents).map Incident.diagnostic ∧
      h.told.map Diagnostic.line =
        (["[ngconv] Rule 'counting' failed on ThisExpression in a.js: ValueError('0').\n",
          "[ngconv] Rule 'counting' failed on ThisExpression in b.js: ValueError('0').\n"] :
            List Text) ∧
      ∀ (tree : Option Node) (filename : Text), (h.linter.verify tree filename).1 =
        ((start [countingRule] h.linter.settings 0).verify tree filename).1 := by
  intro h
  obtain ⟨haccounts, -, hfresh⟩ :=
    history_accounts failsOnlyWith_countingRule [] 7 pairEvents
  refine ⟨failsOnlyWith_countingRule, startsAfresh_countingRule, by decide +kernel,
    haccounts.told, by decide +kernel, ?_⟩
  intro tree filename
  exact hfresh startsAfresh_countingRule tree filename 0

end Linter

end AngularLint
