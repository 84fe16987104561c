import AngularLint.Proofs.Linter.Failure
import AngularLint.Proofs.Linter.Pairing

/-!
# Linters whose rules keep nothing in mind

Such a rule makes an `Outcome` of a visit, and the context of the rule makes violations of its
requests. So two visits come to the same, as far as `φ` can see, if the outcomes have the same fault
and `φ` cannot tell apart what the context makes of their requests (`Outcome.Alike`). That is what a
rule has to be asked, once for each pair of visits; `verify_alike` then compares two trees.

Nothing is carried from one call to the next but the log. So calls in two groups are calls of the
first group and then, by a session that starts with what has been logged, calls of the second
(`Session.foldl_take_resumes`).
-/

set_option autoImplicit false

namespace AngularLint

variable {σ β : Type}

/-! ## Outcomes side by side -/

/-- Do two outcomes come to the same, as far as `φ` can see? -/
structure Outcome.Alike (c : Context σ) (φ : Violation → β) (o o' : Outcome) : Prop where
  requests : List.Forall₂ (fun r r' => (c.report r).map φ = (c.report r').map φ)
    o.requests o'.requests
  fault : o.fault = o'.fault

theorem Outcome.Alike.refl (c : Context σ) (φ : Violation → β) (o : Outcome) : o.Alike c φ o :=
  ⟨List.forall₂_same.mpr fun _ _ => rfl, rfl⟩

/-- Two look-ups that find what is the same for a `sight` come to the same, if what is the same for
it is reported alike. -/
theorem Outcome.alike_ofLookup {γ : Type} {c : Context σ} {φ : Violation → β} (sight : Request → γ)
    {found found' : Except Fault (Option Request)}
    (h : found.map (Option.map sight) = found'.map (Option.map sight))
    (hreport : ∀ r r', found = .ok (some r) → found' = .ok (some r') → sight r = sight r' →
      (c.report r).map φ = (c.report r').map φ) :
    (ofLookup found).Alike c φ (ofLookup found') := by
  cases found with
  | error fault =>
    cases found' with
    | error fault' =>
      obtain rfl := Except.error.inj h
      exact .refl c φ _
    | ok r' => exact absurd h (by simp [Except.map])
  | ok r =>
    cases found' with
    | error fault' => exact absurd h (by simp [Except.map])
    | ok r' =>
      have hr := Except.ok.inj h
      cases r with
      | none =>
        obtain rfl := Option.map_eq_none_iff.mp hr.symm
        exact .refl c φ _
      | some r =>
        obtain ⟨r', rfl, hr'⟩ := Option.map_eq_some_iff.mp hr.symm
        exact ⟨.cons (hreport r r' rfl rfl hr'.symm) .nil, rfl⟩

theorem Outcome.memory_perform_ask (c : Context σ) (fault : Option Fault) (m : σ)
    (requests : List Request) (sink : Array Violation) :
    (c.perform (ask fault m requests) sink).2.memory = m := by
  induction requests generalizing sink with
  | nil =>
    cases fault with
    | none => rfl
    | some fault => rfl
  | cons r rest ih =>
    rw [ask, Context.perform]
    cases c.report r with
    | error refusal => rfl
    | ok v => exact ih (sink.push v)

/-- A refused request ends the work on both sides, and with the same fault. -/
theorem Outcome.perform_ask_alike (c : Context σ) (φ : Violation → β) (fault : Option Fault) (m : σ)
    {requests requests' : List Request}
    (h : List.Forall₂ (fun r r' => (c.report r).map φ = (c.report r').map φ) requests requests')
    {sink sink' : Array Violation} (hsink : sink.toList.map φ = sink'.toList.map φ) :
    (c.perform (ask fault m requests) sink).1.toList.map φ =
        (c.perform (ask fault m requests') sink').1.toList.map φ ∧
      (c.perform (ask fault m requests) sink).2 = (c.perform (ask fault m requests') sink').2 := by
  induction h generalizing sink sink' with
  | nil =>
    cases fault with
    | none => exact ⟨hsink, rfl⟩
    | some fault => exact ⟨hsink, rfl⟩
  | @cons r r' rest rest' hr _ ih =>
    -- By `hr` one of the two is refused only together with the other.
    rw [ask, ask, Context.perform, Context.perform]
    cases hv : c.report r with
    | error refusal =>
      cases hv' : c.report r' with
      | error refusal' =>
        rw [hv, hv'] at hr
        obtain rfl := Except.error.inj hr
        exact ⟨hsink, rfl⟩
      | ok v' =>
        rw [hv, hv'] at hr
        exact absurd hr (by simp [Except.map])
    | ok v =>
      cases hv' : c.report r' with
      | error refusal' =>
        rw [hv, hv'] at hr
        exact absurd hr (by simp [Except.map])
      | ok v' =>
        rw [hv, hv'] at hr
        have hφ : φ v = φ v' := Except.ok.inj hr
        apply ih
        simp only [Array.toList_push, List.map_append, hsink, List.map_cons, List.map_nil, hφ]

theorem Call.memory_answer_ofHabit (c : Context σ) (habit : Visit → Outcome) (visit : Visit)
    (m : σ) : ((⟨c, .ofHabit habit, visit⟩ : Call σ).answer m).2 = m :=
  Outcome.memory_perform_ask c (habit visit).fault m (habit visit).requests #[]

theorem Call.alike_ofHabit {c : Context σ} {φ : Violation → β} {habit : Visit → Outcome}
    {visit visit' : Visit} (htype : visit.node.type = visit'.node.type)
    (h : (habit visit).Alike c φ (habit visit')) :
    Alike Eq φ ⟨c, .ofHabit habit, visit⟩ ⟨c, .ofHabit habit, visit'⟩ := by
  have hperform (m : σ) : (c.perform ((habit visit).work m) #[]).1.toList.map φ =
        (c.perform ((habit visit').work m) #[]).1.toList.map φ ∧
      (c.perform ((habit visit).work m) #[]).2 = (c.perform ((habit visit').work m) #[]).2 := by
    rw [Outcome.work, Outcome.work, h.fault]
    exact Outcome.perform_ask_alike c φ _ m h.requests rfl
  constructor
  · show Failure.mk _ _ visit.node.type = Failure.mk _ _ visit'.node.type
    rw [htype]
  · rintro m _ rfl
    exact (hperform m).1
  · rintro m _ rfl
    exact congrArg Ending.fault (hperform m).2
  · rintro m _ rfl
    exact congrArg Ending.memory (hperform m).2

/-! ## The calls of rules that keep nothing in mind -/

namespace Call

/-- Such rules make calls in pairs, if their outcomes come to the same at visits in pairs. -/
theorem schedule_alike_map {settings : Settings} {filename : Text} {conventions : List Convention}
    {m : σ} {φ : Violation → β} {V : Visit → Visit → Prop}
    (htype : ∀ visit visit', V visit visit' → visit.node.type = visit'.node.type)
    (h : ∀ visit visit', V visit visit' → ∀ convention ∈ conventions,
      ∀ e ∈ convention.habits
          ⟨filename, (settings.settingFor (convention.rule : Rule σ)).options⟩,
        (e.2 visit).Alike (Listener.contextOf settings filename (convention.rule : Rule σ)) φ
          (e.2 visit'))
    {visits visits' : List Visit} (hv : List.Forall₂ V visits visits') :
    let listeners :=
      (Listener.enlist settings filename (conventions.map Convention.rule) m).listeners
    List.Forall₂ (Alike Eq φ) (schedule listeners visits) (schedule listeners visits') := by
  intro listeners
  -- The listeners are the same on both sides; `L` keeps where they come from.
  apply schedule_alike (L := fun l l' => l ∈ listeners ∧ l = l') (V := V)
  · rintro l _ ⟨hl, rfl⟩ visit visit' hvisit
    obtain ⟨convention, hconvention, -, rfl⟩ := Listener.mem_enlist_map.mp hl
    rw [← htype visit visit' hvisit, Listener.lookup_ofConvention]
    cases hlookup : (convention.habits ⟨filename,
        (settings.settingFor (convention.rule : Rule σ)).options⟩).lookup visit.node.type with
    | none => exact .none
    | some habit =>
      refine .some (alike_ofHabit (htype visit visit' hvisit) ?_)
      exact h visit visit' hvisit convention hconvention _ (mem_of_lookup hlookup)
  · exact List.forall₂_same.mpr fun l hl => ⟨hl, rfl⟩
  · exact hv

/-- Visits at which nobody listens may be left out. -/
theorem schedule_filter {listeners : List (Listener σ)} {p : Visit → Bool} (visits : List Visit)
    (h : ∀ l ∈ listeners, ∀ visit ∈ visits, p visit = false →
      l.callbacks.lookup visit.node.type = none) :
    schedule listeners (visits.filter p) = schedule listeners visits := by
  rw [schedule, schedule]
  induction visits with
  | nil => rfl
  | cons visit rest ih =>
    have hrest := ih fun l hl v hv => h l hl v (List.mem_cons_of_mem _ hv)
    cases hp : p visit with
    | true =>
      rw [List.filter_cons_of_pos hp, List.flatMap_cons, List.flatMap_cons, hrest]
    | false =>
      -- Nobody listens there, so the schedule has no call for it.
      have hnone : (listeners.filterMap fun l =>
          (l.callbacks.lookup visit.node.type).map fun callback =>
            (⟨l.context, callback, visit⟩ : Call σ)) = [] := by
        rw [List.filterMap_eq_nil_iff]
        intro l hl
        rw [h l hl visit List.mem_cons_self hp]
        rfl
      rw [List.filter_cons_of_neg (by simp [hp]), List.flatMap_cons, hnone, hrest,
        List.nil_append]

end Call

/-! ## Sessions that go on -/

namespace Session

/-- Has one session the reports and the diagnostics of another, behind some that came before? -/
structure Resumes (before : List Violation) (said : List Diagnostic) (s s' : Session σ) : Prop where
  sink : s.sink.toList = before ++ s'.sink.toList
  told : s.told.toList = said ++ s'.told.toList
  log : s.log = s'.log
  memory : s.memory = s'.memory
  goesOn : s.interruption = none ∧ s'.interruption = none

theorem take_resumes {before : List Violation} {said : List Diagnostic} {s s' : Session σ}
    (h : s.Resumes before said s') {c : Call σ} (hc : c.FailsOnlyWith Mishap.IsTold) :
    (s.take c).Resumes before said (s'.take c) := by
  obtain ⟨hfirst, hnext⟩ := take_of_isTold h.goesOn.1 hc
  obtain ⟨hsecond, hnext'⟩ := take_of_isTold h.goesOn.2 hc
  have hnews : s.news c = s'.news c := by
    apply news_congr h.log
    · rfl
    · rw [h.memory]
  constructor
  · rw [hfirst.sink, hsecond.sink, h.sink, h.memory, List.append_assoc]
  · rw [hfirst.told, hsecond.told, h.told, hnews, List.append_assoc]
  · rw [hfirst.log, hsecond.log, h.log, hnews]
  · rw [hfirst.memory, hsecond.memory, h.memory]
  · exact ⟨hnext, hnext'⟩

theorem foldl_take_resumes {before : List Violation} {said : List Diagnostic} {s s' : Session σ}
    (h : s.Resumes before said s') {calls : List (Call σ)}
    (hcalls : ∀ c ∈ calls, c.FailsOnlyWith Mishap.IsTold) :
    (calls.foldl take s).Resumes before said (calls.foldl take s') := by
  induction calls generalizing s s' with
  | nil => exact h
  | cons c rest ih =>
    exact ih (take_resumes h (hcalls c List.mem_cons_self))
      fun c' hc' => hcalls c' (List.mem_cons_of_mem _ hc')

/-- Calls that keep nothing in mind leave what is. -/
theorem memory_foldl_take {calls : List (Call σ)}
    (hcalls : ∀ c ∈ calls, c.FailsOnlyWith Mishap.IsTold)
    (h : ∀ c ∈ calls, ∀ m, (c.answer m).2 = m) {s : Session σ} (hs : s.interruption = none) :
    (calls.foldl take s).memory = s.memory := by
  induction calls generalizing s with
  | nil => rfl
  | cons c rest ih =>
    obtain ⟨henters, hnext⟩ := take_of_isTold hs (hcalls c List.mem_cons_self)
    rw [List.foldl_cons, ih (fun c' hc' => hcalls c' (List.mem_cons_of_mem _ hc'))
      (fun c' hc' => h c' (List.mem_cons_of_mem _ hc')) hnext, henters.memory,
      h c List.mem_cons_self]

end Session

/-! ## Whole trees -/

namespace Linter

/-- Do all rules of a linter keep nothing in mind? -/
def IsSteady (conventions : List Convention) (l : Linter σ) : Prop :=
  l.registry = conventions.map Convention.rule

variable {conventions : List Convention} {l : Linter σ}

theorem IsSteady.failsOnlyWith (h : l.IsSteady conventions) :
    ∀ rule ∈ l.registry, rule.FailsOnlyWith Mishap.IsTold := by
  rw [h]
  exact Registry.failsOnlyWith_map conventions

/-- What their callbacks fail with can be told, so it does not leave the linter. -/
theorem IsSteady.isShowable_of_mem_calls (h : l.IsSteady conventions) (tree : Option Node)
    (filename : Text) : ∀ c ∈ l.calls tree filename, c.FailsOnlyWith Mishap.IsShowable := by
  intro c hc m x hx
  exact (failsOnlyWith_of_mem_calls h.failsOnlyWith tree filename c hc m x hx).isShowable

/-- Such rules report nothing when they are set up. -/
theorem IsSteady.session_eq (h : l.IsSteady conventions) (filename : Text) :
    l.session filename = ⟨#[], l.log, #[], l.memory, none⟩ := by
  have hnone := interruption_session h.failsOnlyWith filename
  rw [session] at hnone ⊢
  dsimp only at hnone ⊢
  rw [h, Listener.enlist_map]

theorem memory_verify (h : l.IsSteady conventions) (tree : Option Node) (filename : Text) :
    (l.verify tree filename).2.1.memory = l.memory := by
  have hcalls : ∀ c ∈ l.calls tree filename, ∀ m, (c.answer m).2 = m := by
    intro c hc m
    rw [calls, h] at hc
    obtain ⟨visit, -, convention, -, -, habit, -, rfl⟩ := Call.mem_schedule_map.mp hc
    exact Call.memory_answer_ofHabit _ _ _ m
  rw [verify_eq_calls]
  dsimp only
  rw [Session.memory_foldl_take (failsOnlyWith_of_mem_calls h.failsOnlyWith tree filename) hcalls
    (interruption_session h.failsOnlyWith filename), h.session_eq]

/-- **Two trees.** If calls come to the same one by one, then so do the trees, and the linter is
left the same. -/
theorem verify_alike (hsteady : l.IsSteady conventions) {φ : Violation → β}
    {tree tree' : Option Node} {filename : Text}
    (h : List.Forall₂ (Call.Alike Eq φ) (l.calls tree filename) (l.calls tree' filename)) :
    ∃ vs vs', (l.verify tree filename).1 = .ok vs ∧ (l.verify tree' filename).1 = .ok vs' ∧
      vs.map φ = vs'.map φ ∧ (l.verify tree filename).2 = (l.verify tree' filename).2 := by
  obtain ⟨halike, hsame⟩ := Session.foldl_take_alike h
    (hsteady.isShowable_of_mem_calls tree filename)
    (hsteady.isShowable_of_mem_calls tree' filename) (s := l.session filename) ⟨rfl, rfl, rfl⟩
  obtain ⟨hlog, htold⟩ := hsame ⟨rfl, rfl⟩
  refine ⟨_, _, verify_eq_ok hsteady.failsOnlyWith tree filename,
    verify_eq_ok hsteady.failsOnlyWith tree' filename, halike.sink, ?_⟩
  rw [verify_eq_calls, verify_eq_calls]
  dsimp only
  rw [hlog, htold, halike.memory]

/-- What has been logged has no say in what is reported. -/
theorem verify_congr (hsteady : l.IsSteady conventions) {l' : Linter σ}
    (hregistry : l'.registry = l.registry) (hsettings : l'.settings = l.settings)
    (hmemory : l'.memory = l.memory) (tree : Option Node) (filename : Text) :
    (l'.verify tree filename).1 = (l.verify tree filename).1 := by
  have hsteady' : l'.IsSteady conventions := hregistry.trans hsteady
  have hcalls : l'.calls tree filename = l.calls tree filename := by
    rw [calls, calls, hregistry, hsettings, hmemory]
  have hshowable := hsteady.isShowable_of_mem_calls tree filename
  have hstart : (l'.session filename).Alike Eq id (l.session filename) := by
    rw [hsteady.session_eq, hsteady'.session_eq]
    exact ⟨rfl, hmemory, rfl⟩
  have hsame := List.forall₂_same.mpr fun c (_ : c ∈ l.calls tree filename) => Call.Alike.refl c
  have hresult := (Session.foldl_take_alike hsame hshowable hshowable hstart).1.result
  rw [verify_eq_calls, verify_eq_calls, hcalls]
  simpa using hresult

/-- **A tree for two.** If a tree leads to the calls of one tree and then to those of another, then
linting it is linting the one and then the other. -/
theorem verify_eq_append (hsteady : l.IsSteady conventions) {tree tree₁ tree₂ : Option Node}
    {filename : Text}
    (h : List.Forall₂ (Call.Alike Eq id) (l.calls tree filename)
      (l.calls tree₁ filename ++ l.calls tree₂ filename)) :
    let first := l.verify tree₁ filename
    let second := first.2.1.verify tree₂ filename
    ∃ vs₁ vs₂, first.1 = .ok vs₁ ∧ second.1 = .ok vs₂ ∧
      l.verify tree filename = (.ok (vs₁ ++ vs₂), second.2.1, first.2.2 ++ second.2.2) := by
  let s := (l.calls tree₁ filename).foldl Session.take (l.session filename)
  let l' : Linter σ := { l with log := s.log, memory := s.memory }
  have htold := hsteady.failsOnlyWith
  have hsteady' : l'.IsSteady conventions := hsteady
  have hfirst : l.verify tree₁ filename = (s.result, l', s.told.toList) :=
    verify_eq_calls l tree₁ filename
  have hmemory : l'.memory = l.memory := by
    rw [← memory_verify hsteady tree₁ filename, hfirst]
  have hcalls : l'.calls tree₂ filename = l.calls tree₂ filename := by
    rw [calls, hmemory]
    rfl
  have htold₁ := failsOnlyWith_of_mem_calls htold tree₁ filename
  have htold₂ := failsOnlyWith_of_mem_calls htold tree₂ filename
  have hstops : s.interruption = none :=
    Session.interruption_foldl_take htold₁ (interruption_session htold filename)
  -- All that the second linter has from the first is the log.
  have hresumes : s.Resumes s.sink.toList s.told.toList (l'.session filename) := by
    rw [hsteady'.session_eq]
    exact ⟨(List.append_nil _).symm, (List.append_nil _).symm, rfl, rfl, hstops, rfl⟩
  have hboth := Session.foldl_take_resumes hresumes htold₂
  -- The one tree and the two, and then the second of the two behind the first and by itself.
  have hshowable₁₂ : ∀ c ∈ l.calls tree₁ filename ++ l.calls tree₂ filename,
      c.FailsOnlyWith Mishap.IsShowable :=
    List.forall_mem_append.mpr ⟨hsteady.isShowable_of_mem_calls tree₁ filename,
      hsteady.isShowable_of_mem_calls tree₂ filename⟩
  obtain ⟨halike, hsame⟩ := Session.foldl_take_alike h
    (hsteady.isShowable_of_mem_calls tree filename) hshowable₁₂
    (s := l.session filename) ⟨rfl, rfl, rfl⟩
  obtain ⟨hlog, htolds⟩ := hsame ⟨rfl, rfl⟩
  have hsink := halike.sink
  have hend := halike.memory
  rw [List.map_id, List.map_id] at hsink
  rw [List.foldl_append] at hsink hend hlog htolds
  dsimp only
  rw [hfirst]
  refine ⟨s.sink.toList, _, ?_, verify_eq_ok hsteady'.failsOnlyWith tree₂ filename, ?_⟩
  · dsimp only
    rw [Session.result, hstops]
  · refine Prod.ext ((verify_eq_ok htold tree filename).trans ?_) ?_
    · rw [hcalls, hsink, hboth.sink]
    · rw [verify_eq_calls l', hcalls, verify_eq_calls l tree]
      dsimp only
      rw [hend, hboth.memory, hlog, hboth.log, htolds, hboth.told]

end Linter

end AngularLint
