import AngularLint.Linter
import AngularLint.Proofs.Rule.Work
import AngularLint.Proofs.Tree.Descent

/-!
# Setting up

For every file, the rules that are not off are set up, in the order of the registry, each with what
the ones before it have left in mind. `Listener.Enlisted` says without a sink which listeners come
of this, and what has been reported by then.

A rule that cannot be set up ends the linting before it has begun. Rules of which
`Rule.FailsOnlyWith` is known can be set up, and their listeners keep to the same mishaps
(`Listener.enlist_of_failsOnlyWith`). What becomes of rules that keep nothing in mind is computed
(`Listener.enlist_map`).
-/

set_option autoImplicit false

namespace AngularLint

variable {σ : Type}

/-- The rules of a registry at work on a file, with what they have reported so far: those that are
not off, in order, each set up with the options and the severity that its setting gives it. -/
inductive Listener.Enlisted (settings : Settings) (filename : Text) :
    Registry σ → σ → List Violation → List (Listener σ) → σ → Prop
  | nil (m : σ) : Enlisted settings filename [] m [] [] m
  | off {rule : Rule σ} {rest : Registry σ} {m m' : σ} {early : List Violation}
      {listeners : List (Listener σ)} (isOff : (settings.settingFor rule).severity = .off)
      (others : Enlisted settings filename rest m early listeners m') :
      Enlisted settings filename (rule :: rest) m early listeners m'
  | on {rule : Rule σ} {rest : Registry σ} {m m₁ m₂ : σ} {early later : List Violation}
      {listeners : List (Listener σ)} {callbacks : List (Text × Callback σ)} {setting : Setting}
      (hasSetting : settings.settingFor rule = setting) (isOn : setting.severity ≠ .off)
      (created : (rule.create ⟨⟨filename, setting.options⟩, setting.severity⟩ m).Reports
        ⟨rule, filename, setting.options, setting.severity⟩ early ⟨.ok callbacks, m₁⟩)
      (others : Enlisted settings filename rest m₁ later listeners m₂) :
      Enlisted settings filename (rule :: rest) m (early ++ later)
        (⟨⟨rule, filename, setting.options, setting.severity⟩, callbacks⟩ :: listeners) m₂

namespace Listener

variable {settings : Settings} {filename : Text} {rule : Rule σ} {rest : Registry σ} {m : σ}

theorem enlist_off (h : (settings.settingFor rule).severity = .off) :
    enlist settings filename (rule :: rest) m = enlist settings filename rest m := by
  rw [enlist]
  exact if_pos (by simpa [contextOf] using h)

/-- A rule that has been set up stands in front of those behind it. -/
theorem enlist_on (h : (settings.settingFor rule).severity ≠ .off)
    {callbacks : List (Text × Callback σ)} {sink : Array Violation} {m' : σ}
    (hcreated : (contextOf settings filename rule).perform
      (rule.create (contextOf settings filename rule).setup m) #[] =
        (sink, ⟨.ok callbacks, m'⟩)) :
    enlist settings filename (rule :: rest) m =
      { enlist settings filename rest m' with
        listeners := ⟨contextOf settings filename rule, callbacks⟩ ::
          (enlist settings filename rest m').listeners
        reports := sink ++ (enlist settings filename rest m').reports } := by
  have hon : ¬((contextOf settings filename rule).severity == .off) = true := by
    simpa [contextOf] using h
  rw [enlist]
  dsimp only
  rw [if_neg hon, hcreated]

/-- A rule that is set up without a report stands in front of those behind it. -/
theorem enlist_done (h : (settings.settingFor rule).severity ≠ .off)
    {callbacks : List (Text × Callback σ)} {m' : σ}
    (hdone : rule.create (contextOf settings filename rule).setup m = .done callbacks m') :
    enlist settings filename (rule :: rest) m =
      { enlist settings filename rest m' with
        listeners := ⟨contextOf settings filename rule, callbacks⟩ ::
          (enlist settings filename rest m').listeners } := by
  rw [enlist_on h (by rw [hdone]; rfl), Array.empty_append]

/-- A rule that cannot be set up ends the linting. -/
theorem enlist_error (h : (settings.settingFor rule).severity ≠ .off) {x : Mishap}
    {sink : Array Violation} {m' : σ}
    (hfailed : (contextOf settings filename rule).perform
      (rule.create (contextOf settings filename rule).setup m) #[] = (sink, ⟨.error x, m'⟩)) :
    enlist settings filename (rule :: rest) m = ⟨[], sink, m', some x.self⟩ := by
  have hon : ¬((contextOf settings filename rule).severity == .off) = true := by
    simpa [contextOf] using h
  rw [enlist]
  dsimp only
  rw [if_neg hon, hfailed]

/-- A rule at work is one of the registry that is not off, with the callbacks that it has set up. -/
theorem exists_of_mem_enlist {registry : Registry σ} {l : Listener σ}
    (h : l ∈ (enlist settings filename registry m).listeners) :
    ∃ rule ∈ registry, (settings.settingFor rule).severity ≠ .off ∧
      l.context = contextOf settings filename rule ∧
        ∃ m₀, (l.context.perform (rule.create l.context.setup m₀) #[]).2.result =
          .ok l.callbacks := by
  induction registry generalizing m with
  | nil => exact absurd h (by simp [enlist])
  | cons rule rest ih =>
    have hbehind {m' : σ} (h : l ∈ (enlist settings filename rest m').listeners) :=
      (ih h).imp fun _ hrule => hrule.imp_left (List.mem_cons_of_mem rule)
    by_cases hoff : (settings.settingFor rule).severity = .off
    · rw [enlist_off hoff] at h
      exact hbehind h
    · let c := contextOf settings filename rule
      cases hcreated : c.perform (rule.create c.setup m) #[] with
      | mk sink ending =>
        obtain ⟨result, m'⟩ := ending
        cases result with
        | error x =>
          rw [enlist_error hoff hcreated] at h
          exact absurd h (by simp)
        | ok callbacks =>
          rw [enlist_on hoff hcreated] at h
          rcases List.mem_cons.mp h with rfl | hrest
          · exact ⟨rule, List.mem_cons_self, hoff, rfl, m, congrArg (·.2.result) hcreated⟩
          · exact hbehind hrest

theorem enlisted_enlist {registry : Registry σ}
    (h : (enlist settings filename registry m).interruption = none) :
    Enlisted settings filename registry m (enlist settings filename registry m).reports.toList
      (enlist settings filename registry m).listeners
      (enlist settings filename registry m).memory := by
  induction registry generalizing m with
  | nil => exact .nil m
  | cons rule rest ih =>
    by_cases hoff : (settings.settingFor rule).severity = .off
    · rw [enlist_off hoff] at h ⊢
      exact .off hoff (ih h)
    · let c := contextOf settings filename rule
      have hreports := c.reports_perform (rule.create c.setup m)
      cases hcreated : c.perform (rule.create c.setup m) #[] with
      | mk sink ending =>
        rw [hcreated] at hreports
        obtain ⟨result, m'⟩ := ending
        cases result with
        | error x =>
          rw [enlist_error hoff hcreated] at h
          exact absurd h (by simp)
        | ok callbacks =>
          rw [enlist_on hoff hcreated] at h ⊢
          rw [Array.toList_append]
          exact .on rfl hoff hreports (ih h)

/-- Do the callbacks of a rule at work fail with nothing but such mishaps? -/
def FailsOnlyWith (P : Mishap → Prop) (l : Listener σ) : Prop :=
  ∀ e ∈ l.callbacks, ∀ visit m x,
    (l.context.perform (e.2 visit m) #[]).2.result = .error x → P x

/-- Rules that can be set up are set up, and their callbacks fail as they may. -/
theorem enlist_of_failsOnlyWith {P : Mishap → Prop} {registry : Registry σ}
    (h : ∀ rule ∈ registry, rule.FailsOnlyWith P) (settings : Settings) (filename : Text) (m : σ) :
    (enlist settings filename registry m).interruption = none ∧
      ∀ l ∈ (enlist settings filename registry m).listeners, l.FailsOnlyWith P := by
  induction registry generalizing m with
  | nil => exact ⟨rfl, fun l hl => absurd hl (by simp [enlist])⟩
  | cons rule rest ih =>
    have hrest := fun r hr => h r (List.mem_cons_of_mem _ hr)
    by_cases hoff : (settings.settingFor rule).severity = .off
    · rw [enlist_off hoff]
      exact ih hrest m
    · let c := contextOf settings filename rule
      obtain ⟨callbacks, hresult, hfails⟩ := h rule List.mem_cons_self c rfl m
      have hcreated : c.perform (rule.create c.setup m) #[] =
          ((c.perform (rule.create c.setup m) #[]).1,
            ⟨.ok callbacks, (c.perform (rule.create c.setup m) #[]).2.memory⟩) := by
        rw [← hresult]
      obtain ⟨hnone, hothers⟩ := ih hrest (c.perform (rule.create c.setup m) #[]).2.memory
      rw [enlist_on hoff hcreated]
      refine ⟨hnone, fun l hl => ?_⟩
      rcases List.mem_cons.mp hl with rfl | hl
      · exact hfails
      · exact hothers l hl

/-- What is reported at the set-up bears the labels of a rule that is set up. -/
theorem Enlisted.bears {registry : Registry σ} {m m' : σ} {early : List Violation}
    {listeners : List (Listener σ)} (h : Enlisted settings filename registry m early listeners m') :
    ∀ v ∈ early, ∃ rule ∈ registry, v.Bears (contextOf settings filename rule) := by
  induction h with
  | nil m => intro v hv; exact absurd hv (by simp)
  | off isOff others ih =>
    intro v hv
    obtain ⟨rule, hrule, hbears⟩ := ih v hv
    exact ⟨rule, List.mem_cons_of_mem _ hrule, hbears⟩
  | on hasSetting isOn created others ih =>
    intro v hv
    rcases List.mem_append.mp hv with hearly | hlater
    · subst hasSetting
      exact ⟨_, List.mem_cons_self, created.bears v hearly⟩
    · obtain ⟨rule, hrule, hbears⟩ := ih v hlater
      exact ⟨rule, List.mem_cons_of_mem _ hrule, hbears⟩

/-! ## Rules that keep nothing in mind -/

/-- Such a rule at work on a file. -/
def ofConvention (settings : Settings) (filename : Text) (c : Convention) : Listener σ :=
  let context := contextOf settings filename c.rule
  ⟨context, (c.habits context.setup.toSurroundings).map fun e => (e.1, .ofHabit e.2)⟩

theorem lookup_ofConvention (c : Convention) (kind : Text) :
    (ofConvention settings filename c : Listener σ).callbacks.lookup kind =
      ((c.habits ⟨filename, (settings.settingFor (c.rule : Rule σ)).options⟩).lookup kind).map
        .ofHabit :=
  lookup_map_snd Callback.ofHabit kind _

/-- Such rules report nothing when they are set up, and it does not matter what has been set up
before them. -/
theorem enlist_map (conventions : List Convention) (m : σ) :
    enlist settings filename (conventions.map Convention.rule) m =
      ⟨(conventions.filter fun c => (settings.settingFor (c.rule : Rule σ)).severity ≠ .off).map
        (ofConvention settings filename), #[], m, none⟩ := by
  induction conventions with
  | nil => rfl
  | cons convention rest ih =>
    by_cases hoff : (settings.settingFor (convention.rule : Rule σ)).severity = .off
    · rw [List.map_cons, enlist_off hoff, ih, List.filter_cons_of_neg (by simp [hoff])]
    · rw [List.map_cons, enlist_done hoff rfl, ih, List.filter_cons_of_pos (by simp [hoff])]
      rfl

theorem mem_enlist_map {conventions : List Convention} {m : σ} {listener : Listener σ} :
    listener ∈ (enlist settings filename (conventions.map Convention.rule) m).listeners ↔
      ∃ convention ∈ conventions,
        (settings.settingFor (convention.rule : Rule σ)).severity ≠ .off ∧
          listener = ofConvention settings filename convention := by
  rw [enlist_map]
  simp only [List.mem_map, List.mem_filter, decide_eq_true_eq, and_assoc, @eq_comm _ listener]

end Listener

end AngularLint
