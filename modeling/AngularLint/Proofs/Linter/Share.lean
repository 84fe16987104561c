import AngularLint.Proofs.Linter.Independence
import AngularLint.Proofs.Linter.Pairing

/-!
# What one rule has in a sink

All rules report into one sink. What is there of one rule is what that rule has reported, visit by
visit, and the other rules have no say in it as long as the rule does not look at what they leave in
mind. Of the others it is only asked that they do not end the run: they may report when they are set
up, keep things in mind, share them, and fail.

A violation names its rule, so what a listener reports at a visit belongs to a rule as a whole, or
not at all (`Listener.filter_answer`). `Session.filter_foldl_hear` follows the share of a rule
through one visit, and **`Linter.filter_verify`** through a whole tree.
-/

set_option autoImplicit false

namespace AngularLint

variable {σ : Type}

namespace Listener

/-- All that a listener reports bears the id of its rule. -/
theorem filter_answer (l : Listener σ) (id : Text) (visit : Visit) (m : σ) :
    (l.answer visit m).1.filter (·.rule == id) =
      if l.context.rule.id == id then (l.answer visit m).1 else [] := by
  have hown : ∀ v ∈ (l.answer visit m).1, v.rule = l.context.rule.id :=
    l.rule_of_mem_groups [visit] m _ List.mem_cons_self
  split
  · rename_i hid
    refine List.filter_eq_self.mpr fun v hv => ?_
    rw [hown v hv]
    exact hid
  · rename_i hid
    refine List.filter_eq_nil_iff.mpr fun v hv => ?_
    rw [hown v hv]
    exact hid

theorem Enlisted.rule_mem {settings : Settings} {filename : Text} {registry : Registry σ}
    {m m' : σ} {early : List Violation} {listeners : List (Listener σ)}
    (h : Enlisted settings filename registry m early listeners m') :
    ∀ l ∈ listeners, l.context.rule ∈ registry := by
  induction h with
  | nil m => exact fun l hl => absurd hl (by simp)
  | off isOff others ih => exact fun l hl => List.mem_cons_of_mem _ (ih l hl)
  | on hasSetting isOn created others ih =>
    intro l hl
    rcases List.mem_cons.mp hl with rfl | hrest
    · exact List.mem_cons_self
    · exact List.mem_cons_of_mem _ (ih l hrest)

/-- All that is reported at the set-up bears the id of a rule of the registry. -/
theorem Enlisted.filter_early {settings : Settings} {filename : Text} {registry : Registry σ}
    {m m' : σ} {early : List Violation} {listeners : List (Listener σ)}
    (h : Enlisted settings filename registry m early listeners m') {id : Text}
    (hid : id ∉ registry.map (·.id)) : early.filter (·.rule == id) = [] := by
  refine List.filter_eq_nil_iff.mpr fun v hv hsame => hid ?_
  obtain ⟨rule, hrule, hbears⟩ := h.bears v hv
  exact List.mem_map.mpr ⟨rule, hrule, hbears.rule.symm.trans (beq_iff_eq.mp hsame)⟩

/-- A rule that is not off and is set up without a report is at work once, and none of the reports
of the set-up is its own. -/
theorem Enlisted.filter_eq {settings : Settings} {filename : Text} {registry : Registry σ}
    {m m' : σ} {early : List Violation} {listeners : List (Listener σ)}
    (h : Enlisted settings filename registry m early listeners m')
    (hids : (registry.map (·.id)).Nodup) {rule : Rule σ} (hrule : rule ∈ registry)
    (hon : (settings.settingFor rule).severity ≠ .off)
    (hquiet : ∀ setup m, ∃ callbacks m₁, rule.create setup m = .done callbacks m₁) :
    early.filter (·.rule == rule.id) = [] ∧ ∃ callbacks m₀ m₁,
      rule.create (contextOf settings filename rule).setup m₀ = .done callbacks m₁ ∧
      listeners.filter (·.context.rule.id == rule.id) =
        [⟨contextOf settings filename rule, callbacks⟩] := by
  induction h with
  | nil m => exact absurd hrule (by simp)
  | off isOff others ih =>
    rcases List.mem_cons.mp hrule with rfl | hrest
    · exact absurd isOff hon
    · exact ih (List.nodup_cons.mp hids).2 hrest
  | @on first rest m m₁ m₂ early later listeners callbacks setting hasSetting isOn created others
      ih =>
    obtain ⟨hfresh, hids⟩ := List.nodup_cons.mp hids
    subst hasSetting
    rw [List.filter_append]
    rcases List.mem_cons.mp hrule with rfl | hrest
    · -- No rule behind it has its id.
      have hothers : listeners.filter (·.context.rule.id == rule.id) = [] := by
        refine List.filter_eq_nil_iff.mpr fun l hl hsame => hfresh ?_
        exact List.mem_map.mpr ⟨_, others.rule_mem l hl, beq_iff_eq.mp hsame⟩
      obtain ⟨callbacks', m₁', hdone⟩ :=
        hquiet ⟨⟨filename, (settings.settingFor rule).options⟩,
          (settings.settingFor rule).severity⟩ m
      rw [hdone] at created
      cases created
      refine ⟨others.filter_early hfresh, callbacks, m, m₁, hdone, ?_⟩
      rw [List.filter_cons_of_pos (by exact beq_self_eq_true rule.id), hothers]
      rfl
    · have hne : first.id ≠ rule.id := fun heq => hfresh (List.mem_map.mpr ⟨rule, hrest, heq.symm⟩)
      obtain ⟨hearly, hlisteners⟩ := ih hids hrest
      have hfirst : early.filter (·.rule == rule.id) = [] := by
        refine List.filter_eq_nil_iff.mpr fun v hv hsame => hne ?_
        exact (created.bears v hv).rule.symm.trans (beq_iff_eq.mp hsame)
      rw [hfirst, hearly, List.filter_cons_of_neg (by simpa using hne)]
      exact ⟨rfl, hlisteners⟩

end Listener

namespace Session

variable {listeners : List (Listener σ)} {p : Violation → Bool}

/-- **One visit, to one rule after another.** What is picked from the sink is what is picked from
the rules. -/
theorem filter_foldl_hear (htold : ∀ l ∈ listeners, l.FailsOnlyWith Mishap.IsTold) {visit : Visit}
    {shown : Listener σ → List Violation}
    (h : ∀ l ∈ listeners, ∀ m, (l.answer visit m).1.filter p = shown l) {s : Session σ}
    (hs : s.interruption = none) :
    (listeners.foldl (hear visit) s).sink.toList.filter p =
      s.sink.toList.filter p ++ listeners.flatMap shown := by
  induction listeners generalizing s with
  | nil => exact (List.append_nil _).symm
  | cons l rest ih =>
    obtain ⟨hsink, -, hnext⟩ := hear_eq visit hs (htold l List.mem_cons_self)
    rw [List.foldl_cons, ih (fun l' hl' => htold l' (List.mem_cons_of_mem _ hl'))
      (fun l' hl' => h l' (List.mem_cons_of_mem _ hl')) hnext, hsink,
      List.filter_append, h l List.mem_cons_self, List.flatMap_cons, List.append_assoc]

/-- **All visits.** -/
theorem filter_foldl_visits (htold : ∀ l ∈ listeners, l.FailsOnlyWith Mishap.IsTold)
    {visits : List Visit} {shown : Visit → Listener σ → List Violation}
    (h : ∀ visit ∈ visits, ∀ l ∈ listeners, ∀ m, (l.answer visit m).1.filter p = shown visit l)
    {s : Session σ} (hs : s.interruption = none) :
    (visits.foldl (fun s visit => listeners.foldl (hear visit) s) s).sink.toList.filter p =
      s.sink.toList.filter p ++ visits.flatMap fun visit => listeners.flatMap (shown visit) := by
  induction visits generalizing s with
  | nil => exact (List.append_nil _).symm
  | cons visit rest ih =>
    rw [List.foldl_cons, ih (fun visit' hvisit' => h visit' (List.mem_cons_of_mem _ hvisit'))
      (interruption_foldl_hear htold visit hs),
      filter_foldl_hear htold (h visit List.mem_cons_self) hs, List.flatMap_cons,
      List.append_assoc]

end Session

/-- **The share of a rule** is what it reports at each visit, if that is a matter of the visit
alone. -/
theorem Linter.filter_verify {l : Linter σ} (hids : (l.registry.map (·.id)).Nodup)
    (htold : ∀ rule ∈ l.registry, rule.FailsOnlyWith Mishap.IsTold) {rule : Rule σ}
    (hrule : rule ∈ l.registry) (hon : (l.settings.settingFor rule).severity ≠ .off)
    (hquiet : ∀ setup m, ∃ callbacks m₁, rule.create setup m = .done callbacks m₁)
    {tree : Option Node} {filename : Text} {reports : Visit → List Violation}
    (h : ∀ visit ∈ tree.toList.flatMap Node.visits, ∀ callbacks m₀ m₁,
      let c := Listener.contextOf l.settings filename rule
      rule.create c.setup m₀ = .done callbacks m₁ →
      ∀ m, ((⟨c, callbacks⟩ : Listener σ).answer visit m).1 = reports visit) :
    (l.verify tree filename).1.map (List.filter (·.rule == rule.id)) =
      .ok ((tree.toList.flatMap Node.visits).flatMap reports) := by
  have hstart := interruption_session htold filename
  have henlisted := Listener.enlisted_enlist hstart
  have hlisteners := (Listener.enlist_of_failsOnlyWith htold l.settings filename l.memory).2
  have hsession : (l.session filename).sink =
    (Listener.enlist l.settings filename l.registry l.memory).reports := rfl
  rw [verify_eq_ok htold, calls, Session.foldl_schedule]
  rw [← hsession] at henlisted
  generalize (Listener.enlist l.settings filename l.registry l.memory).listeners = listeners
    at henlisted hlisteners ⊢
  obtain ⟨hearly, callbacks, m₀, m₁, hdone, hown⟩ := henlisted.filter_eq hids hrule hon hquiet
  have hshown : ∀ visit ∈ tree.toList.flatMap Node.visits, ∀ own ∈ listeners, ∀ m,
      (own.answer visit m).1.filter (·.rule == rule.id) =
        if own.context.rule.id == rule.id then reports visit else [] := by
    intro visit hvisit own hmem m
    rw [Listener.filter_answer]
    split
    · rename_i hid
      have hsame : own ∈ listeners.filter (·.context.rule.id == rule.id) :=
        List.mem_filter.mpr ⟨hmem, hid⟩
      rw [hown, List.mem_singleton] at hsame
      rw [hsame]
      exact h visit hvisit callbacks m₀ m₁ hdone m
    · rfl
  refine congrArg Except.ok ((Session.filter_foldl_visits hlisteners hshown hstart).trans ?_)
  rw [hearly, List.nil_append]
  refine List.flatMap_congr fun visit _ => ?_
  -- Of all the rules at work, it is one that has the id.
  have hone := flatMap_filter_of_imp (p := fun own : Listener σ => own.context.rule.id == rule.id)
    (q := fun _ => true) (l := listeners) (fun _ _ _ => rfl) fun _ => reports visit
  rw [hown, List.flatMap_singleton, List.filter_eq_self.mpr fun _ _ => rfl] at hone
  exact hone.symm

end AngularLint
