import AngularLint.Proofs.Linter.Calls
import AngularLint.Proofs.Rule.Independence
import AngularLint.Proofs.Rule.Steady

/-!
# Rules that keep to themselves do not notice each other

All rules report into one sink and hand on one memory. If they are independent
(`Proofs/Rule/Independence.lean`), a linter can be taken apart all the same: each rule reports at
each visit what it would report there if it were alone (`Rule.groups`), and the sink holds these
groups, visit by visit and at each visit in the order of the registry (`verify_eq_groups`). What
carries the argument is that throughout the run the part of each rule is the one that it would have
alone, though the rest of the memory is not. Only a rule that ends the run would be noticed by the
others, so what the rules fail with has to be such that it can be told.

**`verify_filterMap`** is what follows for settings and registries. Settings with the same options
only take away and relabel; a rule that is added adds violations of its own and nothing else; and
the order of the registry is the order of the groups within a visit.
-/

set_option autoImplicit false

namespace AngularLint

variable {σ τ : Type} {part : Text → σ → τ}

/-! ## A rule alone -/

namespace Listener

/-- What a rule reports at a visit, and what is kept in mind then. -/
def answer (l : Listener σ) (visit : Visit) (m : σ) : List Violation × σ :=
  match l.callbacks.lookup visit.node.type with
  | none => ([], m)
  | some callback =>
    let (sink, ending) := l.context.perform (callback visit m) #[]
    (sink.toList, ending.memory)

/-- What a rule reports at each of some visits, with nobody else at work. -/
def groups (l : Listener σ) : List Visit → σ → List (List Violation)
  | [], _ => []
  | visit :: rest, m => (l.answer visit m).1 :: l.groups rest (l.answer visit m).2

/-- Is the second listener the first one at work beside others: with another severity, and set up
when something else was in mind, but not in its own part? -/
structure Beside (part : Text → σ → τ) (alone l : Listener σ) : Prop where
  context : l.context = alone.context.weigh l.context.severity
  callbacks : List.Forall₂ (fun e e' => e.1 = e'.1 ∧
      e.2.Alike (fun m m' => part l.context.rule.id m = part l.context.rule.id m') e'.2)
    alone.callbacks l.callbacks
  leaves : ∀ e ∈ l.callbacks, ∀ visit m,
    (e.2 visit m).Leaves fun _ m' => ∀ id ≠ l.context.rule.id, part id m' = part id m

theorem lookup_of_forall₂ {α β : Type} {S : α → β → Prop} {l : List (Text × α)}
    {l' : List (Text × β)} (h : List.Forall₂ (fun e e' => e.1 = e'.1 ∧ S e.2 e'.2) l l')
    (key : Text) :
    (l.lookup key = none ∧ l'.lookup key = none) ∨
      ∃ a b, l.lookup key = some a ∧ l'.lookup key = some b ∧ S a b := by
  induction h with
  | nil => exact .inl ⟨rfl, rfl⟩
  | @cons e e' rest rest' he _ ih =>
    obtain ⟨hkey, hS⟩ := he
    rw [List.lookup_cons, List.lookup_cons, ← hkey]
    cases key == e.1 with
    | true => exact .inr ⟨e.2, e'.2, rfl, rfl, hS⟩
    | false => exact ih

/-- **One visit.** Beside others a rule reports what it reports alone, and makes of its own part
what it makes of it alone; it leaves the other parts to the others. -/
theorem Beside.answer {alone l : Listener σ} (h : Beside part alone l) (visit : Visit) {m₀ m : σ}
    (hm : part l.context.rule.id m₀ = part l.context.rule.id m) :
    (l.answer visit m).1 =
        (alone.answer visit m₀).1.map (Violation.weigh l.context.severity) ∧
      part l.context.rule.id (alone.answer visit m₀).2 =
        part l.context.rule.id (l.answer visit m).2 ∧
      ∀ id ≠ l.context.rule.id, part id (l.answer visit m).2 = part id m := by
  rw [Listener.answer, Listener.answer]
  rcases lookup_of_forall₂ h.callbacks visit.node.type with
    ⟨halone, hl⟩ | ⟨callback, callback', halone, hl, halike⟩
  · rw [halone, hl]
    exact ⟨rfl, hm, fun _ _ => rfl⟩
  · rw [halone, hl]
    obtain ⟨hsink, hending⟩ := alone.context.perform_alike l.context.severity
      (halike visit m₀ m hm)
    rw [← h.context] at hsink hending
    exact ⟨hsink, hending, l.context.perform_leaves (h.leaves _ (mem_of_lookup hl) visit m) #[]⟩

end Listener

/-! ## Rules beside each other -/

namespace Session

/-- A rule whose mishaps can be told reports at a visit what it reports there by itself, and the
session goes on. -/
theorem hear_eq (visit : Visit) {s : Session σ} (hs : s.interruption = none) {l : Listener σ}
    (hl : l.FailsOnlyWith Mishap.IsTold) :
    (hear visit s l).sink.toList = s.sink.toList ++ (l.answer visit s.memory).1 ∧
      (hear visit s l).memory = (l.answer visit s.memory).2 ∧
      (hear visit s l).interruption = none := by
  rw [hear, Listener.answer]
  cases hlookup : l.callbacks.lookup visit.node.type with
  | none => exact ⟨(List.append_nil _).symm, rfl, hs⟩
  | some callback =>
    have htold : (⟨l.context, callback, visit⟩ : Call σ).FailsOnlyWith Mishap.IsTold :=
      fun m x hx => hl _ (mem_of_lookup hlookup) visit m x (Ending.fault_eq_some_iff.mp hx)
    obtain ⟨henters, hnext⟩ := take_of_isTold hs htold
    exact ⟨henters.sink, henters.memory, hnext⟩

section
variable {listeners : List (Listener σ)}

theorem interruption_foldl_hear (htold : ∀ l ∈ listeners, l.FailsOnlyWith Mishap.IsTold)
    (visit : Visit) {s : Session σ} (hs : s.interruption = none) :
    (listeners.foldl (hear visit) s).interruption = none := by
  induction listeners generalizing s with
  | nil => exact hs
  | cons l rest ih =>
    obtain ⟨-, -, hnext⟩ := hear_eq visit hs (htold l List.mem_cons_self)
    exact ih (fun l' hl' => htold l' (List.mem_cons_of_mem _ hl')) hnext

variable (solo : Rule σ → Listener σ)

/-- **One visit, to one rule after another.** What each of them meets of its own part is as if it
were alone. -/
theorem foldl_hear_groups (m : Rule σ → σ) (hids : (listeners.map (·.context.rule.id)).Nodup)
    (hbeside : ∀ l ∈ listeners, (solo l.context.rule).Beside part l)
    (htold : ∀ l ∈ listeners, l.FailsOnlyWith Mishap.IsTold) (visit : Visit) {s : Session σ}
    (hs : s.interruption = none)
    (hmemory : ∀ l ∈ listeners,
      part l.context.rule.id (m l.context.rule) = part l.context.rule.id s.memory) :
    (listeners.foldl (hear visit) s).sink.toList = s.sink.toList ++ listeners.flatMap (fun l =>
        ((solo l.context.rule).answer visit (m l.context.rule)).1.map
          (Violation.weigh l.context.severity)) ∧
      (∀ l ∈ listeners, part l.context.rule.id
          ((solo l.context.rule).answer visit (m l.context.rule)).2 =
        part l.context.rule.id (listeners.foldl (hear visit) s).memory) ∧
      ∀ id ∉ listeners.map (·.context.rule.id),
        part id (listeners.foldl (hear visit) s).memory = part id s.memory := by
  induction listeners generalizing s with
  | nil => exact ⟨(List.append_nil _).symm, by simp, fun _ _ => rfl⟩
  | cons l rest ih =>
    obtain ⟨hfresh, hids⟩ := List.nodup_cons.mp hids
    obtain ⟨hsink, hsame, hnext⟩ := hear_eq visit hs (htold l List.mem_cons_self)
    obtain ⟨hreports, hown, hothers⟩ := (hbeside l List.mem_cons_self).answer visit
      (hmemory l List.mem_cons_self)
    have hne : ∀ l' ∈ rest, l'.context.rule.id ≠ l.context.rule.id := by
      intro l' hl' heq
      exact hfresh (List.mem_map.mpr ⟨l', hl', heq⟩)
    obtain ⟨ihsink, ihown, ihothers⟩ := ih hids
      (fun l' hl' => hbeside l' (List.mem_cons_of_mem _ hl'))
      (fun l' hl' => htold l' (List.mem_cons_of_mem _ hl')) hnext (by
        intro l' hl'
        rw [hsame, hothers _ (hne l' hl')]
        exact hmemory l' (List.mem_cons_of_mem _ hl'))
    refine ⟨?_, ?_, ?_⟩
    · rw [List.foldl_cons, ihsink, hsink, hreports, List.flatMap_cons, List.append_assoc]
    · intro l' hl'
      rcases List.mem_cons.mp hl' with rfl | hrest
      · -- The rules behind it leave its part alone.
        rw [List.foldl_cons, ihothers _ hfresh, hsame]
        exact hown
      · exact ihown l' hrest
    · intro id hid
      rw [List.map_cons, List.mem_cons, not_or] at hid
      rw [List.foldl_cons, ihothers id hid.2, hsame]
      exact hothers id hid.1

/-- **All visits.** -/
theorem foldl_visits_groups (m : Rule σ → σ) (hids : (listeners.map (·.context.rule.id)).Nodup)
    (hbeside : ∀ l ∈ listeners, (solo l.context.rule).Beside part l)
    (htold : ∀ l ∈ listeners, l.FailsOnlyWith Mishap.IsTold) (visits : List Visit) {s : Session σ}
    (hs : s.interruption = none)
    (hmemory : ∀ l ∈ listeners,
      part l.context.rule.id (m l.context.rule) = part l.context.rule.id s.memory) :
    (visits.foldl (fun s visit => listeners.foldl (hear visit) s) s).sink.toList =
      s.sink.toList ++ (List.range visits.length).flatMap fun i => listeners.flatMap fun l =>
        (((solo l.context.rule).groups visits (m l.context.rule))[i]?.getD []).map
          (Violation.weigh l.context.severity) := by
  induction visits generalizing s m with
  | nil => exact (List.append_nil _).symm
  | cons visit rest ih =>
    obtain ⟨hsink, hown, -⟩ := foldl_hear_groups solo m hids hbeside htold visit hs hmemory
    rw [List.foldl_cons, ih (fun rule => ((solo rule).answer visit (m rule)).2)
      (interruption_foldl_hear htold visit hs) hown,
      hsink, List.append_assoc, List.length_cons, List.range_succ_eq_map, List.flatMap_cons,
      List.flatMap_map]
    rfl

end

theorem foldl_schedule (listeners : List (Listener σ)) (visits : List Visit) (s : Session σ) :
    (Call.schedule listeners visits).foldl take s =
      visits.foldl (fun s visit => listeners.foldl (hear visit) s) s := by
  induction visits generalizing s with
  | nil => rfl
  | cons visit rest ih =>
    rw [List.foldl_cons, foldl_hear, ← ih, ← List.foldl_append]
    simp only [Call.schedule, List.flatMap_cons, List.flatMap_nil, List.append_nil]

end Session

/-! ## Setting up -/

namespace Rule

/-- The rule at work alone, and what is kept in mind then. A rule that is not set up has no
callbacks. -/
def alone (filename : Text) (options : List Json) (m : σ) (rule : Rule σ) : Listener σ × σ :=
  let context : Context σ := ⟨rule, filename, options, .error⟩
  let ending := (context.perform (rule.create context.setup m) #[]).2
  (⟨context, ending.result.toOption.getD []⟩, ending.memory)

/-- What the rule reports at the visit with a number if it is alone, with the severity of an
error. -/
def group (filename : Text) (options : List Json) (m : σ) (visits : List Visit) (i : Nat)
    (rule : Rule σ) : List Violation :=
  ((rule.alone filename options m).1.groups visits (rule.alone filename options m).2)[i]?.getD []

theorem alone_of_done {filename : Text} {options : List Json} {m m' : σ} {rule : Rule σ}
    {callbacks : List (Text × Callback σ)}
    (h : rule.create ⟨⟨filename, options⟩, .error⟩ m = .done callbacks m') :
    rule.alone filename options m = (⟨⟨rule, filename, options, .error⟩, callbacks⟩, m') := by
  rw [alone, Context.setup, h]
  rfl

end Rule

/-- Is the rule not off? -/
def Settings.isOn (settings : Settings) (rule : Rule σ) : Bool :=
  (settings.settingFor rule).severity != .off

/-- Independent rules are set up beside each other as they are set up alone. -/
theorem Listener.enlist_beside (settings : Settings) (filename : Text) {registry : Registry σ}
    (hids : (registry.map (·.id)).Nodup) (hindependent : ∀ rule ∈ registry, rule.IsIndependent part)
    {m₀ m : σ} (hm : ∀ rule ∈ registry, part rule.id m₀ = part rule.id m) :
    let enlisted := enlist settings filename registry m
    enlisted.listeners.map (·.context.rule) = registry.filter settings.isOn ∧
      enlisted.reports = #[] ∧
      (∀ l ∈ enlisted.listeners,
        let rule := l.context.rule
        let alone := rule.alone filename (settings.settingFor rule).options m₀
        l.context.severity = (settings.settingFor rule).severity ∧ alone.1.Beside part l ∧
          part rule.id alone.2 = part rule.id enlisted.memory) ∧
      ∀ id ∉ registry.map (·.id), part id enlisted.memory = part id m := by
  induction registry generalizing m with
  | nil => exact ⟨rfl, rfl, fun l hl => absurd hl (by simp [enlist]), fun _ _ => rfl⟩
  | cons rule rest ih =>
    obtain ⟨hfresh, hids⟩ := List.nodup_cons.mp hids
    have hrest := fun r hr => hindependent r (List.mem_cons_of_mem _ hr)
    by_cases hoff : (settings.settingFor rule).severity = .off
    · rw [enlist_off hoff]
      obtain ⟨hrules, hreports, hbeside, hothers⟩ :=
        ih hids hrest fun r hr => hm r (List.mem_cons_of_mem _ hr)
      refine ⟨?_, hreports, hbeside,
        fun id hid => hothers id fun hmem => hid (List.mem_cons_of_mem _ hmem)⟩
      rw [hrules, List.filter_cons_of_neg (by simp [Settings.isOn, hoff])]
    · have hown := hindependent rule List.mem_cons_self
      have hne : ∀ r ∈ rest, r.id ≠ rule.id := fun r hr heq =>
        hfresh (List.mem_map.mpr ⟨r, hr, heq⟩)
      let setup := (contextOf settings filename rule).setup
      -- The rule is set up here and alone, and the two are alike.
      obtain ⟨callbacks, m₁, hdone⟩ := hown.create_done setup m
      obtain ⟨callbacks₀, m₂, hdone₀⟩ := hown.create_done ⟨setup.toSurroundings, .error⟩ m₀
      have halike := hown.create_alike setup.toSurroundings .error setup.severity m₀ m
        (hm rule List.mem_cons_self)
      have hleaves := hown.create_leaves setup m
      have hcalls := hown.call_leaves setup m
      rw [hdone₀, show (⟨setup.toSurroundings, setup.severity⟩ : Setup) = setup from rfl,
        hdone] at halike
      rw [hdone] at hleaves hcalls
      have halone : rule.alone filename (settings.settingFor rule).options m₀ = _ :=
        Rule.alone_of_done hdone₀
      obtain ⟨hcallbacks, hmemory⟩ := halike
      obtain ⟨hleaves⟩ := hleaves
      obtain ⟨hcalls⟩ := hcalls
      obtain ⟨hrules, hreports, hbeside, hothers⟩ := ih (m := m₁) hids hrest fun r hr => by
        rw [hleaves _ (hne r hr)]
        exact hm r (List.mem_cons_of_mem _ hr)
      rw [enlist_done hoff hdone]
      refine ⟨?_, hreports, ?_, ?_⟩
      · rw [List.filter_cons_of_pos (by simpa [Settings.isOn] using hoff), ← hrules]
        rfl
      · intro l hl
        rcases List.mem_cons.mp hl with rfl | hl
        · refine ⟨rfl, ?_, ?_⟩
          · show Beside part (rule.alone filename (settings.settingFor rule).options m₀).1 _
            rw [halone]
            exact ⟨rfl, hcallbacks, hcalls callbacks rfl⟩
          · show part rule.id (rule.alone filename (settings.settingFor rule).options m₀).2 = _
            rw [halone]
            exact hmemory.trans (hothers _ hfresh).symm
        · exact hbeside l hl
      · intro id hid
        rw [List.map_cons, List.mem_cons, not_or] at hid
        exact (hothers id hid.2).trans (hleaves _ hid.1)

/-! ## A whole run -/

theorem Listener.rule_of_mem_groups (l : Listener σ) (visits : List Visit) (m : σ) :
    ∀ reports ∈ l.groups visits m, ∀ v ∈ reports, v.rule = l.context.rule.id := by
  induction visits generalizing m with
  | nil => exact fun reports h => absurd h (by simp [groups])
  | cons visit rest ih =>
    intro reports hreports v hv
    rcases List.mem_cons.mp hreports with rfl | hrest
    · rw [answer] at hv
      split at hv
      · exact absurd hv (by simp)
      · rename_i callback _
        exact ((l.context.reports_perform (callback visit m)).bears v hv).rule
    · exact ih _ reports hrest v hv

theorem Rule.rule_of_mem_group {filename : Text} {options : List Json} {m : σ}
    {visits : List Visit} {i : Nat} {rule : Rule σ} :
    ∀ v ∈ rule.group filename options m visits i, v.rule = rule.id := by
  intro v hv
  rw [group] at hv
  cases hgroup : ((rule.alone filename options m).1.groups visits
      (rule.alone filename options m).2)[i]? with
  | none =>
    rw [hgroup] at hv
    exact absurd hv (by simp)
  | some reports =>
    rw [hgroup] at hv
    exact Listener.rule_of_mem_groups _ _ _ reports (List.mem_of_getElem? hgroup) v hv

namespace Linter

section
variable {registry : Registry σ} (hids : (registry.map (·.id)).Nodup)
  (hindependent : ∀ rule ∈ registry, rule.IsIndependent part)
  (htold : ∀ rule ∈ registry, rule.FailsOnlyWith Mishap.IsTold)

include hids hindependent htold in
/-- **What independent rules report** is what each of them reports alone, visit by visit and in the
order of the registry. -/
theorem verify_eq_groups (settings : Settings) (log : List Failure) {m₀ m : σ}
    (hm : ∀ rule ∈ registry, part rule.id m₀ = part rule.id m) (tree : Option Node)
    (filename : Text) :
    let visits := tree.toList.flatMap Node.visits
    ((⟨registry, settings, log, m⟩ : Linter σ).verify tree filename).1 =
      .ok ((List.range visits.length).flatMap fun i =>
        (registry.filter settings.isOn).flatMap fun rule =>
          (rule.group filename (settings.settingFor rule).options m₀ visits i).map
            (Violation.weigh (settings.settingFor rule).severity)) := by
  intro visits
  obtain ⟨hrules, hreports, hbeside, -⟩ :=
    Listener.enlist_beside settings filename hids hindependent hm
  obtain ⟨hstart, hlisteners⟩ := Listener.enlist_of_failsOnlyWith htold settings filename m
  have hlistenerIds : ((Listener.enlist settings filename registry m).listeners.map
      (·.context.rule.id)).Nodup := by
    have hmap : (Listener.enlist settings filename registry m).listeners.map
        (·.context.rule.id) = (registry.filter settings.isOn).map (·.id) := by
      rw [← hrules, List.map_map]
      rfl
    rw [hmap]
    exact hids.sublist (List.filter_sublist.map _)
  rw [verify_eq_ok htold, calls, Session.foldl_schedule]
  let alone (rule : Rule σ) := rule.alone filename (settings.settingFor rule).options m₀
  refine congrArg Except.ok ((Session.foldl_visits_groups (fun rule => (alone rule).1)
    (fun rule => (alone rule).2) hlistenerIds (fun l hl => (hbeside l hl).2.1) hlisteners visits
    hstart fun l hl => (hbeside l hl).2.2).trans ?_)
  rw [session, hreports]
  refine List.flatMap_congr fun i _ => ?_
  rw [← hrules, List.flatMap_map]
  refine List.flatMap_congr fun l hl => ?_
  rw [(hbeside l hl).1]
  rfl

end

end Linter

/-! ## Settings and registries -/

/-- The violation as settings would have it: gone if its rule is off, and otherwise with the
severity of its rule. -/
def Settings.relabel (registry : Registry σ) (settings : Settings) (v : Violation) :
    Option Violation :=
  (registry.find? v.rule).bind fun rule =>
    if settings.isOn rule then some (v.weigh (settings.settingFor rule).severity) else none

theorem Registry.find?_of_mem {registry : Registry σ} (hids : (registry.map (·.id)).Nodup)
    {rule : Rule σ} (h : rule ∈ registry) : registry.find? rule.id = some rule := by
  induction registry with
  | nil => exact absurd h (by simp)
  | cons r rest ih =>
    obtain ⟨hfresh, hids⟩ := List.nodup_cons.mp hids
    rw [find?, List.find?_cons]
    rcases List.mem_cons.mp h with rfl | hrest
    · rw [beq_self_eq_true]
    · have hne : (r.id == rule.id) = false := by
        refine beq_false_of_ne fun heq => hfresh ?_
        exact List.mem_map.mpr ⟨rule, hrest, heq.symm⟩
      rw [hne]
      exact ih hids hrest

/-- A group of reports of one rule, relabelled. -/
theorem Settings.filterMap_relabel {registry : Registry σ} (hids : (registry.map (·.id)).Nodup)
    {rule : Rule σ} (h : rule ∈ registry) (settings : Settings) {severity : Severity}
    {group : List Violation} (hgroup : ∀ v ∈ group, v.rule = rule.id) :
    (group.map (Violation.weigh severity)).filterMap (settings.relabel registry) =
      if settings.isOn rule then group.map (Violation.weigh (settings.settingFor rule).severity)
      else [] := by
  have hrelabel : ∀ v ∈ group, settings.relabel registry (v.weigh severity) =
      if settings.isOn rule then some (v.weigh (settings.settingFor rule).severity) else none := by
    intro v hv
    have hrule : (v.weigh severity).rule = rule.id := hgroup v hv
    rw [relabel, hrule, registry.find?_of_mem hids h, Option.bind_some]
    rfl
  rw [List.filterMap_map]
  refine (List.filterMap_congr hrelabel).trans ?_
  split
  · rw [← List.filterMap_eq_map]
    rfl
  · simp

theorem flatMap_filter_of_imp {α β : Type} {p q : α → Bool} {l : List α}
    (h : ∀ a ∈ l, p a = true → q a = true) (f : α → List β) :
    (l.filter p).flatMap f = (l.filter q).flatMap fun a => if p a then f a else [] := by
  induction l with
  | nil => rfl
  | cons a rest ih =>
    have hrest := ih fun b hb => h b (List.mem_cons_of_mem _ hb)
    by_cases hp : p a = true
    · rw [List.filter_cons_of_pos hp, List.filter_cons_of_pos (h a List.mem_cons_self hp),
        List.flatMap_cons, List.flatMap_cons, if_pos hp, hrest]
    · rw [List.filter_cons_of_neg hp, hrest]
      by_cases hq : q a = true
      · rw [List.filter_cons_of_pos hq, List.flatMap_cons, if_neg hp]
        rfl
      · rw [List.filter_cons_of_neg hq]

/-- The rules of a part of a registry are told by their ids. -/
theorem eq_filter_of_sublist {sub registry : Registry σ} (hids : (registry.map (·.id)).Nodup)
    (h : sub.Sublist registry) :
    registry.filter (fun rule => sub.any fun r => r.id == rule.id) = sub := by
  induction h with
  | slnil => rfl
  | @cons sub rest rule h ih =>
    obtain ⟨hfresh, hids⟩ := List.nodup_cons.mp hids
    rw [List.filter_cons_of_neg, ih hids]
    rw [List.any_eq_true]
    rintro ⟨r, hr, heq⟩
    exact hfresh (List.mem_map.mpr ⟨r, h.subset hr, eq_of_beq heq⟩)
  | @cons_cons sub rest rule h ih =>
    obtain ⟨hfresh, hids⟩ := List.nodup_cons.mp hids
    rw [List.filter_cons_of_pos (by simp)]
    congr 1
    refine (List.filter_congr fun r hr => ?_).trans (ih hids)
    have hne : (rule.id == r.id) = false := by
      refine beq_false_of_ne fun heq => hfresh ?_
      exact List.mem_map.mpr ⟨r, hr, heq.symm⟩
    rw [List.any_cons, hne, Bool.false_or]

theorem filter_group {group : List Violation} {id : Text} (hgroup : ∀ v ∈ group, v.rule = id)
    (severity : Severity) (p : Text → Bool) :
    (group.map (Violation.weigh severity)).filter (fun v => p v.rule) =
      if p id then group.map (Violation.weigh severity) else [] := by
  have hrule : ∀ v ∈ group.map (Violation.weigh severity), v.rule = id := by
    intro v hv
    obtain ⟨v', hv', rfl⟩ := List.mem_map.mp hv
    exact hgroup v' hv'
  split
  · rename_i hp
    refine List.filter_eq_self.mpr fun v hv => ?_
    rw [hrule v hv]
    exact hp
  · rename_i hp
    refine List.filter_eq_nil_iff.mpr fun v hv => ?_
    rw [hrule v hv]
    exact hp

namespace Linter

/-- **Settings only take away and relabel, and rules do not notice each other.** -/
theorem verify_filterMap {registry : Registry σ} (hids : (registry.map (·.id)).Nodup)
    (hindependent : ∀ rule ∈ registry, rule.IsIndependent part)
    (htold : ∀ rule ∈ registry, rule.FailsOnlyWith Mishap.IsTold) (tree : Option Node)
    (filename : Text) :
    (∀ (C D : Settings) (log log' : List Failure) (m m' : σ),
      (∀ rule ∈ registry, (C.settingFor rule).options = (D.settingFor rule).options) →
      (∀ rule ∈ registry, C.isOn rule = true → D.isOn rule = true) →
      (∀ rule ∈ registry, part rule.id m = part rule.id m') →
      ∃ vs, ((⟨registry, D, log', m'⟩ : Linter σ).verify tree filename).1 = .ok vs ∧
        ((⟨registry, C, log, m⟩ : Linter σ).verify tree filename).1 =
          .ok (vs.filterMap (C.relabel registry))) ∧
      (∀ (settings : Settings) (log log' : List Failure) (m m' : σ) (sub : Registry σ),
        sub.Sublist registry → (∀ rule ∈ sub, part rule.id m = part rule.id m') →
        ∃ vs, ((⟨registry, settings, log', m'⟩ : Linter σ).verify tree filename).1 = .ok vs ∧
          ((⟨sub, settings, log, m⟩ : Linter σ).verify tree filename).1 =
            .ok (vs.filter fun v => sub.any fun r => r.id == v.rule)) ∧
      ∀ (settings : Settings) (m : σ), ∃ group : Nat → Rule σ → List Violation,
        (∀ i rule, ∀ v ∈ group i rule, v.rule = rule.id) ∧
        ∀ (registry' : Registry σ) (log : List Failure), registry'.Perm registry →
          ((⟨registry', settings, log, m⟩ : Linter σ).verify tree filename).1 =
            .ok ((List.range (tree.toList.flatMap Node.visits).length).flatMap fun i =>
              registry'.flatMap (group i)) := by
  refine ⟨?_, ?_, ?_⟩
  · intro C D log log' m m' hoptions hon hm
    refine ⟨_, verify_eq_groups hids hindependent htold D log' (fun _ _ => rfl) tree filename, ?_⟩
    rw [verify_eq_groups hids hindependent htold C log (fun rule hrule => (hm rule hrule).symm),
      List.filterMap_flatMap]
    refine congrArg Except.ok (List.flatMap_congr fun i _ => ?_)
    rw [List.filterMap_flatMap, flatMap_filter_of_imp hon]
    refine List.flatMap_congr fun rule hrule => ?_
    have hmem : rule ∈ registry := List.mem_of_mem_filter hrule
    rw [C.filterMap_relabel hids hmem Rule.rule_of_mem_group, hoptions rule hmem]
  · intro settings log log' m m' sub hsub hm
    have hsubIds : (sub.map (·.id)).Nodup := hids.sublist (hsub.map _)
    have hrules : sub.filter settings.isOn = registry.filter fun rule =>
        settings.isOn rule && sub.any fun r => r.id == rule.id := by
      rw [← List.filter_filter, eq_filter_of_sublist hids hsub]
    refine ⟨_, verify_eq_groups hids hindependent htold settings log' (fun _ _ => rfl) tree
      filename, ?_⟩
    rw [verify_eq_groups hsubIds (fun rule hrule => hindependent rule (hsub.subset hrule))
        (fun rule hrule => htold rule (hsub.subset hrule)) settings log
        fun rule hrule => (hm rule hrule).symm, List.filter_flatMap]
    refine congrArg Except.ok (List.flatMap_congr fun i _ => ?_)
    rw [hrules, List.filter_flatMap,
      flatMap_filter_of_imp fun rule _ h => (Bool.and_eq_true_iff.mp h).1]
    refine List.flatMap_congr fun rule hrule => ?_
    rw [filter_group Rule.rule_of_mem_group _ fun id => sub.any fun r => r.id == id,
      (List.mem_filter.mp hrule).2, Bool.true_and]
  · intro settings m
    refine ⟨fun i rule => if settings.isOn rule then (rule.group filename
      (settings.settingFor rule).options m (tree.toList.flatMap Node.visits) i).map
        (Violation.weigh (settings.settingFor rule).severity) else [], ?_, ?_⟩
    · intro i rule v hv
      dsimp only at hv
      split at hv
      · obtain ⟨v', hv', rfl⟩ := List.mem_map.mp hv
        exact Rule.rule_of_mem_group v' hv'
      · exact absurd hv (by simp)
    · intro registry' log hperm
      have hids' : (registry'.map (·.id)).Nodup := (hperm.map _).nodup_iff.mpr hids
      rw [verify_eq_groups hids' (fun rule hrule => hindependent rule (hperm.subset hrule))
        (fun rule hrule => htold rule (hperm.subset hrule)) settings log fun _ _ => rfl]
      refine congrArg Except.ok (List.flatMap_congr fun i _ => ?_)
      have hall : registry'.filter (fun _ => true) = registry' :=
        List.filter_eq_self.mpr fun _ _ => rfl
      rw [flatMap_filter_of_imp fun _ _ _ => rfl, hall]

theorem isIndependent_probeRule (id : Text) {ending : Work Unit Unit}
    (h : ending.Alike Eq Eq ending) : (probeRule id ending).IsIndependent fun _ m => m where
  create_done setup m := ⟨_, m, rfl⟩
  create_alike s x y m m' hm := by
    refine .done (.cons ⟨rfl, fun visit m m' _ => ?_⟩ .nil) hm
    exact .report (fun _ _ => .report (fun _ _ => h) fun _ => h) fun _ =>
      .report (fun _ _ => h) fun _ => h
  create_leaves setup m := Work.leaves_of_forall (fun _ _ _ _ => rfl) _
  call_leaves setup m := Work.leaves_of_forall
    (fun _ _ _ _ _ _ _ _ => Work.leaves_of_forall (fun _ _ _ _ => rfl) _) _

/-- The rules of the probe linter that keep to themselves, in front of those of the tool. -/
def mixedRegistry : Registry Unit :=
  probeRule "flawed" (.fail lost ()) :: probeRule "sound" (.done () ()) :: Registry.standard

def quietSettings : Settings := [("flawed", ⟨.off, []⟩), ("sound", ⟨.warning, []⟩)]

/-- With the rule that fails switched off, the other one reports as before, as a warning. -/
theorem verify_mixedRegistry :
    ∃ vs, ((⟨mixedRegistry, [], [], ()⟩ : Linter Unit).verify
        (some (.mk none .thisExpression)) "a.js").1 = .ok vs ∧
      ((⟨mixedRegistry, quietSettings, [], ()⟩ : Linter Unit).verify
        (some (.mk none .thisExpression)) "a.js").1 =
          .ok (vs.filterMap (quietSettings.relabel mixedRegistry)) ∧
      (vs.filterMap (quietSettings.relabel mixedRegistry)).map (fun v => (v.rule, v.severity)) =
          ([("sound", .warning)] : List (Text × Severity)) := by
  have hids : (mixedRegistry.map (·.id)).Nodup := by decide
  have hindependent : ∀ rule ∈ mixedRegistry, rule.IsIndependent fun _ m => m := by
    intro rule hrule
    rcases List.mem_cons.mp hrule with rfl | hrule
    · exact isIndependent_probeRule "flawed" (.fail rfl)
    rcases List.mem_cons.mp hrule with rfl | hrule
    · exact isIndependent_probeRule "sound" (.done rfl rfl)
    · exact Registry.isIndependent_standard _ rule hrule
  have htold : ∀ rule ∈ mixedRegistry, rule.FailsOnlyWith Mishap.IsTold := by
    intro rule hrule
    rcases List.mem_cons.mp hrule with rfl | hrule
    · exact failsOnlyWith_probeLinter _ (by simp [probeLinter, start])
    rcases List.mem_cons.mp hrule with rfl | hrule
    · exact failsOnlyWith_probeLinter _ (by simp [probeLinter, start])
    · exact Registry.failsOnlyWith_map _ rule hrule
  obtain ⟨hsettings, -⟩ :=
    verify_filterMap hids hindependent htold (some (.mk none .thisExpression)) "a.js"
  obtain ⟨vs, hall, hsome⟩ := hsettings quietSettings [] [] [] () () (by
    simp only [mixedRegistry, Registry.standard, Registry.conventions, List.map_cons, List.map_nil,
      List.forall_mem_cons]
    exact ⟨rfl, rfl, rfl, rfl, rfl, by simp⟩) (by decide) fun _ _ => rfl
  refine ⟨vs, hall, hsome, ?_⟩
  rw [← Except.ok.inj ((verify_eq_ok htold _ _).symm.trans hsome), calls, Option.toList_some,
    List.flatMap_singleton, Node.visits_eq_preorder, Node.preorder_eq]
  rfl

end Linter

end AngularLint
