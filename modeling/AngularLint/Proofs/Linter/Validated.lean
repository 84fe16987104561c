import AngularLint.Proofs.Config.Acceptance
import AngularLint.Proofs.Config.Load
import AngularLint.Proofs.Linter.Failure
import AngularLint.Proofs.Linter.Pairing
import AngularLint.Proofs.Rule.Pattern

/-!
# Options that are accepted can be used

Options are looked at three times: they are validated when a setting is read, the rule for the names
of test files takes its suffix out of them, and the suffix goes into a pattern. Nothing that passes
the first of these breaks a later one. The suffix is the text that stands in the options, or the
default where none does, and names are searched for it as it is.

What is told by a linter comes from a call that fails (`mem_told_foldl_take`), and no call of that
rule does.
-/

set_option autoImplicit false

namespace AngularLint

variable {σ : Type}

namespace TestFilename

/-- What options have for a suffix. -/
def given? (options : List Json) : Option Json := options.head?.bind (Json.get? "suffix")

theorem suffixOption_eq (options : List Json) :
    suffixOption options = (given? options).getD (.str defaultSuffix) := by
  cases options with
  | nil => rfl
  | cons option rest => cases option <;> rfl

/-- What the rule asks to be reported at a visit. -/
def request (filename suffix : Text) (visit : Visit) : Request where
  message := "noConsistentNaming"
  anchor := .ofOption (visit.ancestors.head?.map .node)
  data := [("expectedName", .plain (.str (expectedName filename suffix)))]

/-- What the rule makes of a visit, once its suffix is known to be a text. -/
theorem onCall_of_suffix {s : Surroundings} {suffix : Text}
    (h : suffixOption s.options = .str suffix) (visit : Visit) :
    onCall s visit =
      if isDeclaration (.ofOption ((Value.node visit.node).at? ["callee"])) = true ∧
          ¬IsFound s.filename suffix then .single (request s.filename suffix visit)
      else .silent := by
  have hjudge : judge s visit =
      if hasExpectedName s.filename suffix = true then .ok none
      else .ok (some (request s.filename suffix visit)) := by
    rw [judge, h]
    rfl
  rw [onCall, hjudge]
  by_cases hdeclares : isDeclaration (.ofOption ((Value.node visit.node).at? ["callee"])) = true
  · rw [if_pos hdeclares]
    by_cases hfound : IsFound s.filename suffix
    · rw [if_pos (hasExpectedName_iff.mpr hfound), if_neg fun hmissing => hmissing.2 hfound]
      rfl
    · rw [if_neg fun hnamed => hfound (hasExpectedName_iff.mp hnamed), if_pos ⟨hdeclares, hfound⟩]
      rfl
  · rw [if_neg hdeclares, if_neg fun h => hdeclares h.1]

end TestFilename

namespace Session

theorem mem_told_foldl_take {calls : List (Call σ)}
    (hcalls : ∀ c ∈ calls, c.FailsOnlyWith Mishap.IsTold) {s : Session σ}
    (hs : s.interruption = none) {diagnostic : Diagnostic}
    (h : diagnostic ∈ (calls.foldl take s).told.toList) :
    diagnostic ∈ s.told.toList ∨
      ∃ c ∈ calls, ∃ m x text, (c.answer m).1.fault = some x ∧ x.text? = some text ∧
        diagnostic = c.failure.diagnostic text := by
  induction calls generalizing s with
  | nil => exact .inl h
  | cons c rest ih =>
    obtain ⟨henters, hnext⟩ := take_of_isTold hs (hcalls c List.mem_cons_self)
    rcases ih (fun c' hc' => hcalls c' (List.mem_cons_of_mem _ hc')) hnext h with
      hfirst | ⟨c', hc', hlater⟩
    · rw [henters.told] at hfirst
      rcases List.mem_append.mp hfirst with hbefore | hnews
      · exact .inl hbefore
      · obtain ⟨text, htext, rfl⟩ := List.mem_map.mp hnews
        obtain ⟨hanswer, -⟩ := Option.filter_eq_some_iff.mp (Option.mem_toList.mp htext)
        obtain ⟨x, hx, htext⟩ := Option.bind_eq_some_iff.mp hanswer
        exact .inr ⟨c, List.mem_cons_self, s.memory, x, text, hx, htext, rfl⟩
    · exact .inr ⟨c', List.mem_cons_of_mem _ hc', hlater⟩

end Session

namespace Linter

/-- What a fresh linter tells comes from a rule at work that makes a fault of a visit. -/
theorem exists_fault_of_told {conventions : List Convention}
    (hknown : ∀ convention ∈ conventions, convention.HasMessages) {settings : Settings} {m : σ}
    {tree : Option Node} {filename : Text} {diagnostic : Diagnostic}
    (h : diagnostic ∈
      ((start (conventions.map Convention.rule) settings m).verify tree filename).2.2) :
    ∃ visit ∈ tree.toList.flatMap Node.visits, ∃ convention ∈ conventions,
      ∃ (habit : Visit → Outcome) (fault : Fault),
        (convention.habits
            ⟨filename, (settings.settingFor (convention.rule : Rule σ)).options⟩).lookup
          visit.node.type = some habit ∧
        (habit visit).fault = some fault ∧
        diagnostic = .ruleFailed convention.id visit.node.type filename fault.shown := by
  have hrules := Registry.failsOnlyWith_map (σ := σ) conventions
  let l : Linter σ := start (conventions.map Convention.rule) settings m
  have hcalls := failsOnlyWith_of_mem_calls (l := l) hrules tree filename
  rw [verify_eq_calls] at h
  rcases Session.mem_told_foldl_take hcalls (interruption_session (l := l) hrules filename) h with
    hstart | ⟨c, hc, m', x, text, hx, htext, rfl⟩
  · exact absurd hstart (by simp [session])
  · obtain ⟨visit, hvisit, convention, hconvention, -, habit, hhabit, rfl⟩ :=
      Call.mem_schedule_map.mp hc
    have hanswer := Call.fault_answer_ofHabit settings filename (convention.rule : Rule σ)
      (hknown convention hconvention _ _ (mem_of_lookup hhabit) visit) m'
    obtain ⟨fault, hfault, rfl⟩ := Option.map_eq_some_iff.mp (hanswer.symm.trans hx)
    obtain rfl : fault.shown = text := Option.some.inj htext
    exact ⟨visit, hvisit, convention, hconvention, habit, fault, hhabit, hfault, rfl⟩

/-- Settings by which a linter runs: each has been accepted, or they have been loaded from
files. -/
theorem areAccepted_of_accepted_or_loaded [Limits] {settings : Settings}
    (h : settings.AreAccepted (.standard : Registry σ) ∨
      ∃ read paths, (Settings.load (.standard : Registry σ) read paths).result = .ok settings) :
    settings.AreAccepted (.standard : Registry σ) := by
  rcases h with haccepted | ⟨read, paths, hload⟩
  · exact haccepted
  · refine Settings.areAccepted_of_load (fun rule hrule => ?_) hload
    rcases Registry.mem_standard_iff.mp hrule with rfl | rfl | rfl
    · rfl
    · rfl
    · rfl

/-- **Options that are accepted can be used**: every rule can be set up with them, and the rule for
the names of test files looks for the suffix that they give, whatever it is, and fails nowhere. -/
theorem verify_of_accepted [Limits] {settings : Settings}
    (h : settings.AreAccepted (.standard : Registry σ) ∨
      ∃ read paths, (Settings.load (.standard : Registry σ) read paths).result = .ok settings)
    (filename : Text) :
    let options := (settings.settingFor (TestFilename.rule (σ := σ))).options
    (∀ rule ∈ (Registry.standard : Registry σ), ∃ convention ∈ Registry.conventions,
      rule = convention.rule ∧ ∀ m,
        rule.create (Listener.contextOf settings filename rule).setup m =
          .done ((convention.habits ⟨filename, (settings.settingFor rule).options⟩).map fun e =>
            (e.1, .ofHabit e.2)) m) ∧
      (∃ suffix : Text,
        (TestFilename.given? options = none ∧ suffix = "spec" ∨
          TestFilename.given? options = some (.str suffix)) ∧
        ∀ visit, TestFilename.onCall ⟨filename, options⟩ visit =
          if
            TestFilename.isDeclaration (.ofOption ((Value.node visit.node).at? ["callee"])) = true ∧
              ¬TestFilename.IsFound filename suffix then
            .single (TestFilename.request filename suffix visit)
          else .silent) ∧
      ∀ m tree,
        let verdict := (start (.standard : Registry σ) settings m).verify tree filename
        (∃ vs, verdict.1 = .ok vs) ∧ ∀ diagnostic ∈ verdict.2.2, ∀ kind file shown,
          diagnostic ≠ .ruleFailed (TestFilename.rule (σ := σ)).id kind file shown := by
  intro options
  have haccepted := areAccepted_of_accepted_or_loaded h
  have hmember : (TestFilename.rule : Rule σ) ∈ Registry.standard := List.mem_cons_self
  have htextual : ∀ option ∈ options, Setting.IsTextual option := haccepted.isTextual hmember
  obtain ⟨suffix, hsuffix⟩ := TestFilename.exists_suffix htextual
  refine ⟨fun rule hrule => ?_, ⟨suffix, ?_, ?_⟩, fun m tree => ⟨?_, ?_⟩⟩
  · obtain ⟨convention, hconvention, rfl⟩ := List.mem_map.mp hrule
    exact ⟨convention, hconvention, rfl, fun m => rfl⟩
  · rw [TestFilename.suffixOption_eq] at hsuffix
    cases hgiven : TestFilename.given? options with
    | none =>
      rw [hgiven] at hsuffix
      exact .inl ⟨rfl, (Json.str.inj hsuffix).symm⟩
    | some v =>
      rw [hgiven] at hsuffix
      exact .inr (congrArg some hsuffix)
  · exact TestFilename.onCall_of_suffix hsuffix
  · exact ⟨_, verify_eq_ok (Registry.failsOnlyWith_map Registry.conventions) tree filename⟩
  · intro diagnostic hdiagnostic kind file shown heq
    obtain ⟨visit, -, convention, hconvention, habit, fault, hhabit, hfault, hfailed⟩ :=
      exists_fault_of_told hasMessages_conventions hdiagnostic
    rw [heq] at hfailed
    obtain ⟨hid, -⟩ := Diagnostic.ruleFailed.inj hfailed
    simp only [Registry.conventions, List.mem_cons, List.not_mem_nil, or_false] at hconvention
    rcases hconvention with rfl | rfl | rfl
    · obtain ⟨-, rfl⟩ := Prod.mk.inj (List.mem_singleton.mp (mem_of_lookup hhabit))
      exact absurd ((TestFilename.fault_onCall htextual visit).symm.trans hfault) (by simp)
    · exact absurd hid (show ("consistent-test-filename" : Text) ≠ "no-two-way-binding" by decide)
    · exact absurd hid
        (show ("consistent-test-filename" : Text) ≠ "require-comp-ctrl-on-init" by decide)

/-- A document that gives the rule a suffix which has a meaning of its own in a pattern. -/
def starredDocument : Document :=
  ⟨#[.list [.scalar (.text "Error"), .container 1],
    .mapping [(.text "suffix", .scalar (.text ".*"))]], .container 0⟩

def starredSettings : Settings :=
  [("consistent-test-filename", ⟨.error, [.obj [("suffix", .str ".*")]]⟩)]

theorem areAccepted_starredSettings :
    starredSettings.AreAccepted (.standard : Registry Unit) := by
  have hkeys : starredDocument.HasDistinctKeys := by
    intro c hc
    simp only [starredDocument, List.mem_toArray, List.mem_cons, List.not_mem_nil, or_false] at hc
    rcases hc with rfl | rfl
    · trivial
    · exact List.pairwise_singleton _ _
  intro rule hrule setting hlookup
  refine ⟨starredDocument, .container 0, ?_⟩
  obtain ⟨hid, rfl⟩ := Prod.mk.inj (List.mem_singleton.mp (mem_of_lookup hlookup))
  refine (Setting.ofDatum_eq_ok_iff hkeys hrule).mpr ⟨_, _, .list rfl, .error ?_, .suffix hid rfl⟩
  decide +kernel

/-- The suffix is looked for as it is: a name in which something else stands in its place is
reported. -/
theorem verify_starredSettings :
    starredSettings.AreAccepted (.standard : Registry Unit) ∧
      TestFilename.IsFound "a..*.js" ".*" ∧ ¬TestFilename.IsFound "a.x.js" ".*" ∧
      ∀ visit, TestFilename.onCall ⟨"a.x.js", [.obj [("suffix", .str ".*")]]⟩ visit =
        if TestFilename.isDeclaration (.ofOption ((Value.node visit.node).at? ["callee"])) = true
        then .single (TestFilename.request "a.x.js" ".*" visit) else .silent := by
  have hmissing : ¬TestFilename.IsFound "a.x.js" ".*" := by decide +kernel
  obtain ⟨-, ⟨suffix, hgiven, hcall⟩, -⟩ :=
    verify_of_accepted (.inl areAccepted_starredSettings) "a.x.js"
  refine ⟨areAccepted_starredSettings, by decide +kernel, hmissing, fun visit => ?_⟩
  rcases hgiven with ⟨hnone, -⟩ | hsome
  · exact absurd hnone (by decide +kernel)
  · obtain rfl : ".*" = suffix := Json.str.inj (Option.some.inj hsome)
    refine (hcall visit).trans ?_
    simp only [hmissing, not_false_eq_true, and_true]

end Linter

end AngularLint
