import AngularLint.Proofs.Config.Options
import AngularLint.Proofs.Config.Severity

/-!
# Which values are settings

`Setting.ofDatum` reads a setting step by step, and leaves off at the first thing that is wrong.
What it comes to is said here by a grammar, which has no steps: `Spells` takes a value apart into a
severity and options, `Datum.Names` says which severity a value names, and `Fits` which options a
rule takes. A value is a setting if and only if it is of the grammar (`ofDatum_eq_ok_iff`).

For every other value there is a `Complaint`, the severity before the options. To tell it, a part of
the value is shown, and that part may be too large or too deep for it; `IsTellable` says that none
is.
-/

set_option autoImplicit false

namespace AngularLint.Setting

variable {σ : Type}

/-- A value as a setting: a severity alone, or a list of a severity and options. -/
inductive Spells (d : Document) (v : Datum) : Datum → List Datum → Prop
  | alone (noList : d.items? v = none) : Spells d v v []
  | list {head : Datum} {data : List Datum} (items : d.items? v = some (head :: data)) :
      Spells d v head data

/-- Why a value is no setting of a rule, the first reason that there is. -/
inductive Complaint [Limits] (d : Document) (rule : Rule σ) (v : Datum) : SettingFault → Prop
  | emptyList (empty : d.items? v = some []) : Complaint d rule v (.emptyList rule.id)
  | unknownSeverity {head : Datum} {data : List Datum} {text : Text} (spells : Spells d v head data)
      (nameless : ∀ severity, ¬head.Names severity) (shown : d.shown .severity head = .ok text) :
      Complaint d rule v (.unknownSeverity text)
  | invalidOptions {head : Datum} {data : List Datum} {severity : Severity} {fault : OptionFault}
      (spells : Spells d v head data) (names : head.Names severity)
      (misfits : Misfits d rule data fault) : Complaint d rule v (.invalidOptions rule.id fault)

/-- What may have to be shown, if something is wrong with a setting. -/
def parts (d : Document) (v : Datum) : List (Exhibit × Datum) :=
  match d.items? v with
  | none => [(.severity, v)]
  | some [] => []
  | some (head :: data) => (.severity, head) :: exhibits d data

/-- Can everything be shown that may have to be? -/
def IsTellable [Limits] (d : Document) (v : Datum) : Prop := CanShow d (parts d v)

instance [Limits] (d : Document) (v : Datum) : Decidable (IsTellable d v) :=
  inferInstanceAs (Decidable (∀ e ∈ parts d v, ¬Fails (d.shown e.1 e.2)))

theorem Spells.parts_eq {d : Document} {v head : Datum} {data : List Datum}
    (h : Spells d v head data) : parts d v = (.severity, head) :: exhibits d data := by
  cases h with
  | alone noList =>
    rw [parts, noList]
    rfl
  | list items => rw [parts, items]

variable {d : Document}

theorem ofDatum_of_empty [Limits] {v : Datum} (rule : Rule σ) (h : d.items? v = some []) :
    ofDatum d rule v = .error (.emptyList rule.id) := by
  rw [ofDatum, h]
  rfl

theorem ofDatum_of_spells [Limits] {v head : Datum} {data : List Datum} (rule : Rule σ)
    (h : Spells d v head data) :
    ofDatum d rule v = (do
      let severity ← severity? d head
      return ⟨severity, ← options? d rule data⟩) := by
  cases h with
  | alone noList =>
    rw [ofDatum, noList]
  | list items =>
    rw [ofDatum, items]

theorem empty_or_spells (d : Document) (v : Datum) :
    d.items? v = some [] ∨ ∃ head data, Spells d v head data := by
  cases hitems : d.items? v with
  | none => exact .inr ⟨v, [], .alone hitems⟩
  | some items =>
    cases items with
    | nil => exact .inl rfl
    | cons head data => exact .inr ⟨head, data, .list hitems⟩

theorem severity?_eq_ok_iff [Limits] {v : Datum} {severity : Severity} :
    severity? d v = .ok severity ↔ v.Names severity := by
  rw [← Severity.ofDatum?_eq_some_iff, severity?]
  cases Severity.ofDatum? v with
  | some severity' => simp
  | none =>
    refine iff_of_false (fun h => ?_) (by simp)
    obtain ⟨text, -, h⟩ := bind_eq_ok.mp h
    exact throw_ne_ok h

theorem severity?_eq_error [Limits] {v : Datum} (hshown : ¬Fails (d.shown .severity v))
    {fault : SettingFault} (h : severity? d v = .error fault) :
    (∀ severity, ¬v.Names severity) ∧
      ∃ text, d.shown .severity v = .ok text ∧ fault = .unknownSeverity text := by
  refine ⟨fun severity hnames => ?_, ?_⟩
  · exact absurd ((severity?_eq_ok_iff.mpr hnames).symm.trans h) (by simp)
  · obtain ⟨text, htext⟩ := not_fails_iff.mp hshown
    rw [severity?] at h
    split at h
    · exact absurd h (by simp)
    · rw [htext] at h
      exact ⟨text, htext, (Except.error.inj h).symm⟩

theorem options?_eq_ok_iff [Limits] (hd : d.HasDistinctKeys) {rule : Rule σ}
    (hrule : rule ∈ (Registry.standard : Registry σ)) {data : List Datum} {options : List Json} :
    options? d rule data = .ok options ↔ Fits d rule data options := by
  constructor
  · intro h
    obtain rfl := options?_eq_ok h
    obtain ⟨fault?, hfault, h⟩ := bind_eq_ok.mp h
    cases fault? with
    | none => exact (misfits_of_optionsFault? hd hrule (told_eq_ok_iff.mp hfault)).2 rfl
    | some fault => exact absurd h throw_ne_ok
  · intro h
    obtain ⟨hfault, rfl⟩ := optionsFault?_of_fits hrule h
    rw [options?, hfault]
    rfl

theorem options?_eq_error [Limits] (hd : d.HasDistinctKeys) {rule : Rule σ}
    (hrule : rule ∈ (Registry.standard : Registry σ)) {data : List Datum}
    (hshown : CanShow d (exhibits d data)) {fault : SettingFault}
    (h : options? d rule data = .error fault) :
    ∃ misfit, Misfits d rule data misfit ∧ fault = .invalidOptions rule.id misfit := by
  obtain ⟨fault?, hfault⟩ := not_fails_iff.mp (not_fails_optionsFault? hrule hshown)
  rw [options?, hfault] at h
  cases fault? with
  | none => exact absurd h (by simp [told, pure, Except.pure, bind, Except.bind])
  | some misfit =>
    exact ⟨misfit, (misfits_of_optionsFault? hd hrule hfault).1 misfit rfl,
      (Except.error.inj h).symm⟩

/-- **Which values are settings**, and of what. -/
theorem ofDatum_eq_ok_iff [Limits] (hd : d.HasDistinctKeys) {rule : Rule σ}
    (hrule : rule ∈ (Registry.standard : Registry σ)) {v : Datum} {setting : Setting} :
    ofDatum d rule v = .ok setting ↔
      ∃ head data, Spells d v head data ∧ head.Names setting.severity ∧
        Fits d rule data setting.options := by
  constructor
  · intro h
    rcases empty_or_spells d v with hempty | ⟨head, data, hspells⟩
    · rw [ofDatum_of_empty rule hempty] at h
      exact absurd h (by simp)
    · rw [ofDatum_of_spells rule hspells] at h
      obtain ⟨severity, hseverity, h⟩ := bind_eq_ok.mp h
      obtain ⟨options, hoptions, h⟩ := bind_eq_ok.mp h
      obtain rfl := Except.ok.inj h
      exact ⟨head, data, hspells, severity?_eq_ok_iff.mp hseverity,
        (options?_eq_ok_iff hd hrule).mp hoptions⟩
  · rintro ⟨head, data, hspells, hnames, hfits⟩
    rw [ofDatum_of_spells rule hspells, severity?_eq_ok_iff.mpr hnames,
      (options?_eq_ok_iff hd hrule).mpr hfits]
    rfl

/-- **What is told of any other value.** -/
theorem complaint_of_ofDatum [Limits] (hd : d.HasDistinctKeys) {rule : Rule σ}
    (hrule : rule ∈ (Registry.standard : Registry σ)) {v : Datum} (htellable : IsTellable d v)
    {fault : SettingFault} (h : ofDatum d rule v = .error fault) : Complaint d rule v fault := by
  rcases empty_or_spells d v with hempty | ⟨head, data, hspells⟩
  · rw [ofDatum_of_empty rule hempty] at h
    obtain rfl := Except.error.inj h
    exact .emptyList hempty
  · rw [IsTellable, hspells.parts_eq, CanShow, List.forall_mem_cons] at htellable
    rw [ofDatum_of_spells rule hspells] at h
    rcases bind_eq_error.mp h with hseverity | ⟨severity, hseverity, h⟩
    · obtain ⟨hnameless, text, hshown, rfl⟩ := severity?_eq_error htellable.1 hseverity
      exact .unknownSeverity hspells hnameless hshown
    · rcases bind_eq_error.mp h with hoptions | ⟨options, -, h⟩
      · obtain ⟨misfit, hmisfits, rfl⟩ := options?_eq_error hd hrule htellable.2 hoptions
        exact .invalidOptions hspells (severity?_eq_ok_iff.mp hseverity) hmisfits
      · exact absurd h (by simp [pure, Except.pure])

/-- **The settings in a text** are the values of the grammar, and any other value is refused with
its first complaint. -/
theorem ofDatum_of_documents [Limits] {text : Yaml.Series Char} {documents : List Document}
    (hload : Yaml.documents text = .ok documents) {d : Document} (hd : d ∈ documents)
    {rule : Rule σ} (hrule : rule ∈ (Registry.standard : Registry σ)) (v : Datum) :
    (∀ setting, ofDatum d rule v = .ok setting ↔
      ∃ head data, Spells d v head data ∧ head.Names setting.severity ∧
        Fits d rule data setting.options) ∧
      (IsTellable d v → ∀ fault, ofDatum d rule v = .error fault → Complaint d rule v fault) := by
  have hkeys := Yaml.hasDistinctKeys_of_documents hload d hd
  exact ⟨fun setting => ofDatum_eq_ok_iff hkeys hrule,
    fun htellable fault h => complaint_of_ofDatum hkeys hrule htellable h⟩

/-- A severity with an option. -/
def sampleText : Yaml.Series Char := ⟨"[WARN, \x7bsuffix: test\x7d]".toList, none⟩

/-- One rule takes the option, and another takes none. -/
theorem ofDatum_sampleText :
    ∃ documents d, Yaml.documents sampleText = .ok documents ∧ d ∈ documents ∧
      IsTellable d d.root ∧
      (∃ head data options, Spells d d.root head data ∧ head.Names .warning ∧
        Fits d (TestFilename.rule : Rule Unit) data options) ∧
      ∃ fault, ofDatum d (TwoWayBinding.rule : Rule Unit) d.root = .error fault ∧
        Complaint d (TwoWayBinding.rule : Rule Unit) d.root fault := by
  obtain ⟨documents, hload⟩ :=
    not_fails_iff.mp (show ¬Fails (Yaml.documents sampleText) by decide +kernel)
  have hsample : ∃ d ∈ (Yaml.documents sampleText).toOption.getD [], IsTellable d d.root ∧
      (ofDatum d (TestFilename.rule : Rule Unit) d.root).toOption.map (·.severity) =
        some .warning ∧
      Fails (ofDatum d (TwoWayBinding.rule : Rule Unit) d.root) := by
    decide +kernel
  rw [hload] at hsample
  obtain ⟨d, hd, htellable, hwarning, fault, hfault⟩ := hsample
  refine ⟨documents, d, hload, hd, htellable, ?_, fault, hfault, ?_⟩
  · cases hsetting : ofDatum d (TestFilename.rule : Rule Unit) d.root with
    | error fault => exact absurd hwarning (by simp [hsetting, Except.toOption])
    | ok setting =>
      rw [hsetting] at hwarning
      obtain ⟨head, data, hspells, hnames, hfits⟩ :=
        ((ofDatum_of_documents hload hd (by simp [Registry.mem_standard_iff]) d.root).1 setting).mp
          hsetting
      have hseverity : setting.severity = .warning := Option.some.inj hwarning
      rw [hseverity] at hnames
      exact ⟨head, data, setting.options, hspells, hnames, hfits⟩
  · exact (ofDatum_of_documents hload hd (by simp [Registry.mem_standard_iff]) d.root).2 htellable
      fault hfault

end AngularLint.Setting
