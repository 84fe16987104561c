import AngularLint.Config.Setting
import AngularLint.Proofs.Except

/-!
# What an accepted setting is like

Settings come from documents, and only what has passed `Setting.ofDatum` is one. `IsAccepted` says
that a setting has; what a rule may count on follows from it.
-/

set_option autoImplicit false

namespace AngularLint

variable {σ : Type}

namespace Setting

/-- Has the setting been read from a value of some document for the rule? -/
def IsAccepted [Limits] (rule : Rule σ) (setting : Setting) : Prop :=
  ∃ (d : Document) (v : Datum), ofDatum d rule v = .ok setting

/-- Options that are read from a document hold texts and nothing else. -/
def IsTextual (option : Json) : Prop :=
  ∃ entries, option = .obj entries ∧ ∀ e ∈ entries, ∃ s, e.2 = .str s

theorem isTextual_optionJson (d : Document) (option : Datum) : IsTextual (optionJson d option) := by
  refine ⟨_, rfl, fun e he => ?_⟩
  obtain ⟨⟨key, value⟩, -, hentry⟩ := List.mem_filterMap.mp he
  split at hentry
  · rename_i s _ _
    exact ⟨s, congrArg Prod.snd (Option.some.inj hentry).symm⟩
  · exact absurd hentry (by simp)

theorem options?_eq_ok [Limits] {d : Document} {rule : Rule σ} {data : List Datum}
    {options : List Json} (h : options? d rule data = .ok options) :
    options = data.map (optionJson d) := by
  obtain ⟨fault, -, h⟩ := bind_eq_ok.mp h
  cases fault with
  | none => exact (Except.ok.inj h).symm
  | some fault => exact absurd h throw_ne_ok

theorem IsAccepted.options_eq [Limits] {rule : Rule σ} {setting : Setting}
    (h : setting.IsAccepted rule) :
    ∃ (d : Document) (data : List Datum), setting.options = data.map (optionJson d) := by
  obtain ⟨d, v, h⟩ := h
  rw [ofDatum] at h
  split at h
  · exact absurd h throw_ne_ok
  · obtain ⟨severity, -, h⟩ := bind_eq_ok.mp h
    obtain ⟨options, hoptions, h⟩ := bind_eq_ok.mp h
    obtain rfl := Except.ok.inj h
    exact ⟨d, _, options?_eq_ok hoptions⟩
  · obtain ⟨severity, -, h⟩ := bind_eq_ok.mp h
    obtain ⟨options, hoptions, h⟩ := bind_eq_ok.mp h
    obtain rfl := Except.ok.inj h
    exact ⟨d, _, options?_eq_ok hoptions⟩

theorem IsAccepted.isTextual [Limits] {rule : Rule σ} {setting : Setting}
    (h : setting.IsAccepted rule) : ∀ option ∈ setting.options, IsTextual option := by
  obtain ⟨d, data, hoptions⟩ := h.options_eq
  intro option hoption
  rw [hoptions] at hoption
  obtain ⟨v, -, rfl⟩ := List.mem_map.mp hoption
  exact isTextual_optionJson d v

end Setting

namespace Settings

/-- Has every setting of a rule of the registry been accepted for the rule? -/
def AreAccepted [Limits] (registry : Registry σ) (settings : Settings) : Prop :=
  ∀ rule ∈ registry, ∀ setting, settings.lookup rule.id = some setting → setting.IsAccepted rule

/-- The options by which a rule runs, also where it has no setting. -/
theorem AreAccepted.isTextual [Limits] {registry : Registry σ} {settings : Settings}
    (h : settings.AreAccepted registry) {rule : Rule σ} (hrule : rule ∈ registry) :
    ∀ option ∈ (settings.settingFor rule).options, Setting.IsTextual option := by
  rw [settingFor]
  cases hlookup : settings.lookup rule.id with
  | none => exact fun option hoption => absurd hoption (by simp)
  | some setting => exact (h rule hrule setting hlookup).isTextual

end Settings

end AngularLint
