import AngularLint.Proofs.CommandLine.Composition
import AngularLint.Proofs.CommandLine.Layout

/-!
# Settings before the files, and behind them

The usage that the program tells has the settings before the files. But the switch for settings
takes all words up to the next switch, and so it takes the files along: with nothing in between,
such a command line is refused for want of files, whatever the words are. **`respond_config_first`**
says so, and what helps: the files may stand before the settings, or two hyphens or an output may
stand between the two. Then the files are linted under the settings.
-/

set_option autoImplicit false

namespace AngularLint.CommandLine

/-- The answer to a command line that has files linted. -/
def linted [Limits] (read : FileReader) (config : List Text) (output : Option Text)
    (files : List Text) : Response :=
  ⟨(analyze read config output files).diagnostics, "", (analyze read config output files).result⟩

/-- No run ends with the number that a command line is refused with. -/
theorem exit_le_one [Limits] {read : FileReader} {config files : List Text} {output : Option Text}
    {outcome : Outcome} (h : (analyze read config output files).result = .ok outcome) :
    outcome.exit ≤ 1 := by
  obtain ⟨settings, records, exit, -, hemission, rfl⟩ := analyze_eq_ok_iff.mp h
  show exit ≤ 1
  rw [hemission.exit]
  split
  · exact Nat.le_refl 1
  · exact Nat.zero_le 1

/-- A layout that is accepted has its files linted under its settings. -/
theorem respond_of_runs [Limits] {read : FileReader} {l : Layout} {words run files : List Text}
    {before after : List (List Text)} (hwords : l.texts = words) (hplain : l.HasPlainWords)
    (hruns : l.runs = before ++ run :: after) (hothers : ∀ other ∈ before ++ after, other = [])
    (hrun : filesIn? run = some files) :
    respond read ("analyze" :: words) = linted read l.config l.output files := by
  have haccepted : l.invocation = .ok (.analyze l.config l.output files) :=
    Layout.invocation_eq_ok_iff.mpr ⟨before, run, after, files, hruns, hothers, hrun, rfl⟩
  rw [← hwords, respond, Layout.ofWords_texts hplain, haccepted]
  rfl

section
variable [Limits] {read : FileReader} {config files : List Text}

/-- Files directly behind the settings belong to the switch, so that no run holds any. -/
theorem respond_config_files (hconfig : config ≠ [])
    (hplain : ∀ text ∈ config ++ files, IsPlain text) :
    respond read ("analyze" :: "--config" :: (config ++ files)) =
      decline (.fault .analyze (.required Operand.files.name)) := by
  obtain ⟨first, more, rfl⟩ := List.exists_cons_of_ne_nil hconfig
  have hwords : Layout.texts ⟨[], [.config first (more ++ files)], none⟩ =
      ("--config" : Text) :: (first :: more ++ files) := by
    simp [Layout.texts, Layout.onwardTexts, Layout.closingTexts, Stretch.name, Stretch.following]
  have hall : Layout.HasPlainWords ⟨[], [.config first (more ++ files)], none⟩ :=
    ⟨by simp, by simpa [Stretch.following] using hplain⟩
  rw [← hwords, respond, Layout.ofWords_texts hall]
  rfl

theorem respond_files_config (hconfig : config ≠ []) (hfiles : files ≠ [])
    (hconfigPlain : ∀ text ∈ config, IsPlain text) (hfilesPlain : ∀ text ∈ files, IsPlain text) :
    respond read ("analyze" :: (files ++ ("--config" : Text) :: config)) =
      linted read config none files := by
  obtain ⟨first, more, rfl⟩ := List.exists_cons_of_ne_nil hconfig
  have hwords : Layout.texts ⟨files, [.config first more], none⟩ =
      files ++ ("--config" : Text) :: first :: more := by
    simp [Layout.texts, Layout.onwardTexts, Layout.closingTexts, Stretch.name, Stretch.following]
  have hall : Layout.HasPlainWords ⟨files, [.config first more], none⟩ :=
    ⟨hfilesPlain, by simpa [Stretch.following] using hconfigPlain⟩
  have hruns : Layout.runs ⟨files, [.config first more], none⟩ = [] ++ files :: [[]] := rfl
  exact respond_of_runs hwords hall hruns (by simp) (filesIn?_of_isPlain hfiles hfilesPlain)

/-- Behind two hyphens, any words are files. -/
theorem respond_config_terminator (hconfig : config ≠ []) (hfiles : files ≠ [])
    (hconfigPlain : ∀ text ∈ config, IsPlain text) :
    respond read ("analyze" :: "--config" :: (config ++ ("--" : Text) :: files)) =
      linted read config none files := by
  obtain ⟨first, more, rfl⟩ := List.exists_cons_of_ne_nil hconfig
  have hwords : Layout.texts ⟨[], [.config first more], some files⟩ =
      ("--config" : Text) :: (first :: more ++ ("--" : Text) :: files) := by
    simp [Layout.texts, Layout.onwardTexts, Layout.closingTexts, Stretch.name, Stretch.following,
      Word.terminatorText]
  have hall : Layout.HasPlainWords ⟨[], [.config first more], some files⟩ :=
    ⟨by simp, by simpa [Stretch.following] using hconfigPlain⟩
  have hruns : Layout.runs ⟨[], [.config first more], some files⟩ =
      [[]] ++ (Word.terminatorText :: files) :: [] := rfl
  exact respond_of_runs hwords hall hruns (by simp) (filesIn?_terminator hfiles)

/-- An output takes one word only, so that files may follow it. -/
theorem respond_config_output {path : Text} (hconfig : config ≠ []) (hfiles : files ≠ [])
    (hconfigPlain : ∀ text ∈ config, IsPlain text) (hpath : IsPlain path)
    (hfilesPlain : ∀ text ∈ files, IsPlain text) :
    respond read ("analyze" :: "--config" :: (config ++ ("--out" : Text) :: path :: files)) =
      linted read config (some path) files := by
  obtain ⟨first, more, rfl⟩ := List.exists_cons_of_ne_nil hconfig
  have hwords : Layout.texts ⟨[], [.config first more, .output path files], none⟩ =
      ("--config" : Text) :: (first :: more ++ ("--out" : Text) :: path :: files) := by
    simp [Layout.texts, Layout.onwardTexts, Layout.closingTexts, Stretch.name, Stretch.following]
  have hall : Layout.HasPlainWords ⟨[], [.config first more, .output path files], none⟩ := by
    refine ⟨by simp, ?_⟩
    simp only [List.mem_cons, List.not_mem_nil, or_false, forall_eq_or_imp, forall_eq]
    exact ⟨hconfigPlain, by simpa [Stretch.following] using ⟨hpath, hfilesPlain⟩⟩
  have hruns : Layout.runs ⟨[], [.config first more, .output path files], none⟩ =
      [[], []] ++ files :: [] := by
    simp [Layout.runs, Layout.runsFrom, Stretch.behind, Layout.closingTexts]
  exact respond_of_runs hwords hall hruns (by simp) (filesIn?_of_isPlain hfiles hfilesPlain)

end

/-- **Settings before the files.** -/
theorem respond_config_first [Limits] {read : FileReader} {config files : List Text}
    (hconfig : config ≠ []) (hfiles : files ≠ [])
    (hplain : ∀ text ∈ config ++ files, IsPlain text) :
    respond read ("analyze" :: "--config" :: (config ++ files)) =
        decline (.fault .analyze (.required Operand.files.name)) ∧
      respond read ("analyze" :: (files ++ ("--config" : Text) :: config)) =
        linted read config none files ∧
      respond read ("analyze" :: "--config" :: (config ++ files)) ≠
        respond read ("analyze" :: (files ++ ("--config" : Text) :: config)) ∧
      respond read ("analyze" :: "--config" :: (config ++ ("--" : Text) :: files)) =
        linted read config none files ∧
      ∀ path, IsPlain path →
        respond read ("analyze" :: "--config" :: (config ++ ("--out" : Text) :: path :: files)) =
          linted read config (some path) files := by
  have hconfigPlain : ∀ text ∈ config, IsPlain text := fun text htext =>
    hplain text (List.mem_append_left _ htext)
  have hfilesPlain : ∀ text ∈ files, IsPlain text := fun text htext =>
    hplain text (List.mem_append_right _ htext)
  have hbefore := @respond_config_files _ read config files hconfig hplain
  have hbehind := @respond_files_config _ read config files hconfig hfiles hconfigPlain hfilesPlain
  refine ⟨hbefore, hbehind, ?_, respond_config_terminator hconfig hfiles hconfigPlain,
    fun path hpath => respond_config_output hconfig hfiles hconfigPlain hpath hfilesPlain⟩
  rw [hbefore, hbehind]
  intro h
  have hresult : (analyze read config none files).result = .ok ⟨.print "", 2⟩ :=
    (congrArg Response.result h).symm
  exact absurd (exit_le_one hresult) (by decide)

/-- A test in a file that is not named for one, and settings that make no more than a warning of
it. -/
def readGraded : FileReader := fun path =>
  if path = "ngconv.yaml" then .ok "rules:\n  consistent-test-filename: warn\n".toUTF8.toList
  else if path = "foo.js.json" then
    .ok ("\x7b\"type\":\"Program\",\"body\":[\x7b\"type\":\"CallExpression\"," ++
      "\"callee\":\x7b\"type\":\"Identifier\",\"name\":\"it\"\x7d\x7d]\x7d").toUTF8.toList
  else .error .missing

/-- The warning does not count as a failure, once the settings are taken for settings. -/
theorem respond_config_first_readGraded :
    (∀ text ∈ (["ngconv.yaml"] ++ ["foo.js.json"] : List Text), IsPlain text) ∧
      respond readGraded ["analyze", "--config", "ngconv.yaml", "foo.js.json"] =
        decline (.fault .analyze (.required Operand.files.name)) ∧
      respond readGraded ["analyze", "foo.js.json", "--config", "ngconv.yaml"] =
        linted readGraded ["ngconv.yaml"] none ["foo.js.json"] ∧
      (linted readGraded ["ngconv.yaml"] none ["foo.js.json"]).result.toOption.map Outcome.exit =
        some 0 ∧
      respond readGraded ["analyze", "--config", "ngconv.yaml", "--", "foo.js.json"] =
        linted readGraded ["ngconv.yaml"] none ["foo.js.json"] ∧
      respond readGraded ["analyze", "--config", "ngconv.yaml", "--out", "o.json", "foo.js.json"] =
        linted readGraded ["ngconv.yaml"] (some "o.json") ["foo.js.json"] := by
  have hplain : ∀ text ∈ (["ngconv.yaml"] ++ ["foo.js.json"] : List Text), IsPlain text := by
    decide
  obtain ⟨hbefore, hbehind, -, hends, hbetween⟩ :=
    @respond_config_first _ readGraded ["ngconv.yaml"] ["foo.js.json"] (by decide) (by decide)
      hplain
  exact ⟨hplain, hbefore, hbehind, by decide +kernel, hends, hbetween "o.json" (by decide)⟩

/-- With the settings before it, the file is not linted; behind it, they let it pass. -/
theorem fails_ofWords_config_first :
    Fails (Invocation.ofWords ["analyze", "--config", "ngconv.yaml", "foo.js.json"]) ∧
      (respond readGraded ["analyze", "--config", "ngconv.yaml", "foo.js.json"]).result.toOption.map
        Outcome.exit = some 2 ∧
      (respond readGraded ["analyze", "foo.js.json", "--config", "ngconv.yaml"]).result.toOption.map
        Outcome.exit = some 0 := by
  decide +kernel

end AngularLint.CommandLine
