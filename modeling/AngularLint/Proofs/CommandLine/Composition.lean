import AngularLint.Proofs.CommandLine.Analyze

/-!
# What the program emits is put together file by file

One linter goes through all files of a command line, and it carries its log along. What is emitted
does not show that: it is the records of the violations of each file, as a fresh linter finds them,
in the order of the files. `Emission` says so without the linter, and without the text and the place
that the records are written to.

So a command line over the files of two others emits what these emit, one behind the other, and its
exit number is the larger of theirs (`emission_append_iff`), also where a file belongs to both.
-/

set_option autoImplicit false

namespace AngularLint.CommandLine

/-- What is emitted for files under given settings: the records, and the exit number. -/
structure Emission [Limits] (read : FileReader) (settings : Settings) (files : List Text)
    (records : List Json) (exit : Nat) : Prop where
  go : ∀ path ∈ files, ¬Fails (Dump.load read path).result
  records : (files.flatMap (violationsAt settings read)).mapM Violation.record? = .ok records
  exit : exit =
    if ∃ v ∈ files.flatMap (violationsAt settings read), v.severity = .error then 1 else 0

/-- The text of records. -/
def textOf (records : List Json) : String := Json.write (.arr records) ++ "\n"

theorem exitNumber_eq (violations : List Violation) :
    exitNumber violations = if ∃ v ∈ violations, v.severity = .error then 1 else 0 := by
  rw [exitNumber]
  simp only [List.any_eq_true, beq_iff_eq]

theorem exit_append (a b : List Violation) :
    (if ∃ v ∈ a ++ b, v.severity = .error then 1 else 0) =
      max (if ∃ v ∈ a, v.severity = .error then 1 else 0)
        (if ∃ v ∈ b, v.severity = .error then 1 else 0) := by
  have h : (∃ v ∈ a ++ b, v.severity = .error) ↔
      (∃ v ∈ a, v.severity = .error) ∨ ∃ v ∈ b, v.severity = .error := by
    simp only [List.mem_append, or_and_right, exists_or]
  by_cases ha : ∃ v ∈ a, v.severity = .error
  · rw [if_pos (h.mpr (.inl ha)), if_pos ha]
    split <;> rfl
  · rw [if_neg ha]
    by_cases hb : ∃ v ∈ b, v.severity = .error
    · rw [if_pos (h.mpr (.inr hb)), if_pos hb]
      rfl
    · rw [if_neg fun hab => (h.mp hab).elim ha hb, if_neg hb]
      rfl

theorem report_eq_ok_iff {violations : List Violation} {text : String} :
    report violations = .ok text ↔
      ∃ records, violations.mapM Violation.record? = .ok records ∧ text = textOf records := by
  rw [report]
  cases violations.mapM Violation.record? with
  | error type => simp
  | ok records =>
    simp only [Except.ok.injEq, exists_eq_left']
    exact eq_comm

theorem lintFiles_eq_ok_iff [Limits] {read : FileReader} {settings : Settings} {files : List Text}
    {violations : List Violation} :
    (lintFiles read (.start tools settings ()) files).result = .ok violations ↔
      (∀ path ∈ files, ¬Fails (Dump.load read path).result) ∧
        violations = files.flatMap (violationsAt settings read) := by
  simp only [(Dump.load_loading read _).fails_iff]
  by_cases hgo : ∀ path ∈ files, ¬Dump.Aborts read path
  · rw [lintFiles_result rfl hgo, Except.ok.injEq, eq_comm, and_iff_right hgo]
    rfl
  · -- Some file ends the run, and there are no violations of the others then.
    refine iff_of_false (fun hok => ?_) fun h => hgo h.1
    push Not at hgo
    have htools : (Linter.start tools settings ()).registry = tools := rfl
    have hfails := (fails_lintFiles_iff htools).mpr hgo
    rw [hok] at hfails
    exact not_fails_ok hfails

theorem analyze_eq_ok_iff [Limits] {read : FileReader} {config files : List Text}
    {output : Option Text} {outcome : Outcome} :
    (analyze read config output files).result = .ok outcome ↔
      ∃ settings records exit, (Settings.load tools read config).result = .ok settings ∧
        Emission read settings files records exit ∧
        outcome = ⟨destination output (textOf records), exit⟩ := by
  rw [analyze, Run.bind_result_eq_ok]
  constructor
  · -- A run that comes to its end has come through each stage.
    rintro ⟨settings, hsettings, h⟩
    obtain ⟨violations, hviolations, h⟩ := Run.bind_result_eq_ok.mp h
    obtain ⟨hgo, rfl⟩ := lintFiles_eq_ok_iff.mp hviolations
    obtain ⟨text, htext, h⟩ := Run.bind_result_eq_ok.mp h
    cases hreport : report (files.flatMap (violationsAt settings read)) with
    | error abort =>
      rw [hreport] at htext
      exact absurd htext (by simp [Run.ofExcept, Run.abort])
    | ok written =>
      rw [hreport] at htext
      obtain rfl : written = text := Except.ok.inj htext
      obtain ⟨records, hrecords, rfl⟩ := report_eq_ok_iff.mp hreport
      refine ⟨settings, records, _, hsettings, ⟨hgo, hrecords, rfl⟩, ?_⟩
      rw [← exitNumber_eq]
      exact (Except.ok.inj h).symm
  · rintro ⟨settings, records, exit, hsettings, hemission, rfl⟩
    have hreport := report_eq_ok_iff.mpr ⟨records, hemission.records, rfl⟩
    refine ⟨settings, hsettings, Run.bind_result_eq_ok.mpr
      ⟨_, lintFiles_eq_ok_iff.mpr ⟨hemission.go, rfl⟩, ?_⟩⟩
    rw [hreport, Run.ofExcept_ok_bind, hemission.exit, ← exitNumber_eq]
    rfl

/-- **Emissions are put together.** -/
theorem emission_append_iff [Limits] {read : FileReader} {settings : Settings}
    {files more : List Text} {records : List Json} {exit : Nat} :
    Emission read settings (files ++ more) records exit ↔
      ∃ first firstExit second secondExit, Emission read settings files first firstExit ∧
        Emission read settings more second secondExit ∧
        records = first ++ second ∧ exit = max firstExit secondExit := by
  constructor
  · -- A record is made of one violation, so the records part where the files do.
    rintro ⟨hgo, hrecords, hexit⟩
    rw [List.flatMap_append] at hrecords hexit
    rw [List.mapM_append] at hrecords
    obtain ⟨first, hfirst, hrecords⟩ := bind_eq_ok.mp hrecords
    obtain ⟨second, hsecond, hrecords⟩ := bind_eq_ok.mp hrecords
    refine ⟨first, _, second, _, ⟨fun path hpath => hgo path (List.mem_append_left _ hpath),
      hfirst, rfl⟩, ⟨fun path hpath => hgo path (List.mem_append_right _ hpath), hsecond, rfl⟩,
      (Except.ok.inj hrecords).symm, ?_⟩
    rw [hexit, exit_append]
  · rintro ⟨first, firstExit, second, secondExit, hfirst, hsecond, rfl, rfl⟩
    constructor
    · intro path hpath
      rcases List.mem_append.mp hpath with h | h
      · exact hfirst.go path h
      · exact hsecond.go path h
    · rw [List.flatMap_append, List.mapM_append, hfirst.records, hsecond.records]
      rfl
    · rw [List.flatMap_append, exit_append, hfirst.exit, hsecond.exit]

/-! ## The command line as a whole -/

/-- The text of an output, wherever it goes. -/
def Output.text : Output → String
  | .print text => text
  | .write _ text => text

/-- What is seen of the end of a run, wherever its text goes. -/
def Outcome.seen (o : Outcome) : String × Nat := (o.output.text, o.exit)

theorem text_destination (output : Option Text) (text : String) :
    (destination output text).text = text := by
  rw [destination]
  cases output.filter fun path => !path.isEmpty with
  | none => rfl
  | some path => rfl

theorem analyze_seen [Limits] (read : FileReader) (config files : List Text)
    (output output' : Option Text) : (analyze read config output files).result.map Outcome.seen =
      (analyze read config output' files).result.map Outcome.seen := by
  -- Stage by stage on both sides. Where the text goes comes in at the last one.
  rw [analyze, analyze]
  cases hsettings : (Settings.load tools read config).result with
  | error abort =>
    rw [Run.bind_of_error hsettings, Run.bind_of_error hsettings]
  | ok settings =>
    rw [Run.bind_of_ok hsettings, Run.bind_of_ok hsettings]
    dsimp only
    cases hlint : (lintFiles read (.start tools settings ()) files).result with
    | error abort =>
      rw [Run.bind_of_error hlint, Run.bind_of_error hlint]
    | ok violations =>
      rw [Run.bind_of_ok hlint, Run.bind_of_ok hlint]
      cases report violations with
      | error abort => rfl
      | ok text =>
        rw [Run.ofExcept_ok_bind, Run.ofExcept_ok_bind]
        show Except.ok (Outcome.seen _) = Except.ok (Outcome.seen _)
        simp only [Outcome.seen, text_destination]

theorem respond_result_of_accepted [Limits] {read : FileReader} {words config files : List Text}
    {output : Option Text} (h : Invocation.ofWords words = .ok (.analyze config output files)) :
    (respond read words).result = (analyze read config output files).result := by
  rw [respond, h]
  rfl

/-- **What a command line emits.** -/
theorem respond_analyze [Limits] {read : FileReader} {words config files : List Text}
    {output : Option Text}
    (haccepted : Invocation.ofWords words = .ok (.analyze config output files)) :
    (∀ outcome, (respond read words).result = .ok outcome ↔
      ∃ settings records exit, (Settings.load tools read config).result = .ok settings ∧
        Emission read settings files records exit ∧
        outcome = ⟨destination output (textOf records), exit⟩) ∧
      (∀ words' output', Invocation.ofWords words' = .ok (.analyze config output' files) →
        (respond read words').result.map Outcome.seen =
          (respond read words).result.map Outcome.seen) ∧
      ∀ wordsMore outputMore more wordsBoth outputBoth,
        Invocation.ofWords wordsMore = .ok (.analyze config outputMore more) →
        Invocation.ofWords wordsBoth = .ok (.analyze config outputBoth (files ++ more)) →
        ∀ outcome, (respond read wordsBoth).result = .ok outcome ↔
          ∃ settings first firstExit second secondExit,
            (Settings.load tools read config).result = .ok settings ∧
            Emission read settings files first firstExit ∧
            Emission read settings more second secondExit ∧
            (respond read words).result =
              .ok ⟨destination output (textOf first), firstExit⟩ ∧
            (respond read wordsMore).result =
              .ok ⟨destination outputMore (textOf second), secondExit⟩ ∧
            outcome = ⟨destination outputBoth (textOf (first ++ second)),
              max firstExit secondExit⟩ := by
  refine ⟨fun outcome => ?_, fun words' output' haccepted' => ?_, ?_⟩
  · rw [respond_result_of_accepted haccepted]
    exact analyze_eq_ok_iff
  · rw [respond_result_of_accepted haccepted, respond_result_of_accepted haccepted']
    exact analyze_seen read config files output' output
  · intro wordsMore outputMore more wordsBoth outputBoth hmore hboth outcome
    rw [respond_result_of_accepted haccepted, respond_result_of_accepted hmore,
      respond_result_of_accepted hboth, analyze_eq_ok_iff]
    constructor
    · rintro ⟨settings, records, exit, hsettings, hemission, rfl⟩
      obtain ⟨first, firstExit, second, secondExit, hfirst, hsecond, rfl, rfl⟩ :=
        emission_append_iff.mp hemission
      refine ⟨settings, first, firstExit, second, secondExit, hsettings, hfirst, hsecond,
        ?_, ?_, rfl⟩
      · exact analyze_eq_ok_iff.mpr ⟨settings, first, firstExit, hsettings, hfirst, rfl⟩
      · exact analyze_eq_ok_iff.mpr ⟨settings, second, secondExit, hsettings, hsecond, rfl⟩
    · rintro ⟨settings, first, firstExit, second, secondExit, hsettings, hfirst, hsecond, -, -,
        rfl⟩
      exact ⟨settings, _, _, hsettings, emission_append_iff.mpr
        ⟨first, firstExit, second, secondExit, hfirst, hsecond, rfl, rfl⟩, rfl⟩

/-- A test in a file that is not named for one, and no other file. -/
def readTest : FileReader := fun path =>
  if path = "a.js.json" then
    .ok ("\x7b\"type\":\"Program\",\"body\":[\x7b\"type\":\"CallExpression\"," ++
      "\"callee\":\x7b\"type\":\"Identifier\",\"name\":\"it\"\x7d\x7d]\x7d").toUTF8.toList
  else .error .missing

/-- The file is linted twice, and a missing file in between takes nothing from it. -/
theorem respond_readTest :
    ∃ records, records.length = 1 ∧
      (respond readTest
        ["analyze", "a.js.json", "gone.json", "a.js.json", "--out", "o.json"]).result =
          .ok ⟨.write "o.json" (textOf (records ++ records)), 1⟩ := by
  obtain ⟨records, hrecords⟩ := not_fails_iff.mp
    (show ¬Fails ((violationsAt [] readTest "a.js.json").mapM Violation.record?) by decide +kernel)
  have hcount : ((violationsAt [] readTest "a.js.json").mapM Violation.record?).toOption.map
      List.length = some 1 := by decide +kernel
  rw [hrecords] at hcount
  have hone : Emission readTest [] ["a.js.json"] records 1 :=
    ⟨by decide +kernel, by simpa using hrecords, by decide +kernel⟩
  have hmissing : Emission readTest [] ["gone.json"] [] 0 := ⟨by decide +kernel, rfl, rfl⟩
  have htwo : Emission readTest [] ["a.js.json", "gone.json"] records 1 :=
    emission_append_iff.mpr ⟨records, 1, [], 0, hone, hmissing, (List.append_nil _).symm, rfl⟩
  obtain ⟨hemits, -, happend⟩ := @respond_analyze _ readTest
    ["analyze", "a.js.json", "gone.json"] [] ["a.js.json", "gone.json"] none rfl
  refine ⟨records, Option.some.inj hcount, ?_⟩
  apply (happend ["analyze", "a.js.json"] none ["a.js.json"]
    ["analyze", "a.js.json", "gone.json", "a.js.json", "--out", "o.json"] (some "o.json")
    rfl rfl _).mpr
  refine ⟨[], records, 1, records, 1, rfl, htwo, hone, ?_, ?_, rfl⟩
  · exact (hemits _).mpr ⟨[], records, 1, rfl, htwo, rfl⟩
  · exact analyze_eq_ok_iff.mpr ⟨[], records, 1, rfl, hone, rfl⟩

end AngularLint.CommandLine
