import AngularLint.Proofs.Angular.Name
import AngularLint.Proofs.CommandLine.Composition
import AngularLint.Proofs.Linter.Requests

/-!
# Which violations cannot be written

A run that has linted all its files may still end without a result, at the very last step: one
violation that cannot be written takes the records of all the others with it. There are two ways for
that to happen, and `Visit.Unwritable` names them.

* Two of the rules give the name of a registration with what they report, and that is what the first
  argument of the call has for a value. Where it is a node, or a list with a node in it, it is no
  JSON (`Proofs/Angular/Name.lean`).
* Places count columns from one where dumps count them from zero. The largest integer that can be
  read is not too large to be written, but the one behind it is.

**`fails_analyze_iff`** says that nothing else can happen once settings and dumps have been read: a
record fails for its place or for its data (`fails_record?_iff`), and what is reported is what the
rules ask for (`mem_verify_iff`).
-/

set_option autoImplicit false

namespace AngularLint

open Hydrate Dump

/-! ## Records -/

namespace Location

/-- Has a coordinate of the place no numeral? -/
def IsTooLarge (l : Location) : Prop :=
  ∃ c ∈ [l.startLine, l.startColumn, l.endLine, l.endColumn],
    Nat.pow 10 Text.maxDecimalDigits ≤ c.natAbs

theorem isWritable_json_iff {l : Location} : l.json.isWritable = true ↔ ¬l.IsTooLarge := by
  have hfile : (Json.str l.file).isWritable = true := rfl
  rw [json, Json.isWritable_obj, IsTooLarge]
  simp only [List.forall_mem_cons, List.not_mem_nil, false_implies, implies_true, and_true, hfile,
    true_and, Json.isWritable_int, not_exists, not_and, Nat.not_le]

theorem not_isTooLarge_unknown (file : Text) : ¬(unknown file).IsTooLarge := by
  have hpos (digits : Nat) : 0 < Nat.pow 10 digits := Nat.pow_pos (by decide)
  rintro ⟨c, hc, hlarge⟩
  obtain rfl : c = 0 := by simpa [unknown] using hc
  exact absurd (hpos Text.maxDecimalDigits) (Nat.not_lt.mpr hlarge)

/-- Only the range of a node makes a place too large. -/
theorem isTooLarge_ofValue_iff {file : Text} {v : Value} :
    (ofValue file v).IsTooLarge ↔
      ∃ n range, v = .node n ∧ n.range = some range ∧ (ofRange file range).IsTooLarge := by
  cases v with
  | node n =>
    simp only [Value.node.injEq, exists_and_left, exists_eq_left']
    rw [ofValue]
    cases n.range with
    | none => exact iff_of_false (not_isTooLarge_unknown file) (by simp)
    | some range => simp
  | _ => exact iff_of_false (not_isTooLarge_unknown file) (by simp)

end Location

theorem Violation.fails_record?_iff {v : Violation} :
    Fails v.record? ↔ v.location.IsTooLarge ∨ ∃ e ∈ v.data, Fails e.2.json? := by
  have hdata : Fails v.dataJson? ↔ ∃ e ∈ v.data, Fails e.2.json? := by
    rw [dataJson?, fails_map_iff, fails_mapM_iff]
    simp only [fails_map_iff]
  rw [record?, ← hdata]
  by_cases hlarge : v.location.IsTooLarge
  · refine iff_of_true ?_ (.inl hlarge)
    rw [if_pos]
    · exact ⟨_, rfl⟩
    · simpa using mt Location.isWritable_json_iff.mp (not_not_intro hlarge)
  · rw [or_iff_right hlarge, Location.isWritable_json_iff.mpr hlarge]
    exact fails_bind_pure

theorem Context.report_eq_ok {σ : Type} {c : Context σ} {r : Request} {v : Violation}
    (h : c.report r = .ok v) : v.location = .ofValue c.filename r.anchor ∧ v.data = r.data := by
  rw [report] at h
  split at h
  · exact absurd h (by simp)
  · rw [← Except.ok.inj h]
    exact ⟨rfl, rfl⟩

/-! ## Requests -/

/-- What two of the rules give with their requests is the name of the registration; the third gives
a text. -/
theorem Registry.fails_data_iff {convention : Convention} (hconvention : convention ∈ conventions)
    {s : Surroundings} {visit : Visit} {habit : Visit → Outcome}
    (hhabit : (convention.habits s).lookup visit.node.type = some habit) {r : Request}
    (hr : r ∈ (habit visit).requests) {file : Option Text} {o : Object}
    (ho : (Json.obj o).isWritable = true) (hn : result file o = some visit.node) :
    (∃ e ∈ r.data, Fails e.2.json?) ↔
      convention.id ≠ "consistent-test-filename" ∧
        ∃ a, visit.node.argument? 0 = some a ∧ a.hasNodeValue = true := by
  simp only [conventions, List.mem_cons, List.not_mem_nil, or_false] at hconvention
  rcases hconvention with rfl | rfl | rfl
  all_goals obtain ⟨-, rfl⟩ := Prod.mk.inj (List.mem_singleton.mp (mem_of_lookup hhabit))
  · obtain ⟨-, name, hdata⟩ := @TestFilename.request_onCall s visit r hr
    rw [hdata]
    refine iff_of_false ?_ fun h => h.1 rfl
    rintro ⟨e, he, hfails⟩
    obtain rfl := List.mem_singleton.mp he
    exact not_fails_ok hfails
  · have hdata := (TwoWayBinding.request_judge (Outcome.eq_of_mem_ofLookup hr)).2
    have hother : ("no-two-way-binding" : Text) ≠ "consistent-test-filename" := by decide
    rw [hdata, ← Registration.fails_json?_name?_iff_of_isWritable ho hn]
    simp [TwoWayBinding.convention, hother]
  · have hdata := (OnInit.request_judge (Outcome.eq_of_mem_ofLookup hr)).2
    have hother : ("require-comp-ctrl-on-init" : Text) ≠ "consistent-test-filename" := by decide
    rw [hdata, ← Registration.fails_json?_name?_iff_of_isWritable ho hn]
    simp [OnInit.convention, hother]

/-- Does a rule at work ask for a report at the visit? -/
structure Visit.Asked (settings : Settings) (filename : Text) (visit : Visit)
    (convention : Convention) (r : Request) : Prop where
  known : convention ∈ Registry.conventions
  on : (settings.settingFor (convention.rule : Rule Unit)).severity ≠ .off
  asks : ∃ habit, (convention.habits
      ⟨filename, (settings.settingFor (convention.rule : Rule Unit)).options⟩).lookup
    visit.node.type = some habit ∧ r ∈ (habit visit).requests

/-- Is something reported at the visit that cannot be written? The name of a registration can be a
node, and the range of a node can be too large for the numerals of JSON. -/
inductive Visit.Unwritable (settings : Settings) (filename : Text) (visit : Visit) : Prop
  | name {convention : Convention} {r : Request} {a : Node}
      (asked : visit.Asked settings filename convention r)
      (named : convention.id ≠ "consistent-test-filename") (first : visit.node.argument? 0 = some a)
      (isNode : a.hasNodeValue = true) : Unwritable settings filename visit
  | place {convention : Convention} {r : Request} {n : Node} {range : Range}
      (asked : visit.Asked settings filename convention r) (anchored : r.anchor = .node n)
      (ranged : n.range = some range) (large : (Location.ofRange filename range).IsTooLarge) :
      Unwritable settings filename visit

theorem Visit.Asked.exists_report {settings : Settings} {filename : Text} {visit : Visit}
    {convention : Convention} {r : Request} (h : visit.Asked settings filename convention r) :
    ∃ v, (Listener.contextOf settings filename (convention.rule : Rule Unit)).report r =
      .ok v := by
  obtain ⟨habit, hhabit, hr⟩ := h.asks
  have hknown := Linter.hasMessages_conventions convention h.known _ _ (mem_of_lookup hhabit)
    visit r hr
  refine not_fails_iff.mp ?_
  rintro ⟨fault, hfault⟩
  exact hknown (Context.report_eq_error hfault).1

namespace CommandLine

theorem mem_verify_iff (settings : Settings) (tree : Option Node) (filename : Text) :
    ∃ vs, ((Linter.start tools settings ()).verify tree filename).1 = .ok vs ∧
      ∀ v, v ∈ vs ↔ ∃ visit ∈ tree.toList.flatMap Node.visits, ∃ convention r,
        visit.Asked settings filename convention r ∧
          (Listener.contextOf settings filename (convention.rule : Rule Unit)).report r =
            .ok v := by
  obtain ⟨vs, hvs, hmem⟩ :=
    Linter.mem_verify_of_steady Linter.hasMessages_conventions settings () tree filename
  refine ⟨vs, hvs, fun v => (hmem v).trans ?_⟩
  constructor
  · rintro ⟨visit, hvisit, convention, hconvention, hon, habit, hhabit, r, hr, hv⟩
    exact ⟨visit, hvisit, convention, r, ⟨hconvention, hon, habit, hhabit, hr⟩, hv⟩
  · rintro ⟨visit, hvisit, convention, r, ⟨hconvention, hon, habit, hhabit, hr⟩, hv⟩
    exact ⟨visit, hvisit, convention, hconvention, hon, habit, hhabit, r, hr, hv⟩

/-- In the tree of a dump that has been read, what is reported for a request can be written, unless
its name is a node or its place is too large. -/
theorem fails_record?_iff_of_report {settings : Settings} {filename : Text} {visit : Visit}
    {convention : Convention} {r : Request}
    (hasked : visit.Asked settings filename convention r) {v : Violation}
    (hv : (Listener.contextOf settings filename (convention.rule : Rule Unit)).report r = .ok v)
    {file : Option Text} {o : Object} (ho : (Json.obj o).isWritable = true)
    (hn : result file o = some visit.node) :
    Fails v.record? ↔
      (∃ n range, r.anchor = .node n ∧ n.range = some range ∧
        (Location.ofRange filename range).IsTooLarge) ∨
      convention.id ≠ "consistent-test-filename" ∧
        ∃ a, visit.node.argument? 0 = some a ∧ a.hasNodeValue = true := by
  obtain ⟨hlocation, hdata⟩ := Context.report_eq_ok hv
  obtain ⟨habit, hhabit, hr⟩ := hasked.asks
  rw [Violation.fails_record?_iff, hlocation, hdata, Location.isTooLarge_ofValue_iff,
    Registry.fails_data_iff hasked.known hhabit hr ho hn]
  rfl

/-- Every visit is to a node that has come out of an object of the dump. -/
theorem exists_object_of_mem_visits {file : Option Text} {raw : Json} {root : Node}
    (hraw : raw.isWritable = true) (h : Node.hydrate file raw = .ok (some root)) {visit : Visit}
    (hvisit : visit ∈ Node.visits root) :
    ∃ o : Object, (Json.obj o).isWritable = true ∧ result file o = some visit.node := by
  cases raw with
  | obj o =>
    have hn : result file o = some root := ((Node.hydrate_eq_ok_iff file o _).mp h).2.symm
    rw [Node.visits_eq_preorder] at hvisit
    obtain ⟨p, hp, hresult⟩ := Node.exists_postorder_of_mem_preorder hn visit hvisit
    exact ⟨p, Json.isWritable_of_within (within_of_mem_postorder hp) hraw, hresult⟩
  | _ => exact absurd (Except.ok.inj h) (by simp)

theorem exists_fails_record?_iff {file : Option Text} {raw : Json} {root : Node}
    (hraw : raw.isWritable = true) (h : Node.hydrate file raw = .ok (some root))
    (settings : Settings) (filename : Text) :
    ∃ vs, ((Linter.start tools settings ()).verify (some root) filename).1 = .ok vs ∧
      ((∃ v ∈ vs, Fails v.record?) ↔
        ∃ visit ∈ Node.visits root, visit.Unwritable settings filename) := by
  obtain ⟨vs, hvs, hmem⟩ := mem_verify_iff settings (some root) filename
  refine ⟨vs, hvs, ?_⟩
  simp only [hmem, Option.toList_some, List.flatMap_singleton]
  constructor
  · rintro ⟨v, ⟨visit, hvisit, convention, r, hasked, hv⟩, hfails⟩
    obtain ⟨o, ho, hn⟩ := exists_object_of_mem_visits hraw h hvisit
    refine ⟨visit, hvisit, ?_⟩
    rcases (fails_record?_iff_of_report hasked hv ho hn).mp hfails with
      ⟨n, range, hanchor, hrange, hlarge⟩ | ⟨hnamed, a, hfirst, hnode⟩
    · exact .place hasked hanchor hrange hlarge
    · exact .name hasked hnamed hfirst hnode
  · rintro ⟨visit, hvisit, hunwritable⟩
    obtain ⟨o, ho, hn⟩ := exists_object_of_mem_visits hraw h hvisit
    cases hunwritable with
    | name hasked hnamed hfirst hnode =>
      obtain ⟨v, hv⟩ := hasked.exists_report
      exact ⟨v, ⟨visit, hvisit, _, _, hasked, hv⟩,
        (fails_record?_iff_of_report hasked hv ho hn).mpr (.inr ⟨hnamed, _, hfirst, hnode⟩)⟩
    | place hasked hanchor hrange hlarge =>
      obtain ⟨v, hv⟩ := hasked.exists_report
      exact ⟨v, ⟨visit, hvisit, _, _, hasked, hv⟩,
        (fails_record?_iff_of_report hasked hv ho hn).mpr (.inl ⟨_, _, hanchor, hrange, hlarge⟩)⟩

theorem mem_violationsAt_iff [Limits] {settings : Settings} {read : FileReader} {path : Text}
    {v : Violation} :
    v ∈ violationsAt settings read path ↔
      ∃ dump vs, (Dump.load read path).result = .ok (some dump) ∧
        ((Linter.start tools settings ()).verify (some dump.program) dump.filename).1 = .ok vs ∧
        v ∈ vs := by
  rw [violationsAt]
  split
  · rename_i dump hload
    have htools : (Linter.start tools settings ()).registry = tools := rfl
    obtain ⟨vs, hvs⟩ := exists_verify_eq_ok htools (some dump.program) dump.filename
    simp [hload, hvs, Except.toOption]
  · rename_i hload
    refine iff_of_false (by simp) ?_
    rintro ⟨dump, -, hdump, -⟩
    exact hload dump hdump

/-- Once all files have been linted, only the records can fail. -/
theorem fails_analyze_iff_fails_records [Limits] {read : FileReader} {config files : List Text}
    {output : Option Text} {settings : Settings}
    (hsettings : (Settings.load tools read config).result = .ok settings)
    (hfiles : ∀ path ∈ files, ¬Dump.Aborts read path) :
    Fails (analyze read config output files).result ↔
      Fails ((files.flatMap (violationsAt settings read)).mapM Violation.record?) := by
  rw [← not_iff_not, not_fails_iff, not_fails_iff]
  constructor
  · rintro ⟨outcome, houtcome⟩
    obtain ⟨settings', records, exit, hsettings', hemission, -⟩ := analyze_eq_ok_iff.mp houtcome
    obtain rfl := Except.ok.inj (hsettings.symm.trans hsettings')
    exact ⟨records, hemission.records⟩
  · rintro ⟨records, hrecords⟩
    have hgo (path : Text) (hpath : path ∈ files) : ¬Fails (Dump.load read path).result :=
      mt (Dump.load_loading read path).fails_iff.mp (hfiles path hpath)
    exact ⟨_, analyze_eq_ok_iff.mpr ⟨settings, records, _, hsettings, ⟨hgo, hrecords, rfl⟩, rfl⟩⟩

/-- **What takes the results of a run at the last step**: a visit at which something is reported
that cannot be written, in any of the files. -/
theorem fails_analyze_iff [Limits] {read : FileReader} {config files : List Text}
    {output : Option Text}
    {settings : Settings} (hsettings : (Settings.load tools read config).result = .ok settings)
    (hfiles : ∀ path ∈ files, ¬Dump.Aborts read path) :
    (∀ path dump, (Dump.load read path).result = .ok (some dump) → ∃ vs,
      ((Linter.start tools settings ()).verify (some dump.program) dump.filename).1 = .ok vs ∧
      ((∃ v ∈ vs, Fails v.record?) ↔
        ∃ visit ∈ Node.visits dump.program, visit.Unwritable settings dump.filename)) ∧
      (Fails (analyze read config output files).result ↔
        ∃ path ∈ files, ∃ dump, (Dump.load read path).result = .ok (some dump) ∧
          ∃ visit ∈ Node.visits dump.program, visit.Unwritable settings dump.filename) := by
  have hdumps (path : Text) (dump : Dump) (hload : (Dump.load read path).result = .ok (some dump)) :
      ∃ vs, ((Linter.start tools settings ()).verify (some dump.program) dump.filename).1 =
          .ok vs ∧
        ((∃ v ∈ vs, Fails v.record?) ↔
          ∃ visit ∈ Node.visits dump.program, visit.Unwritable settings dump.filename) := by
    obtain ⟨raw, hraw, hhydrate⟩ := Dump.exists_hydrate_of_load hload
    exact exists_fails_record?_iff hraw hhydrate settings dump.filename
  refine ⟨hdumps, ?_⟩
  rw [fails_analyze_iff_fails_records hsettings hfiles, fails_mapM_iff]
  simp only [List.mem_flatMap, mem_violationsAt_iff]
  constructor
  · rintro ⟨v, ⟨path, hpath, dump, vs, hload, hvs, hv⟩, hfails⟩
    obtain ⟨vs', hvs', hiff⟩ := hdumps path dump hload
    obtain rfl := Except.ok.inj (hvs.symm.trans hvs')
    exact ⟨path, hpath, dump, hload, hiff.mp ⟨v, hv, hfails⟩⟩
  · rintro ⟨path, hpath, dump, hload, hvisit⟩
    obtain ⟨vs, hvs, hiff⟩ := hdumps path dump hload
    obtain ⟨v, hv, hfails⟩ := hiff.mpr hvisit
    exact ⟨v, ⟨path, hpath, dump, vs, hload, hvs, hv⟩, hfails⟩

/-- A component whose name is a node: the first argument of the call is of an unknown kind, and has
a node for a value. -/
def taggedFile : String :=
  "\x7b\"type\":\"Program\",\"body\":[\x7b\"type\":\"CallExpression\"," ++
  "\"callee\":\x7b\"type\":\"MemberExpression\",\"object\":\x7b\"type\":\"CallExpression\"," ++
  "\"callee\":\x7b\"type\":\"MemberExpression\"," ++
  "\"object\":\x7b\"type\":\"Identifier\",\"name\":\"angular\"\x7d," ++
  "\"property\":\x7b\"type\":\"Identifier\",\"name\":\"module\"\x7d\x7d,\"arguments\":[]\x7d," ++
  "\"property\":\x7b\"type\":\"Identifier\",\"name\":\"component\"\x7d\x7d,\"arguments\":[" ++
  "\x7b\"type\":\"TaggedName\",\"value\":\x7b\"type\":\"ThisExpression\"\x7d\x7d]\x7d]\x7d"

def readTagged : FileReader := fun _ => .ok taggedFile.toUTF8.toList

/-- The component has no controller, which is reported, and the report cannot be written. -/
theorem exists_fails_record?_readTagged :
    ∃ dump vs, (Dump.load readTagged "a.js.json").result = .ok (some dump) ∧
      ((Linter.start tools [] ()).verify (some dump.program) dump.filename).1 = .ok vs ∧
      ∃ v ∈ vs, Fails v.record? := by
  have hany : (violationsAt [] readTagged "a.js.json").any (fun v => !v.record?.toBool) = true := by
    decide +kernel
  obtain ⟨v, hv, hfails⟩ := List.any_eq_true.mp hany
  obtain ⟨dump, vs, hload, hvs, hv⟩ := mem_violationsAt_iff.mp hv
  exact ⟨dump, vs, hload, hvs, v, hv, fails_iff_toBool.mpr (by simpa using hfails)⟩

theorem not_aborts_readTagged :
    ∀ path ∈ (["a.js.json"] : List Text), ¬Dump.Aborts readTagged path := by
  intro path hpath
  obtain rfl := List.mem_singleton.mp hpath
  obtain ⟨dump, -, hload, -⟩ := exists_fails_record?_readTagged
  exact mt (Dump.load_loading readTagged _).fails_iff.mpr (hload ▸ not_fails_ok)

/-- What is reported on the component takes the run with it. -/
theorem unwritable_readTagged :
    (Settings.load tools readTagged []).result = .ok [] ∧
      (∃ dump, (Dump.load readTagged "a.js.json").result = .ok (some dump) ∧
        ∃ visit ∈ Node.visits dump.program, visit.Unwritable [] dump.filename) ∧
      Fails (analyze readTagged [] none ["a.js.json"]).result := by
  have hsettings : (Settings.load tools readTagged []).result = .ok [] := rfl
  obtain ⟨hdumps, hfails⟩ :=
    @fails_analyze_iff _ readTagged [] ["a.js.json"] none [] hsettings not_aborts_readTagged
  obtain ⟨dump, vs, hload, hvs, hv⟩ := exists_fails_record?_readTagged
  obtain ⟨vs', hvs', hiff⟩ := hdumps _ dump hload
  obtain rfl := Except.ok.inj (hvs.symm.trans hvs')
  have hvisit := hiff.mp hv
  exact ⟨hsettings, ⟨dump, hload, hvisit⟩,
    hfails.mpr ⟨_, List.mem_cons_self, dump, hload, hvisit⟩⟩

/-- Settings and file are sound, and still nothing comes of the run. -/
theorem fails_analyze_readTagged :
    (Settings.load tools readTagged []).result = .ok [] ∧
      (∃ dump, (Dump.load readTagged "a.js.json").result = .ok (some dump)) ∧
      Fails (analyze readTagged [] none ["a.js.json"]).result := by
  obtain ⟨dump, vs, hload, hvs, v, hv, hfails⟩ := exists_fails_record?_readTagged
  refine ⟨rfl, ⟨dump, hload⟩, ?_⟩
  rw [fails_analyze_iff_fails_records rfl not_aborts_readTagged, fails_mapM_iff]
  refine ⟨v, List.mem_flatMap.mpr ⟨_, List.mem_cons_self, ?_⟩, hfails⟩
  exact mem_violationsAt_iff.mpr ⟨dump, vs, hload, hvs, hv⟩

end CommandLine

end AngularLint
