import AngularLint.CommandLine.Response
import AngularLint.Proofs.Config.Load
import AngularLint.Proofs.Dump
import AngularLint.Proofs.Linter.Steady

/-!
# What becomes of the files of a command line

Files are linted one after another by one linter, but what is reported on a file is a matter of that
file alone: the log of failures that the linter carries along decides what is told, not what is
reported, and the rules of the tool keep nothing in mind. So a file that cannot be used takes
nothing from the others, as long as it does not end the run; a file that does takes everything.

**`analyze_result`** says which files do: those of `Dump.Aborts` and `Settings.Aborts`. Besides
them, a violation that cannot be written as JSON ends the run.
-/

set_option autoImplicit false

namespace AngularLint.CommandLine

/-- The violations of the dump at a path under given settings; none if it cannot be used. -/
def violationsAt [Limits] (settings : Settings) (read : FileReader) (path : Text) :
    List Violation :=
  match (Dump.load read path).result with
  | .ok (some dump) =>
    ((Linter.start tools settings ()).verify (some dump.program) dump.filename).1.toOption.getD []
  | _ => []

/-- No rule of the tool keeps a linter from returning what has been reported. -/
theorem exists_verify_eq_ok {linter : Linter Unit} (htools : linter.registry = tools)
    (tree : Option Node) (filename : Text) : ∃ vs, (linter.verify tree filename).1 = .ok vs := by
  have hsteady : linter.IsSteady Registry.conventions := htools
  exact ⟨_, Linter.verify_eq_ok hsteady.failsOnlyWith tree filename⟩

/-- A file leaves the rules and the settings as they are. -/
theorem lintFile_result [Limits] {read : FileReader} {linter : Linter Unit} {path : Text}
    (htools : linter.registry = tools) (h : ¬Dump.Aborts read path) :
    ∃ linter' : Linter Unit, (lintFile read linter path).result =
        .ok (violationsAt linter.settings read path, linter') ∧
      linter'.registry = tools ∧ linter'.settings = linter.settings := by
  obtain ⟨found, hfound⟩ := not_fails_iff.mp
    (fun hfails => h ((Dump.load_loading read path).fails_iff.mp hfails))
  rw [lintFile, Run.bind_of_ok hfound, violationsAt, hfound]
  cases found with
  | none => exact ⟨linter, rfl, htools, rfl⟩
  | some dump =>
    have hsteady : linter.IsSteady Registry.conventions := htools
    let fresh : Linter Unit := .start tools linter.settings ()
    have hregistry : fresh.registry = linter.registry := htools.symm
    have hsettings : fresh.settings = linter.settings := rfl
    have hmemory : fresh.memory = linter.memory := rfl
    have hviolations : (fresh.verify (some dump.program) dump.filename).1 =
        (linter.verify (some dump.program) dump.filename).1 :=
      Linter.verify_congr hsteady hregistry hsettings hmemory _ _
    obtain ⟨vs, hvs⟩ := exists_verify_eq_ok htools (some dump.program) dump.filename
    refine ⟨(linter.verify (some dump.program) dump.filename).2.1, ?_, htools, rfl⟩
    dsimp only
    rw [hviolations, hvs]
    rfl

theorem fails_lintFile_iff [Limits] {read : FileReader} {linter : Linter Unit} {path : Text}
    (htools : linter.registry = tools) :
    Fails (lintFile read linter path).result ↔ Dump.Aborts read path := by
  constructor
  · intro hfails
    refine Classical.byContradiction fun hgoes => ?_
    obtain ⟨linter', hresult, -⟩ := lintFile_result htools hgoes
    rw [hresult] at hfails
    exact not_fails_ok hfails
  · intro haborts
    rw [lintFile, Run.fails_bind_iff, (Dump.load_loading read path).fails_iff]
    exact .inl haborts

theorem fails_lintFiles_iff [Limits] {read : FileReader} {linter : Linter Unit} {paths : List Text}
    (htools : linter.registry = tools) :
    Fails (lintFiles read linter paths).result ↔ ∃ path ∈ paths, Dump.Aborts read path := by
  induction paths generalizing linter with
  | nil => exact iff_of_false not_fails_ok (by simp)
  | cons path rest ih =>
    simp only [List.mem_cons, exists_eq_or_imp]
    rw [lintFiles, Run.fails_bind_iff, fails_lintFile_iff htools]
    by_cases h : Dump.Aborts read path
    · exact iff_of_true (.inl h) (.inl h)
    · obtain ⟨linter', hfile, htools', -⟩ := lintFile_result htools h
      refine or_congr_right ?_
      rw [hfile]
      simp only [Except.ok.injEq, exists_eq_left']
      rw [Run.fails_bind_iff, ih htools']
      refine or_iff_left ?_
      rintro ⟨_, -, hfails⟩
      exact not_fails_ok hfails

theorem lintFiles_result [Limits] {read : FileReader} {linter : Linter Unit} {paths : List Text}
    (htools : linter.registry = tools) (h : ∀ path ∈ paths, ¬Dump.Aborts read path) :
    (lintFiles read linter paths).result =
      .ok (paths.flatMap (violationsAt linter.settings read)) := by
  induction paths generalizing linter with
  | nil => rfl
  | cons path rest ih =>
    obtain ⟨linter', hfile, htools', hsettings⟩ :=
      lintFile_result htools (h path List.mem_cons_self)
    have hrest := ih htools' fun path' hpath => h path' (List.mem_cons_of_mem _ hpath)
    rw [lintFiles, Run.bind_of_ok hfile]
    dsimp only
    rw [Run.bind_of_ok hrest, hsettings]
    rfl

end AngularLint.CommandLine
