import AngularLint.CommandLine.Invocation
import AngularLint.Config.Load
import AngularLint.Dump
import AngularLint.Json.Writer
import AngularLint.Linter

/-!
# What the program does

A command line is answered by a text, to be printed or to be written to a file, and by a number that
says how the run has ended. Files are read through a function, so that what is done is a matter of
their contents alone; writing is left to the caller.
-/

set_option autoImplicit false

namespace AngularLint.CommandLine

/-- Where a text goes. -/
inductive Output where
  | print (text : String)
  | write (path : Text) (text : String)

/-- The end of a run: its output and its number. -/
structure Outcome where
  output : Output
  exit : Nat

/-- The answer to a command line. -/
structure Response where
  diagnostics : List Diagnostic
  /-- What is said about the command line itself. -/
  complaint : Text
  result : Except Abort Outcome

/-- The text of the records of violations, unless one of them cannot be written. -/
def report (violations : List Violation) : Except Abort String :=
  match violations.mapM Violation.record? with
  | .ok records => .ok (Json.write (.arr records) ++ "\n")
  | .error abort => .error abort

def listing {σ : Type} (registry : Registry σ) : String :=
  Json.write (.arr (registry.map fun rule => rule.record)) ++ "\n"

/-- Lints the dump at a path, after others. A dump that cannot be used has no violations. What
leaves the linter ends the run. -/
def lintFile {σ : Type} [Limits] (read : FileReader) (linter : Linter σ) (path : Text) :
    Run (List Violation × Linter σ) := do
  match ← Dump.load read path with
  | none => return ([], linter)
  | some dump =>
    let (result, linter, told) := linter.verify (some dump.program) dump.filename
    ⟨told, (result.mapError .interrupted).map (·, linter)⟩

def lintFiles {σ : Type} [Limits] (read : FileReader) (linter : Linter σ) :
    List Text → Run (List Violation)
  | [] => return []
  | path :: rest => do
    let (violations, linter) ← lintFile read linter path
    return violations ++ (← lintFiles read linter rest)

def exitNumber (violations : List Violation) : Nat :=
  if violations.any fun v => v.severity == .error then 1 else 0

/-- Where the text of a run goes: to the named file, if one is named. -/
def destination (output : Option Text) (text : String) : Output :=
  match output.filter fun path => !path.isEmpty with
  | some path => .write path text
  | none => .print text

/-- The registry of the tool, whose rules keep nothing in mind. -/
def tools : Registry Unit := .standard

def analyze [Limits] (read : FileReader) (config : List Text) (output : Option Text)
    (files : List Text) : Run Outcome := do
  let settings ← Settings.load tools read config
  let violations ← lintFiles read (.start tools settings ()) files
  let text ← Run.ofExcept (report violations)
  return ⟨destination output text, exitNumber violations⟩

def perform [Limits] (read : FileReader) : Invocation → Run Outcome
  | .analyze config output files => analyze read config output files
  | .rules => return ⟨.print (listing tools), 0⟩

/-- The answer to a command line that asks for nothing to be done. -/
def decline : Refusal → Response
  | .help topic => ⟨[], "", .ok ⟨.print (topic.usage ++ topic.description), 0⟩⟩
  | .version => ⟨[], "", .ok ⟨.print versionText, 0⟩⟩
  | .fault topic fault =>
    ⟨[], topic.usage ++ topic.name ++ ": error: " ++ fault.message ++ "\n", .ok ⟨.print "", 2⟩⟩

def respond [Limits] (read : FileReader) (words : List Text) : Response :=
  match Invocation.ofWords words with
  | .error refusal => decline refusal
  | .ok invocation =>
    let run := perform read invocation
    ⟨run.diagnostics, "", run.result⟩

end AngularLint.CommandLine
