import AngularLint.Run
import AngularLint.Yaml.Load
import AngularLint.Yaml.Source

/-!
# Files of settings

A file of settings holds documents, and a document has settings by the ids of rules under `rules`.
The last setting of a rule counts, over all files, documents and entries in order. What cannot be
used is told and skipped: a file as a whole, any other thing by itself.
-/

set_option autoImplicit false

namespace AngularLint.Settings

variable {σ : Type}

/-- The entries of a document that are settings of rules. -/
def entriesOf (d : Document) : List (Scalar × Datum) :=
  ((d.get? "rules" d.root).bind d.entries?).getD []

def ruleOf? (registry : Registry σ) : Scalar → Option (Rule σ)
  | .text id => registry.find? id
  | _ => none

def takeEntry [Limits] (registry : Registry σ) (origin : Text) (d : Document) (settings : Settings)
    (entry : Scalar × Datum) : Run Settings := do
  match ruleOf? registry entry.1 with
  | none =>
    match entry.1.display with
    | .ok name => do
      Run.tell (.unknownRule name origin)
      return settings
    | .error fault => Run.abort (.integer fault)
  | some rule =>
    match Setting.ofDatum d rule entry.2 with
    | .ok setting => return settings.insert rule.id setting
    | .error (.untold abort) => Run.abort abort
    | .error fault => do
      Run.tell (.settingSkipped origin fault)
      return settings

def takeDocument [Limits] (registry : Registry σ) (origin : Text) (settings : Settings)
    (d : Document) : Run Settings :=
  (entriesOf d).foldlM (takeEntry registry origin d) settings

def documentsOf [Limits] (bytes : List UInt8) : Except Yaml.Stop (List Document) :=
  Yaml.documents (Yaml.Source.ofBytes bytes)

def takeDocuments [Limits] (registry : Registry σ) (path : Text) (settings : Settings)
    (documents : List Document) : Run Settings :=
  documents.zipIdx.foldlM (fun settings (d, index) =>
    takeDocument registry (Diagnostic.origin path index) settings d) settings

def takeFile [Limits] (registry : Registry σ) (read : FileReader) (settings : Settings)
    (path : Text) : Run Settings := do
  match read path with
  | .error (.badPath fault) => Run.abort (.badPath fault)
  | .error .missing => do
    Run.tell (.configMissing path)
    return settings
  | .error fault => do
    Run.tell (.configUnreadable path fault)
    return settings
  | .ok bytes =>
    match documentsOf bytes with
    | .error (.abort abort) => Run.abort abort
    | .error (.fault fault) => do
      Run.tell (.configMalformed path fault)
      return settings
    | .ok documents => takeDocuments registry path settings documents

/-- The settings that files give to the rules of a registry. -/
def load [Limits] (registry : Registry σ) (read : FileReader) (paths : List Text) : Run Settings :=
  paths.foldlM (takeFile registry read) []

end AngularLint.Settings
