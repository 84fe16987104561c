import AngularLint.Config.Setting
import AngularLint.Files.Fault
import AngularLint.Json.Fault
import AngularLint.Yaml.Fault

/-!
# Diagnostics

What is told about files, settings and rules that had to be skipped, one line each. A diagnostic is
a value; its wording is given in one place, `Diagnostic.line`.
-/

set_option autoImplicit false

namespace AngularLint

/-- Something that had to be skipped. -/
inductive Diagnostic where
  | configMissing (path : Text)
  | configUnreadable (path : Text) (fault : FileFault)
  | configMalformed (path : Text) (fault : Yaml.Fault)
  /-- An entry of a document names a rule that is not known; the name may be any value. -/
  | unknownRule (name origin : Text)
  | settingSkipped (origin : Text) (fault : SettingFault)
  | dumpMissing (path : Text)
  | dumpUnreadable (path : Text) (fault : FileFault)
  | dumpMalformed (path : Text) (fault : Json.Fault)
  | dumpTooDeep (path : Text)
  | dumpHoldsNoProgram (path : Text)
  /-- A rule has failed on a node; what it has failed with is given as it is shown. -/
  | ruleFailed (rule kind file shown : Text)

namespace Diagnostic

/-- The name of the place in a file of settings where a document stands, counted from one. -/
def origin (path : Text) (index : Nat) : Text := path ++ s!"#doc{index + 1}"

def message : Diagnostic → Text
  | configMissing path => "Config file not found: " ++ path
  | configUnreadable path fault =>
    "Could not read config file " ++ path ++ ": " ++ fault.message path
  | configMalformed path fault => "Invalid YAML in config file " ++ path ++ ": " ++ fault.message
  | unknownRule name origin => "Skipping unknown rule '" ++ name ++ "' from " ++ origin ++ "."
  | settingSkipped origin fault =>
    "Skipping setting from " ++ origin ++ ": " ++ fault.message ++ "."
  | dumpMissing path => "Input file not found: " ++ path
  | dumpUnreadable path fault => "Could not read input file " ++ path ++ ": " ++ fault.message path
  | dumpMalformed path fault => "Input file " ++ path ++ " is not valid JSON: " ++ fault.message
  | dumpTooDeep path => "Input file " ++ path ++ " is too deeply nested to decode."
  | dumpHoldsNoProgram path => "Input file " ++ path ++ " does not hold an ESTree Program."
  | ruleFailed rule kind file shown =>
    "Rule '" ++ rule ++ "' failed on " ++ kind ++ " in " ++ file ++ ": " ++ shown ++ "."

def line (d : Diagnostic) : Text := "[ngconv] " ++ d.message ++ "\n"

def lines (ds : List Diagnostic) : Text := Text.join (ds.map line)

end Diagnostic

end AngularLint
