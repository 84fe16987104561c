import AngularLint.Rule.Template

/-!
# Violations

What a rule reports, together with where it was found and how much it weighs. The record of a
violation is what tools read; its keys keep their order.
-/

set_option autoImplicit false

namespace AngularLint

/-- How much a rule weighs, by its label. A setting read from a file has one of the three labels
below; a program that uses the library may choose others, which only label the violations. -/
structure Severity where
  label : Text
deriving DecidableEq

namespace Severity

def off : Severity := ⟨"off"⟩

def warning : Severity := ⟨"warning"⟩

/-- Violations are reported, and the run has failed. -/
def error : Severity := ⟨"error"⟩

end Severity

/-- A place in a linted file. -/
structure Location where
  file : Text
  startLine : Int
  startColumn : Int
  endLine : Int
  endColumn : Int

namespace Location

/-- The place of a range in the file that is linted, whatever file the range itself names. -/
def ofRange (file : Text) (r : Range) : Location :=
  ⟨file, r.startLine, r.startColumn, r.endLine, r.endColumn⟩

/-- The place of what has no range: all its coordinates are zero. -/
def unknown (file : Text) : Location := ⟨file, 0, 0, 0, 0⟩

/-- The place of a value, which only a node with a range has. -/
def ofValue (file : Text) : Value → Location
  | .node n => (n.range.map (ofRange file)).getD (unknown file)
  | _ => unknown file

def json (l : Location) : Json :=
  .obj [("file", .str l.file), ("line_start", .int l.startLine), ("col_start", .int l.startColumn),
    ("line_end", .int l.endLine), ("col_end", .int l.endColumn)]

end Location

/-- What a rule found. -/
structure Violation where
  rule : Text
  severity : Severity
  message : Text
  location : Location
  messageId : Text
  /-- The kind of the node at the location, if there is one. -/
  kind : Option Text
  data : List (Text × Value)
  category : Text

namespace Violation

/-- The name of the tool, as records give it. -/
def toolName : String := "ngconv"

def toolVersion : String := "0.1.0"

/-- The record of a violation around the given record of its data. -/
def recordWith (data : Json) (v : Violation) : Json :=
  .obj [("rule_id", .str v.rule), ("severity", .str v.severity.label), ("message", .str v.message),
    ("location", v.location.json),
    ("context", .obj [("message_id", .str v.messageId),
      ("node_type", (v.kind.map Json.str).getD .null), ("data", data)]),
    ("suggested_fix", .null), ("extras", .obj [("category", .str v.category)]),
    ("tool", .str toolName), ("version", .str toolVersion)]

/-- The data of a violation as JSON, or the fault of the first thing in it that is none. -/
def dataJson? (v : Violation) : Except Abort Json :=
  (v.data.mapM fun e : Text × Value => e.2.json?.map fun j => (e.1, j)).map .obj

/-- The record of a violation, or the fault of the first thing in it that cannot be written. The
location stands before the data. -/
def record? (v : Violation) : Except Abort Json := do
  if !v.location.json.isWritable then throw (.integer .tooLarge)
  return v.recordWith (← v.dataJson?)

end Violation

end AngularLint
