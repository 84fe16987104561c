import AngularLint.Json.Basic
import AngularLint.Text.Integer

/-!
# Source ranges

The stretch of a source file that a node covers, read from the location entry of its dump. Dumps
count columns from zero and ranges from one. A number may come in any form that denotes an integer;
where one is missing or denotes none, the node has no range at all. Infinity alone is an error,
since it denotes a number that no integer is.
-/

set_option autoImplicit false

namespace AngularLint

/-- A stretch of a source file. The file is what the dump calls it, which may be any value. -/
structure Range where
  file : Json
  startLine : Int
  startColumn : Int
  endLine : Int
  endColumn : Int

namespace Range

/-- Why a value gives no integer. -/
inductive CoordinateFault where
  | absent
  | infinite

/-- The integer that a value denotes: numbers without their fraction, truth values as one and zero,
and texts that are numerals. -/
def coordinate : Json → Except CoordinateFault Int
  | .bool b => .ok (if b then 1 else 0)
  | .int n => .ok n
  | .float x =>
    if Decimal.isFinite x then .ok (Decimal.truncate x)
    else if Decimal.isInfinite x then .error .infinite
    else .error .absent
  | .str s =>
    match Text.readInteger 10 s with
    | .ok n => .ok n
    | .error _ => .error .absent
  | _ => .error .absent

def coordinateAt (key : Text) (position : Json) : Except CoordinateFault Int :=
  match position.get? key with
  | some v => coordinate v
  | none => .error .absent

def firstTruthy (values : List Json) (fallback : Json) : Json :=
  (values.find? Json.truthy).getD fallback

def unknownFile : Text := "<unknown>"

/-- Reads the coordinates of a location, in the order start line, start column, end line, end
column. Where there is no end, it is the start. -/
def ofLocation (file : Option Text) (location : Json) : Except CoordinateFault Range := do
  let start := (location.get? "start").getD .null
  let finish := firstTruthy [(location.get? "end").getD .null] start
  let startLine ← coordinateAt "line" start
  let startColumn ← coordinateAt "column" start
  let endLine ← coordinateAt "line" finish
  let endColumn ← coordinateAt "column" finish
  return {
    file := firstTruthy [.str (file.getD ""), (location.get? "source").getD .null]
      (.str unknownFile)
    startLine, startColumn := startColumn + 1, endLine, endColumn := endColumn + 1 }

/-- The range of a dumped object, if it has one. Only an infinite coordinate is an error. -/
def ofEntries (file : Option Text) (entries : List (Text × Json)) :
    Except CoordinateFault (Option Range) :=
  match Json.find? "loc" entries with
  | some (.obj location) =>
    match ofLocation file (.obj location) with
    | .ok range => .ok (some range)
    | .error .absent => .ok none
    | .error .infinite => .error .infinite
  | _ => .ok none

end Range

end AngularLint
