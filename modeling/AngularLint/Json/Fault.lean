import AngularLint.Text.Integer
import AngularLint.Text.Lines

/-!
# Faults of JSON texts
-/

set_option autoImplicit false

namespace AngularLint.Json

/-- What a text lacks to be JSON. -/
inductive Cause where
  | value
  | propertyName
  | colon
  | comma
  | stringEnd
  | controlCharacter
  | escape
  | codeEscape
  | extraData
  | byteOrderMark

def Cause.message : Cause → String
  | .value => "Expecting value"
  | .propertyName => "Expecting property name enclosed in double quotes"
  | .colon => "Expecting ':' delimiter"
  | .comma => "Expecting ',' delimiter"
  | .stringEnd => "Unterminated string starting at"
  | .controlCharacter => "Invalid control character at"
  | .escape => "Invalid \\escape"
  | .codeEscape => "Invalid \\uXXXX escape"
  | .extraData => "Extra data"
  | .byteOrderMark => "Unexpected UTF-8 BOM (decode using utf-8-sig)"

/-- Why a text was not read. -/
inductive Fault where
  /-- The text is no JSON from a place on. -/
  | malformed (cause : Cause) (line column position : Nat)
  /-- More containers stand open than the reader admits. -/
  | tooDeep
  /-- An integer has more digits than a numeral may have. -/
  | integer (fault : Text.IntegerFault)

/-- The fault of a text that is no JSON from the `position`th character on. -/
def Fault.at (text : List Char) (cause : Cause) (position : Nat) : Fault :=
  let before := text.take position
  .malformed cause (Text.lineAfter before) (Text.columnAfter before) position

def Fault.message : Fault → String
  | .malformed cause line column position =>
    s!"{cause.message}: line {line} column {column} (char {position})"
  | .tooDeep => "is too deeply nested to decode"
  | .integer fault => fault.message

end AngularLint.Json
