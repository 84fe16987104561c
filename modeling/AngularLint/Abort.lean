import AngularLint.Document.Calendar
import AngularLint.Fault
import AngularLint.Files.Fault
import AngularLint.Text.Integer
import AngularLint.Text.Utf8

/-!
# What ends a run

Most of what can be wrong with a file is told, and the run goes on without the file. This module
lists what is not dealt with in this way and ends the run.
-/

set_option autoImplicit false

namespace AngularLint

/-- Why a scalar with an explicit type in a document is no value of the type. -/
inductive ScalarFault where
  /-- A text is no number. -/
  | integer (fault : Text.IntegerFault)
  | notFloat (text : Text)
  | noDigits
  | notTruth (text : Text)
  | notTimestamp
  | calendar (fault : CalendarFault)
  /-- A mapping stands for a text that is to be a time. -/
  | notText
  | tooLarge

/-- What is done with values that stand inside each other. -/
inductive DeepWork where
  | building
  | merging
  /-- The reading of brackets, or of keys in quotes, inside each other. -/
  | opening
  | showing

/-- What ends a run. -/
inductive Abort where
  /-- The bytes of a file are no text. -/
  | undecodable (fault : Text.Utf8Fault)
  /-- A path cannot be looked up. -/
  | badPath (fault : PathFault)
  | integer (fault : Text.IntegerFault)
  /-- An escape in a document stands for no character. -/
  | noCharacter (code : Nat)
  /-- A position in a dump is infinite. -/
  | infinitePosition
  /-- A scalar in a document is no value of the type that it is given. -/
  | scalar (fault : ScalarFault)
  /-- Values in a document stand too deep inside each other. -/
  | tooDeep (work : DeepWork)
  /-- A violation holds something that is no JSON, of the named type. -/
  | notJson (type : Text)
  /-- The violations cannot be written to a path. -/
  | unwritable (path : Text) (fault : FileFault)
  /-- Something has left the linter. -/
  | interrupted (interruption : Interruption)

namespace ScalarFault

def message : ScalarFault → Text
  | integer fault => fault.message
  | notFloat text => "could not convert string to float: " ++ text.quote
  | noDigits => "string index out of range"
  | notTruth text => text.quote
  | notTimestamp => "'NoneType' object has no attribute 'groupdict'"
  | calendar fault => fault.message
  | notText => "expected string or bytes-like object, got 'list'"
  | tooLarge => "int too large to convert to float"

end ScalarFault

def DeepWork.message : DeepWork → String
  | building => "maximum recursion depth exceeded"
  | merging => "maximum recursion depth exceeded"
  | opening => "maximum recursion depth exceeded while calling a Python object"
  | showing => "maximum recursion depth exceeded while getting the repr of an object"

namespace Abort

def message : Abort → Text
  | undecodable fault => fault.message
  | badPath fault => fault.message
  | integer fault => fault.message
  | noCharacter code =>
    if code < 0x80000000 then "chr() arg not in range(0x110000)"
    else "Python int too large to convert to C int"
  | infinitePosition => "cannot convert float infinity to integer"
  | scalar fault => fault.message
  | tooDeep work => work.message
  | notJson type => "Object of type " ++ type ++ " is not JSON serializable"
  | unwritable path fault => fault.message path
  | interrupted interruption => interruption.text

end Abort

end AngularLint
