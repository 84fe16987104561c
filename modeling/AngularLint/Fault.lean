import AngularLint.Text.Quoted

/-!
# Faults of rules

Rules look into trees of any shape, and a look-up may meet a value that it cannot use. Such a
`Fault` can always be told. What a rule fails with may also be its own: an error, which somebody may
have to show and cannot, or no error at all but the wish to end the run (`Mishap`). What nobody
takes care of leaves the linter as an `Interruption`.
-/

set_option autoImplicit false

namespace AngularLint

/-- Why a look-up or a rule cannot go on. Types of values are given by the names that messages have
for them. -/
inductive Fault where
  /-- A value that should be a list has no items. -/
  | notIterable (type : Text)
  /-- A composite value stands where only a plain one can be compared. -/
  | notHashable (type : Text)
  /-- A value that should be a text is none. -/
  | notText (type : Text)
  /-- A rule reports a message that it does not have. -/
  | unknownMessage (rule message : Text)

/-- The kind of a fault, as messages name it. -/
def Fault.kind : Fault → Text
  | notIterable _ => "TypeError"
  | notHashable _ => "TypeError"
  | notText _ => "TypeError"
  | unknownMessage _ _ => "ValueError"

def Fault.message : Fault → Text
  | notIterable type => "'" ++ type ++ "' object is not iterable"
  | notHashable type => "unhashable type: '" ++ type ++ "'"
  | notText type => "decoding to str: need a bytes-like object, " ++ type ++ " found"
  | unknownMessage rule message =>
    "rule '" ++ rule ++ "' has no message '" ++ message ++ "'"

/-- A fault as diagnostics show it: its kind and its quoted wording. -/
def Fault.shown (f : Fault) : Text := f.kind ++ "(" ++ f.message.quote ++ ")"

/-- What leaves the linter before it is done: its kind and its wording. -/
structure Interruption where
  kind : Text
  text : Text

/-- What the work of a rule fails with. -/
inductive Mishap where
  | fault (fault : Fault)
  /-- An error of the rule's own. What it is shown as is up to the rule as well, and to show it may
  fail with something else. -/
  | error (self : Interruption) (shown : Except Interruption Text)
  /-- No error, but the wish to end whatever is under way. -/
  | exit (self : Interruption)

namespace Mishap

/-- What a mishap is where nobody takes care of it. -/
def self : Mishap → Interruption
  | fault f => ⟨f.kind, f.message⟩
  | error self _ => self
  | exit self => self

/-- Does the linter take care of it? -/
def isCaught : Mishap → Bool
  | exit _ => false
  | _ => true

/-- What is told of a mishap, or what leaves the linter in its place. -/
def shown : Mishap → Except Interruption Text
  | fault f => .ok f.shown
  | error _ shown => shown
  | exit self => .error self

end Mishap

end AngularLint
