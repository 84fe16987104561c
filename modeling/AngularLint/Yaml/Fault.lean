/-!
# Faults of YAML texts
-/

set_option autoImplicit false

namespace AngularLint.Yaml

/-- Why a text gives no documents. -/
inductive Fault where
  /-- A character that no text may hold. -/
  | character
  /-- Characters that make no token, or a token where none of its kind may stand. -/
  | token
  /-- Tokens that make no document. -/
  | grammar
  /-- An anchor that is set twice, or one that is named and not set. -/
  | anchor
  /-- A type that is not known, or a value that does not have the type it is given. -/
  | value

def Fault.message : Fault → String
  | character => "special characters are not allowed"
  | token => "found characters that cannot start any token here"
  | grammar => "found a token that the document cannot hold here"
  | anchor => "found an alias without its anchor, or an anchor twice"
  | value => "could not construct a value"

end AngularLint.Yaml
