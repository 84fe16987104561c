import AngularLint.Text.Basic

/-!
# Tokens of YAML

The parts of a text that the grammar is about. Where the text opens and closes blocks by indentation
alone, there are tokens all the same, and so there is one before a key that nothing marks.
-/

set_option autoImplicit false

namespace AngularLint.Yaml

/-- A line that says how the documents behind it are to be read. -/
inductive Directive where
  | version (major minor : Int)
  /-- A short name for the start of types. -/
  | handle (name text : String)
  | unknown
deriving DecidableEq

/-- A token. -/
inductive Token where
  | streamEnd
  | directive (d : Directive)
  | documentStart
  | documentEnd
  | blockSequenceStart
  | blockMappingStart
  | blockEnd
  | flowSequenceStart
  | flowSequenceEnd
  | flowMappingStart
  | flowMappingEnd
  | blockEntry
  | flowEntry
  | key
  | value
  | reference (name : String)
  | anchor (name : String)
  /-- A type; a type in full has no handle. -/
  | type (handle : Option String) (rest : String)
  /-- A text, which is plain if it stands neither in quotes nor in a block of its own. -/
  | scalar (plain : Bool) (text : Text)
deriving DecidableEq

end AngularLint.Yaml
