import AngularLint.Abort
import AngularLint.Yaml.Fault

/-!
# What is read in order

Characters, tokens, events and graphs are each read in order from what comes before them. Nothing is
read before it is needed, so where something stops the reading, all that comes before is there, and
may itself be at fault first.
-/

set_option autoImplicit false

namespace AngularLint.Yaml

/-- What stops the reading of documents. -/
inductive Stop where
  /-- The text gives no documents. -/
  | fault (fault : Fault)
  /-- The whole run ends. -/
  | abort (abort : Abort)

/-- Things read in order, and what stopped the reading, if it did not come to its end. -/
structure Series (α : Type) where
  items : List α
  stop : Option Stop

def refuse {α : Type} (f : Fault) : Except Stop α := .error (.fault f)

/-- Stops, as the run ends. -/
def giveUp {α : Type} (a : Abort) : Except Stop α := .error (.abort a)

end AngularLint.Yaml
