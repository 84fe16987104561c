import AngularLint.Tree.Path

/-!
# Object literals, functions and classes

Look-ups that the rules share. They ask by name and path, so they hold for every value that answers
to the names, whatever its kind.
-/

set_option autoImplicit false

namespace AngularLint

def functionKinds : List Text := [FunctionForm.expression.type, FunctionForm.arrow.type]

namespace Value

def propertyValue? (key : Text) (v : Value) : Except Fault (Option Value) := do
  let properties ← v.itemsAt ["properties"]
  return (properties.find? fun p => p.textAt ["key", "name"] key).bind (·.at? ["value"])

/-- Is the value a function expression? A kind that is composite cannot be looked up among the kinds
of functions, which is a fault. -/
def isFunction (v : Value) : Except Fault Bool :=
  match v.at? ["type"] with
  | some (plain (.str kind)) => .ok (functionKinds.contains kind)
  | some (plain (.arr items)) => .error (.notHashable (plain (.arr items)).type)
  | some (plain (.obj es)) => .error (.notHashable (plain (.obj es)).type)
  | _ => .ok false

def isClass (v : Value) : Bool := v.textAt ["type"] ClassForm.expression.type

/-- What a return statement returns; nothing for any other value. -/
def returned? : Value → Option Value
  | node (.mk _ (.returnStatement argument)) => some (ofChild argument)
  | _ => none

end Value

end AngularLint
