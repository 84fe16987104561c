import AngularLint.Tree.Object

/-!
# Controllers

A controller is a function or a class. Its set-up belongs into the hook `$onInit`: a method of the
class, or a member that the function gives to `this`.
-/

set_option autoImplicit false

namespace AngularLint.Controller

def hookName : Text := "$onInit"

/-- The statements of a function, or the members of a class; none of anything else. -/
def statements (controller : Value) : Except Fault (List Value) := do
  if (← controller.isFunction) || controller.isClass then controller.itemsAt ["body", "body"]
  else return []

def isHookMethod : Value → Bool
  | .node (.mk _ (.methodDefinition key _ _ _ _)) => (Value.ofChild key).isNamed hookName
  | _ => false

/-- Does the statement give the hook to `this`? -/
def isHookAssignment : Value → Bool
  | .node (.mk range (.expressionStatement expression)) =>
    let statement := Value.node (.mk range (.expressionStatement expression))
    statement.textAt ["expression", "left", "object", "type"] "ThisExpression" &&
      statement.textAt ["expression", "left", "property", "name"] hookName
  | _ => false

def hasHook (controller : Value) : Except Fault Bool := do
  let statements ← statements controller
  return statements.any fun s => isHookMethod s || isHookAssignment s

end AngularLint.Controller
