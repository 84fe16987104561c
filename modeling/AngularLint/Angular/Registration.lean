import AngularLint.Tree.Chain
import AngularLint.Tree.Object

/-!
# Registrations

A component, service, controller or directive is registered by a call in a chain that leads inward
to a module: `angular.module(…)….component(name, configuration)`. Every call of such a chain is a
registration of its own, whatever other registrations stand around it.
-/

set_option autoImplicit false

namespace AngularLint.Registration

/-- The name of the global that every chain of registrations starts from. -/
def globalName : Text := "angular"

/-- The name of the link that gives access to a module. -/
def moduleName : Text := "module"

def elements : List Text := ["component", "service", "controller", "directive"]

/-- Is the value a call that registers the given element? -/
def isOf (element : Text) (call : Value) : Bool :=
  (Value.ofOption (call.at? ["callee", "property"])).isNamed element &&
    (call.linkNamed? moduleName).isSome &&
    ((call.root?).any fun root => (Value.node root).isNamed globalName)

def configuration? (call : Value) : Option Value :=
  (call.follow? [.field "arguments", .position 1]).bind Value.present?

/-- The name under which a registration registers the element. -/
def name? (call : Value) : Option Value :=
  (call.follow? [.field "arguments", .position 0, .field "value"]).bind Value.present?

/-- The definition that a directive's factory returns, by the first return statement of its own. -/
def directiveConfiguration? (call : Value) : Except Fault (Option Value) := do
  let factory := Value.ofOption (configuration? call)
  if ← factory.isFunction then
    let statements ← factory.itemsAt ["body", "body"]
    return (statements.findSome? Value.returned?).bind Value.present?
  else return none

end AngularLint.Registration
