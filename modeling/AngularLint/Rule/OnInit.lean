import AngularLint.Angular.Controller
import AngularLint.Angular.Registration
import AngularLint.Rule.Basic

/-!
# Controllers of components have `$onInit`

The set-up of a component's controller belongs into its hook, which therefore should be there.
-/

set_option autoImplicit false

namespace AngularLint.OnInit

/-- What to report on a call: the controller of the component that it registers, if the controller
lacks the hook. A component without a controller lacks it as well. -/
def judge (call : Value) : Except Fault (Option Request) := do
  if !Registration.isOf "component" call then return none
  let configuration := Value.ofOption (Registration.configuration? call)
  let controller := Value.ofOption (← configuration.propertyValue? "controller")
  if ← Controller.hasHook controller then return none
  return some {
    message := "onInitNotFound"
    anchor := controller
    data := [("name", .ofOption (Registration.name? call))] }

def convention : Convention where
  id := "require-comp-ctrl-on-init"
  description := "Require use of $onInit in Angular component"
  category := "AngularJS 1.7 migration"
  recommended := true
  messages := [("onInitNotFound", "No $onInit in component controller")]
  options := []
  fixable := none
  habits _ := [("CallExpression", fun visit => .ofLookup (judge (.node visit.node)))]

def rule {σ : Type} : Rule σ := convention.rule

end AngularLint.OnInit
