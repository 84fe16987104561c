import AngularLint.Angular.Binding
import AngularLint.Rule.Basic

/-!
# No two-way bindings

Components and directives should not bind their scope to their surroundings both ways.
-/

set_option autoImplicit false

namespace AngularLint.TwoWayBinding

/-- The bindings that a call declares, if it registers a component or a directive. -/
def declared? (call : Value) : Except Fault (Option Value) :=
  if Registration.isOf "component" call then Binding.ofComponent? call
  else if Registration.isOf "directive" call then Binding.ofDirective? call
  else .ok none

/-- What to report on a call: its first binding that goes two ways. -/
def judge (call : Value) : Except Fault (Option Request) := do
  let declared ← declared? call
  let binding ← Binding.firstTwoWay? (.ofOption declared)
  return binding.map fun b => {
    message := "noTwoWayBinding"
    anchor := b
    data := [("name", .ofOption (Registration.name? call))] }

def convention : Convention where
  id := "no-two-way-binding"
  description := "Disallow use of two way bindings"
  category := "AngularJS performance issues"
  recommended := true
  messages := [("noTwoWayBinding", "Use one way binding and callback functions")]
  options := []
  fixable := none
  habits _ := [("CallExpression", fun visit => .ofLookup (judge (.node visit.node)))]

def rule {σ : Type} : Rule σ := convention.rule

end AngularLint.TwoWayBinding
