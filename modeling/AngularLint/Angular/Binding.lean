import AngularLint.Angular.Registration

/-!
# Bindings

The object literals that bind an element's scope to its surroundings: a component declares them
under `bindings`, a directive under `scope`. A binding goes two ways where its text says so by an
equals sign.
-/

set_option autoImplicit false

namespace AngularLint.Binding

def twoWayMark : Char := '='

def ofComponent? (call : Value) : Except Fault (Option Value) :=
  (Value.ofOption (Registration.configuration? call)).propertyValue? "bindings"

def ofDirective? (call : Value) : Except Fault (Option Value) := do
  let configuration ← Registration.directiveConfiguration? call
  (Value.ofOption configuration).propertyValue? "scope"

def isTwoWay (binding : Value) : Bool :=
  match binding.at? ["value", "value"] with
  | some (.plain (.str s)) => s.contains twoWayMark
  | _ => false

/-- The first of the declared bindings that goes two ways. -/
def firstTwoWay? (declared : Value) : Except Fault (Option Value) := do
  let bindings ← declared.itemsAt ["properties"]
  return bindings.find? isTwoWay

end AngularLint.Binding
