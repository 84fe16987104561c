import AngularLint.Tree.Path

/-!
# Call chains

A chain such as `a.b().c().d` hangs from its last link: each call leads inward to its callee, and
each member access to its object. The root of a chain is the identifier where the way inward ends,
if it ends at one.
-/

set_option autoImplicit false

namespace AngularLint.Node

/-- The first link from the outside in whose property has the name, or the root with that name. -/
def linkNamed? (name : Text) : Node → Option Node
  | .mk range (.memberExpression (some object) property computed) =>
    if (Value.ofChild property).isNamed name then
      some (.mk range (.memberExpression (some object) property computed))
    else object.linkNamed? name
  | .mk range (.memberExpression none property computed) =>
    if (Value.ofChild property).isNamed name then
      some (.mk range (.memberExpression none property computed))
    else none
  | .mk _ (.callExpression (some callee) _) => callee.linkNamed? name
  | .mk range (.identifier text) =>
    if text == name then some (.mk range (.identifier text)) else none
  | _ => none

def root? : Node → Option Node
  | .mk _ (.memberExpression (some object) _ _) => object.root?
  | .mk _ (.callExpression (some callee) _) => callee.root?
  | .mk range (.identifier text) => some (.mk range (.identifier text))
  | _ => none

end AngularLint.Node

namespace AngularLint.Value

/-- The first link with the name; values that are no nodes are no chains. -/
def linkNamed? (name : Text) (v : Value) : Option Node := v.node?.bind (·.linkNamed? name)

def root? (v : Value) : Option Node := v.node?.bind (·.root?)

end AngularLint.Value
