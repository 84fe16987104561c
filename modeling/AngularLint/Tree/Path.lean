import AngularLint.Fault
import AngularLint.Tree.Node

/-!
# Paths into a tree

A path of names and positions leads from a value to a value inside it. Nodes of a kind with its own
shape are entered by the names of their fields; other nodes by the keys of their entries; lists by
position. A step that leads nowhere, or to null, is absence and no fault.
-/

set_option autoImplicit false

namespace AngularLint

/-- A value that a path may lead to. -/
inductive Value where
  | plain (value : Json)
  | node (node : Node)
  | nodes (nodes : List (Option Node))
  | range (range : Range)
  /-- The entries of a node without a shape of its own. -/
  | entries (entries : List (Text × Entry))

/-- A step of a path. -/
inductive Key where
  | field (name : Text)
  | position (index : Int)

namespace Value

def absent : Value := plain .null

def ofChild : Option Node → Value
  | some n => node n
  | none => absent

def ofOption (v : Option Value) : Value := v.getD absent

/-- The value, unless it is absent. -/
def present? : Value → Option Value
  | plain .null => none
  | v => some v

/-- The text itself, if the value is one. -/
def str? : Value → Option Text
  | plain v => v.str?
  | _ => none

/-- The node itself, if the value is one. -/
def node? : Value → Option Node
  | node n => some n
  | _ => none

def type : Value → Text
  | plain .null => "NoneType"
  | plain (.bool _) => "bool"
  | plain (.int _) => "int"
  | plain (.float _) => "float"
  | plain (.str _) => "str"
  | plain (.arr _) => "list"
  | plain (.obj _) => "dict"
  | node n => n.shape.variant
  | nodes _ => "list"
  | range _ => "SourceRange"
  | entries _ => "dict"

end Value

def Entry.value : Entry → Value
  | child node => Value.ofChild node
  | children nodes => .nodes nodes
  | plain value => .plain value

namespace Shape

/-- The fields of a shape under the names by which paths and messages know them. -/
def fields : Shape → List (Text × Value)
  | program body => [("body", .nodes body)]
  | identifier name => [("name", .plain (.str name))]
  | literal value raw => [("value", .plain value), ("raw", .plain raw)]
  | thisExpression => []
  | memberExpression object member computed =>
    [("object", .ofChild object), ("property", .ofChild member),
      ("computed", .plain (.bool computed))]
  | callExpression callee arguments =>
    [("callee", .ofChild callee), ("arguments", .nodes arguments)]
  | objectExpression properties => [("properties", .nodes properties)]
  | property key value kind computed shorthand method =>
    [("key", .ofChild key), ("value", .ofChild value), ("kind", .plain (.str kind)),
      ("computed", .plain (.bool computed)), ("shorthand", .plain (.bool shorthand)),
      ("method", .plain (.bool method))]
  | functionNode _ body params id expression =>
    [("body", .ofChild body), ("params", .nodes params), ("id", .ofChild id),
      ("expression", .plain (.bool expression))]
  | classNode _ body id superClass =>
    [("body", .ofChild body), ("id", .ofChild id), ("super_class", .ofChild superClass)]
  | blockStatement body => [("body", .nodes body)]
  | classBody body => [("body", .nodes body)]
  | methodDefinition key value kind isStatic computed =>
    [("key", .ofChild key), ("value", .ofChild value), ("kind", .plain (.str kind)),
      ("static", .plain (.bool isStatic)), ("computed", .plain (.bool computed))]
  | expressionStatement expression => [("expression", .ofChild expression)]
  | assignmentExpression operator left right =>
    [("operator", .plain (.str operator)), ("left", .ofChild left), ("right", .ofChild right)]
  | returnStatement argument => [("argument", .ofChild argument)]
  | other _ entries => [("children", .entries entries)]

end Shape

namespace Node

def rangeValue (n : Node) : Value :=
  match n.range with
  | some r => .range r
  | none => .absent

/-- The names that every node answers to, whatever its entries. -/
def isCommonName (name : Text) : Bool :=
  name == "type" || name == "children" || name == "source_range"

/-- The value under a name: the entry with that key, for a node without a shape of its own; else the
field with that name, its kind, or its range. -/
def get? (n : Node) (name : Text) : Option Value :=
  match n.shape, isCommonName name with
  | .other _ entries, false => (entries.lookup name).map Entry.value
  | shape, _ =>
    if name == "type" then some (.plain (.str n.type))
    else if name == "source_range" then some n.rangeValue
    else shape.fields.lookup name

end Node

namespace Value

def step? (v : Value) : Key → Option Value
  | .position i =>
    if i < 0 then none
    else match v with
      | plain (.arr items) => (items[i.toNat]?).bind fun item => (plain item).present?
      | nodes ns => (ns[i.toNat]?).bind fun child => (ofChild child).present?
      | _ => none
  | .field name =>
    match v with
    | plain (.obj es) => (Json.find? name es).bind fun value => (plain value).present?
    | entries es => (es.lookup name).bind fun e => e.value.present?
    | node n => (n.get? name).bind present?
    | _ => none

/-- Follows a path; nothing where a step leads nowhere. The empty path leads to the value itself,
even if that is absent. -/
def follow? (v : Value) : List Key → Option Value
  | [] => some v
  | key :: path => (v.step? key).bind fun next => next.follow? path

def at? (v : Value) (names : List Text) : Option Value := v.follow? (names.map .field)

def textAt (v : Value) (names : List Text) (text : Text) : Bool :=
  ((v.at? names).bind str?) == some text

def isNamed (name : Text) (v : Value) : Bool := v.textAt ["name"] name

/-- The items of a value: of a list its items, of a text its characters, of entries their keys.
Absence has none here; anything else has no items at all. -/
def items : Value → Except Fault (List Value)
  | plain .null => .ok []
  | plain (.arr items) => .ok (items.map plain)
  | plain (.str s) => .ok (s.points.map fun c => plain (.str ⟨[c]⟩))
  | plain (.obj es) => .ok (es.map fun e => plain (.str e.1))
  | nodes ns => .ok (ns.map ofChild)
  | entries es => .ok (es.map fun e => plain (.str e.1))
  | v => .error (.notIterable v.type)

/-- The items of the value at a path of names; none where the path leads nowhere. -/
def itemsAt (v : Value) (names : List Text) : Except Fault (List Value) :=
  (ofOption (v.at? names)).items

end Value

end AngularLint
