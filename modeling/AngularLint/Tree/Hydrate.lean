import AngularLint.Total
import AngularLint.Tree.Node

/-!
# From a dump to a tree

An object with a kind becomes a node, everything else becomes nothing. The objects of a dump are
hydrated from the leaves up, without recursion: `agenda` lists them so that each comes after all
objects inside it, and `build` goes through the list with a stack of results, on which every object
finds what became of the objects directly inside it. So nesting costs no more than length.

`fill` lays those results out along the entries of an object, and `assemble` gives the object its
shape from them. An infinite coordinate anywhere in the dump is the one way to fail.
-/

set_option autoImplicit false

namespace AngularLint.Hydrate

abbrev Object := List (Text × Json)

/-- The entries that say what kind of node an object is and where it stands, and hold no child. -/
def isPositionKey (key : Text) : Bool :=
  key == "type" || key == "loc" || key == "range" || key == "start" || key == "end"

/-- The entries of an object; nothing for other values. -/
def object? : Json → Option Object
  | .obj entries => some entries
  | _ => none

/-- The objects that a value contributes to the object around it: itself, or its items. -/
def objectsOf : Json → List Object
  | .obj entries => [entries]
  | .arr items => items.filterMap object?
  | _ => []

/-- The objects directly inside an object, in order. -/
def inner : Object → List Object
  | [] => []
  | (key, value) :: rest => (if isPositionKey key then [] else objectsOf value) ++ inner rest

/-! ## The agenda -/

/-- The size of a list of objects, by which the listing ends. -/
noncomputable def bulk (objects : List Object) : Nat := total (objects.map sizeOf)

@[simp] theorem bulk_nil : bulk [] = 0 := rfl

theorem bulk_append (a b : List Object) : bulk (a ++ b) = bulk a + bulk b := by
  simp [bulk]

theorem bulk_filterMap_object?_lt (items : List Json) :
    bulk (items.filterMap object?) < sizeOf items := by
  induction items with
  | nil => simp [bulk]
  | cons v rest ih =>
    cases v <;> simp [bulk, object?, List.filterMap_cons] at ih ⊢ <;> omega

theorem bulk_objectsOf_lt (v : Json) : bulk (objectsOf v) < sizeOf v := by
  cases v with
  | arr items =>
    have := bulk_filterMap_object?_lt items
    simp [objectsOf]
    omega
  | obj entries => simp [objectsOf, bulk]
  | null => simp [objectsOf, bulk]
  | bool b => simp [objectsOf, bulk]
  | int n => simp only [objectsOf, bulk_nil, Json.int.sizeOf_spec]; omega
  | float x => simp only [objectsOf, bulk_nil, Json.float.sizeOf_spec]; omega
  | str s => simp only [objectsOf, bulk_nil, Json.str.sizeOf_spec]; omega

theorem bulk_inner_lt (o : Object) : bulk (inner o) < sizeOf o := by
  induction o with
  | nil => simp [inner, bulk]
  | cons e rest ih =>
    obtain ⟨key, value⟩ := e
    have := bulk_objectsOf_lt value
    simp only [inner, bulk_append]
    split
    · simp [bulk] at ih ⊢; omega
    · simp at ih ⊢; omega

/-- Lists the pending objects and all objects inside them, each before the objects found later, in
front of `listed`. An object is found before the objects inside it, so it is listed behind them. -/
def agendaFrom (listed : List Object) (pending : List Object) : List Object :=
  match pending with
  | [] => listed
  | o :: rest => agendaFrom (o :: listed) ((inner o).reverse ++ rest)
termination_by bulk pending
decreasing_by
  have := bulk_inner_lt o
  have h : bulk (inner o).reverse = bulk (inner o) := by simp [bulk]
  rw [bulk_append, h]
  simp [bulk] at this ⊢
  omega

/-- The objects of a dump, each behind all objects inside it. -/
def agenda (o : Object) : List Object := agendaFrom [] [o]

/-! ## Objects to nodes -/

/-- Lays results out along the items of an array: an object takes the next one, and nothing becomes
of any other item. -/
def fillItems : List Json → List (Option Node) → List (Option Node)
  | [], _ => []
  | .obj _ :: rest, results => results.head?.join :: fillItems rest results.tail
  | _ :: rest, results => none :: fillItems rest results

/-- Lays the results of the objects directly inside an object out along its entries. -/
def fill : Object → List (Option Node) → List (Text × Entry)
  | [], _ => []
  | (key, value) :: rest, results =>
    if isPositionKey key then fill rest results
    else match value with
      | .obj _ => (key, .child results.head?.join) :: fill rest results.tail
      | .arr items =>
        (key, .children (fillItems items results)) ::
          fill rest (results.drop (objectsOf (.arr items)).length)
      | value => (key, .plain value) :: fill rest results

def childAt (key : Text) (entries : List (Text × Entry)) : Option Node :=
  match entries.lookup key with
  | some (.child node) => node
  | _ => none

/-- What became of the items under a key; no items where there is no list. -/
def childrenAt (key : Text) (entries : List (Text × Entry)) : List (Option Node) :=
  match entries.lookup key with
  | some (.children nodes) => nodes
  | _ => []

/-- The text under a key, whatever value is there, or the given one where there is none. -/
def textAt (key default : Text) (o : Object) : Text :=
  match Json.find? key o with
  | some v => v.display
  | none => default

/-- The truth of the value under a key; absence is no. -/
def flagAt (key : Text) (o : Object) : Bool := ((Json.find? key o).getD .null).truthy

def valueAt (key : Text) (o : Object) : Json := (Json.find? key o).getD .null

/-- The shape of an object of the given kind, from its own entries and what became of them. -/
def shapeOf (type : Text) (o : Object) (entries : List (Text × Entry)) : Shape :=
  let child (key : Text) := childAt key entries
  let children (key : Text) := childrenAt key entries
  let function (form : FunctionForm) : Shape :=
    .functionNode form (child "body") (children "params") (child "id") (flagAt "expression" o)
  let cls (form : ClassForm) : Shape :=
    .classNode form (child "body") (child "id") (child "superClass")
  match type.string? with
  | some "Program" => .program (children "body")
  | some "Identifier" => .identifier (textAt "name" "" o)
  | some "Literal" => .literal (valueAt "value" o) (valueAt "raw" o)
  | some "ThisExpression" => .thisExpression
  | some "MemberExpression" =>
    .memberExpression (child "object") (child "property") (flagAt "computed" o)
  | some "CallExpression" => .callExpression (child "callee") (children "arguments")
  | some "ObjectExpression" => .objectExpression (children "properties")
  | some "Property" =>
    .property (child "key") (child "value") (textAt "kind" "init" o) (flagAt "computed" o)
      (flagAt "shorthand" o) (flagAt "method" o)
  | some "FunctionExpression" => function .expression
  | some "ArrowFunctionExpression" => function .arrow
  | some "FunctionDeclaration" => function .declaration
  | some "ClassExpression" => cls .expression
  | some "ClassDeclaration" => cls .declaration
  | some "BlockStatement" => .blockStatement (children "body")
  | some "ClassBody" => .classBody (children "body")
  | some "MethodDefinition" =>
    .methodDefinition (child "key") (child "value") (textAt "kind" "method" o)
      (flagAt "static" o) (flagAt "computed" o)
  | some "ExpressionStatement" => .expressionStatement (child "expression")
  | some "AssignmentExpression" =>
    .assignmentExpression (textAt "operator" "=" o) (child "left") (child "right")
  | some "ReturnStatement" => .returnStatement (child "argument")
  | _ => .other type entries

/-- Hydrates one object, given what became of the objects directly inside it. -/
def assemble (file : Option Text) (o : Object) (results : List (Option Node)) :
    Except Range.CoordinateFault (Option Node) :=
  match Json.find? "type" o with
  | some (.str type) => do
    let range ← Range.ofEntries file o
    return some (.mk range (shapeOf type o (fill o results)))
  | _ => return none

/-- Hydrates listed objects in turn. The results of the objects directly inside the next one lie on
top of the stack, the last of them uppermost. -/
def build (file : Option Text) :
    List Object → List (Option Node) → Except Range.CoordinateFault (List (Option Node))
  | [], results => return results
  | o :: rest, results => do
    let count := (inner o).length
    let node ← assemble file o (results.take count).reverse
    build file rest (node :: results.drop count)

end AngularLint.Hydrate

namespace AngularLint.Node

/-- The tree that a dump describes, if it describes one. The file, where it is given, goes into
every range. -/
def hydrate (file : Option Text) : Json → Except Range.CoordinateFault (Option Node)
  | .obj o => return (← Hydrate.build file (Hydrate.agenda o) []).head?.join
  | _ => return none

end AngularLint.Node
