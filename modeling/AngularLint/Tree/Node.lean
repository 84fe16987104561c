import AngularLint.Tree.Range

/-!
# Syntax trees

The nodes of a JavaScript syntax tree, named as ESTree names them. The kinds that the rules look
into have a shape of their own. Every other kind keeps its entries in the order of its dump, so that
a walk still reaches the nodes below it.

A child may be missing, as the callee of a call whose dump has none, or a hole in a list of array
elements; lists keep their holes, so that positions stay what they are in the dump.
-/

set_option autoImplicit false

namespace AngularLint

/-- The three ways to write a function. -/
inductive FunctionForm where
  | expression
  | arrow
  | declaration

def FunctionForm.type : FunctionForm → Text
  | .expression => "FunctionExpression"
  | .arrow => "ArrowFunctionExpression"
  | .declaration => "FunctionDeclaration"

/-- The two ways to write a class. -/
inductive ClassForm where
  | expression
  | declaration

def ClassForm.type : ClassForm → Text
  | .expression => "ClassExpression"
  | .declaration => "ClassDeclaration"

mutual

/-- A node: what it covers of its source file, if that is known, and what it is. -/
inductive Node where
  | mk (range : Option Range) (shape : Shape)

/-- What a node is. -/
inductive Shape where
  | program (body : List (Option Node))
  | identifier (name : Text)
  | literal (value raw : Json)
  | thisExpression
  | memberExpression (object property : Option Node) (computed : Bool)
  | callExpression (callee : Option Node) (arguments : List (Option Node))
  | objectExpression (properties : List (Option Node))
  | property (key value : Option Node) (kind : Text) (computed shorthand method : Bool)
  | functionNode (form : FunctionForm) (body : Option Node) (params : List (Option Node))
      (id : Option Node) (expression : Bool)
  | classNode (form : ClassForm) (body id superClass : Option Node)
  | blockStatement (body : List (Option Node))
  | classBody (body : List (Option Node))
  | methodDefinition (key value : Option Node) (kind : Text) (isStatic computed : Bool)
  | expressionStatement (expression : Option Node)
  | assignmentExpression (operator : Text) (left right : Option Node)
  | returnStatement (argument : Option Node)
  | other (type : Text) (entries : List (Text × Entry))

/-- An entry of a node without a shape of its own. -/
inductive Entry where
  | child (node : Option Node)
  | children (nodes : List (Option Node))
  | plain (value : Json)

end

namespace Shape

def type : Shape → Text
  | program _ => "Program"
  | identifier _ => "Identifier"
  | literal _ _ => "Literal"
  | thisExpression => "ThisExpression"
  | memberExpression _ _ _ => "MemberExpression"
  | callExpression _ _ => "CallExpression"
  | objectExpression _ => "ObjectExpression"
  | property _ _ _ _ _ _ => "Property"
  | functionNode form _ _ _ _ => form.type
  | classNode form _ _ _ => form.type
  | blockStatement _ => "BlockStatement"
  | classBody _ => "ClassBody"
  | methodDefinition _ _ _ _ _ => "MethodDefinition"
  | expressionStatement _ => "ExpressionStatement"
  | assignmentExpression _ _ _ => "AssignmentExpression"
  | returnStatement _ => "ReturnStatement"
  | other type _ => type

/-- What messages call the shape: its kind, or one name for all functions, all classes and all kinds
without a shape of their own. -/
def variant : Shape → Text
  | functionNode _ _ _ _ _ => "FunctionNode"
  | classNode _ _ _ _ => "ClassNode"
  | other _ _ => "OtherNode"
  | shape => shape.type

end Shape

def Entry.nodes : Entry → List Node
  | child node => node.toList
  | children nodes => nodes.filterMap id
  | plain _ => []

namespace Node

def range : Node → Option Range
  | mk range _ => range

def shape : Node → Shape
  | mk _ shape => shape

def type (n : Node) : Text := n.shape.type

/-- The nodes directly below a shape, in the order of the source text; below a kind without a shape
of its own, in the order of its entries. -/
def childrenOf : Shape → List Node
  | .program body => body.filterMap id
  | .identifier _ => []
  | .literal _ _ => []
  | .thisExpression => []
  | .memberExpression object property _ => object.toList ++ property.toList
  | .callExpression callee arguments => callee.toList ++ arguments.filterMap id
  | .objectExpression properties => properties.filterMap id
  | .property key value _ _ _ _ => key.toList ++ value.toList
  | .functionNode _ body params id' _ => id'.toList ++ params.filterMap id ++ body.toList
  | .classNode _ body id' superClass => id'.toList ++ superClass.toList ++ body.toList
  | .blockStatement body => body.filterMap id
  | .classBody body => body.filterMap id
  | .methodDefinition key value _ _ _ => key.toList ++ value.toList
  | .expressionStatement expression => expression.toList
  | .assignmentExpression _ left right => left.toList ++ right.toList
  | .returnStatement argument => argument.toList
  | .other _ entries => entries.flatMap fun e => e.2.nodes

def children (n : Node) : List Node := childrenOf n.shape

/-! ## A node is larger than its children -/

theorem sizeOf_lt_of_mem_toList {c : Node} {o : Option Node} (h : c ∈ o.toList) :
    sizeOf c < sizeOf o := by
  cases o with
  | none => simp at h
  | some n => simp at h; subst h; simp

theorem sizeOf_lt_of_mem_filterMap {c : Node} {l : List (Option Node)}
    (h : c ∈ l.filterMap id) : sizeOf c < sizeOf l := by
  simp only [List.mem_filterMap, id_eq, exists_eq_right] at h
  have := List.sizeOf_lt_of_mem h
  simp at this
  omega

theorem sizeOf_lt_of_mem_nodes {c : Node} {e : Entry} (h : c ∈ e.nodes) :
    sizeOf c < sizeOf e := by
  cases e with
  | child node => have := sizeOf_lt_of_mem_toList (o := node) h; simp; omega
  | children nodes => have := sizeOf_lt_of_mem_filterMap (l := nodes) h; simp; omega
  | plain value => simp [Entry.nodes] at h

theorem sizeOf_lt_of_mem_childrenOf {c : Node} {s : Shape} (h : c ∈ childrenOf s) :
    sizeOf c < sizeOf s := by
  cases s <;> simp only [childrenOf, List.mem_append, List.not_mem_nil, List.mem_flatMap] at h
  case other type entries =>
    obtain ⟨e, he, hc⟩ := h
    have h₁ := List.sizeOf_lt_of_mem he
    have h₂ := sizeOf_lt_of_mem_nodes hc
    have h₃ : sizeOf e = 1 + sizeOf e.1 + sizeOf e.2 := by cases e; simp
    simp
    omega
  all_goals
    simp
    grind [→ sizeOf_lt_of_mem_toList, → sizeOf_lt_of_mem_filterMap]

theorem sizeOf_lt_of_mem_children {c n : Node} (h : c ∈ n.children) : sizeOf c < sizeOf n := by
  cases n with
  | mk r s =>
    have := sizeOf_lt_of_mem_childrenOf (s := s) h
    simp only [mk.sizeOf_spec]
    omega

end Node

end AngularLint
