import AngularLint.Tree.Hydrate

/-!
# What a dump describes, by recursion

`Node.hydrate` works from the leaves up, with an agenda and a stack of results
(`Tree/Hydrate.lean`). This file says what it should come to, by going down the dump and nothing
else: `Node.ofDump` looks up the entries of an object by their keys and describes each of them in
turn. No list is laid out along another here, so nothing can slip: a child is what became of the
object *under its key*, and an item of a list is what became of the item *at its place*.

`Shape.declared` is the table of the kinds that have a shape of their own, field by field; for every
other kind it keeps the entries.
-/

set_option autoImplicit false

namespace AngularLint

open Hydrate

/-- The keys that say what kind of node an object is and where it stands. -/
def Hydrate.positionKeys : List Text := ["type", "loc", "range", "start", "end"]

theorem Hydrate.isPositionKey_iff (key : Text) : isPositionKey key = true ↔ key ∈ positionKeys := by
  simp only [isPositionKey, positionKeys, Bool.or_eq_true, beq_iff_eq, List.mem_cons,
    List.not_mem_nil, or_false, or_assoc]

theorem mem_of_lookup {β : Type} {key : Text} {entries : List (Text × β)} {v : β}
    (h : entries.lookup key = some v) : (key, v) ∈ entries := by
  rw [List.lookup_eq_some_iff] at h
  obtain ⟨before, after, rfl, -⟩ := h
  exact List.mem_append_right _ List.mem_cons_self

theorem lookup_map_snd {α β : Type} (f : α → β) (key : Text) (entries : List (Text × α)) :
    (entries.map fun e => (e.1, f e.2)).lookup key = (entries.lookup key).map f := by
  induction entries with
  | nil => rfl
  | cons e rest ih =>
    rw [List.map_cons, List.lookup_cons, List.lookup_cons, ih]
    cases key == e.1 <;> rfl

theorem Json.mem_of_find? {key : Text} {entries : List (Text × Json)} {v : Json}
    (h : Json.find? key entries = some v) : (key, v) ∈ entries :=
  mem_of_lookup h

/-- The shape of an object of the given kind. `child` and `children` say what became of the object
under a key, and of the items of the list under a key. -/
def Shape.declared (type : Text) (o : Object) (child : Text → Option Node)
    (children : Text → List (Option Node)) (entries : List (Text × Entry)) : Shape :=
  match type.string? with
  | some "Program" => .program (children "body")
  | some "Identifier" => .identifier (textAt "name" "" o)
  | some "Literal" => .literal (valueAt "value" o) (valueAt "raw" o)
  | some "ThisExpression" => .thisExpression
  | some "MemberExpression" =>
    .memberExpression (child "object") (child "property") (flagAt "computed" o)
  | some "CallExpression" => .callExpression (child "callee") (children "arguments")
  | some "ObjectExpression" => .objectExpression (children "properties")
  | some "Property" =>
    .property (child "key") (child "value") (textAt "kind" "init" o) (flagAt "computed" o)
      (flagAt "shorthand" o) (flagAt "method" o)
  | some "FunctionExpression" =>
    .functionNode .expression (child "body") (children "params") (child "id")
      (flagAt "expression" o)
  | some "ArrowFunctionExpression" =>
    .functionNode .arrow (child "body") (children "params") (child "id") (flagAt "expression" o)
  | some "FunctionDeclaration" =>
    .functionNode .declaration (child "body") (children "params") (child "id")
      (flagAt "expression" o)
  | some "ClassExpression" =>
    .classNode .expression (child "body") (child "id") (child "superClass")
  | some "ClassDeclaration" =>
    .classNode .declaration (child "body") (child "id") (child "superClass")
  | some "BlockStatement" => .blockStatement (children "body")
  | some "ClassBody" => .classBody (children "body")
  | some "MethodDefinition" =>
    .methodDefinition (child "key") (child "value") (textAt "kind" "method" o)
      (flagAt "static" o) (flagAt "computed" o)
  | some "ExpressionStatement" => .expressionStatement (child "expression")
  | some "AssignmentExpression" =>
    .assignmentExpression (textAt "operator" "=" o) (child "left") (child "right")
  | some "ReturnStatement" => .returnStatement (child "argument")
  | _ => .other type entries

theorem Shape.type_declared (type : Text) (o : Object) (child : Text → Option Node)
    (children : Text → List (Option Node)) (entries : List (Text × Entry)) :
    (declared type o child children entries).type = type := by
  unfold declared
  split
  -- Every kind of the table has the name that it is looked up by.
  all_goals first
    | rfl
    | exact (Text.string?_eq_some_iff.mp ‹_›).symm

namespace Node

theorem sizeOf_lt_of_mem_entries {key : Text} {value : Json} {o : Object} (h : (key, value) ∈ o) :
    sizeOf value < sizeOf o := by
  have := List.sizeOf_lt_of_mem h
  simp only [Prod.mk.sizeOf_spec] at this
  omega

theorem sizeOf_lt_of_find? {key : Text} {o : Object} {v : Json} (h : Json.find? key o = some v) :
    sizeOf v < sizeOf o :=
  sizeOf_lt_of_mem_entries (Json.mem_of_find? h)

/-- The range of an object, if its location gives one. -/
def rangeOf (file : Option Text) (o : Object) : Option Range :=
  match Range.ofEntries file o with
  | .ok range => range
  | .error _ => none

/-- The node that a value of a dump describes, if it describes one. -/
def ofDump (file : Option Text) : Json → Option Node
  | .obj o =>
    let child (key : Text) : Option Node :=
      match _h : Json.find? key o with
      | some (.obj inside) => ofDump file (.obj inside)
      | _ => none
    let children (key : Text) : List (Option Node) :=
      match _h : Json.find? key o with
      | some (.arr items) => items.attach.map fun ⟨item, _hitem⟩ => ofDump file item
      | _ => []
    let entry : {e // e ∈ o} → Option (Text × Entry) := fun ⟨(key, value), _hentry⟩ =>
      if key ∈ positionKeys then none
      else match _h : value with
        | .obj inside => some (key, .child (ofDump file (.obj inside)))
        | .arr items =>
          some (key, .children (items.attach.map fun ⟨item, _hitem⟩ => ofDump file item))
        | plain => some (key, .plain plain)
    match Json.find? "type" o with
    | some (.str type) =>
      some (.mk (rangeOf file o)
        (Shape.declared type o child children (o.attach.filterMap entry)))
    | _ => none
  | _ => none
termination_by v => sizeOf v
decreasing_by
  all_goals simp only [Json.obj.sizeOf_spec]
  · have := sizeOf_lt_of_find? _h
    simp only [Json.obj.sizeOf_spec] at this
    omega
  · have h₁ := sizeOf_lt_of_find? _h
    have h₂ := List.sizeOf_lt_of_mem _hitem
    simp only [Json.arr.sizeOf_spec] at h₁
    omega
  · subst _h
    have := sizeOf_lt_of_mem_entries _hentry
    simp only [Json.obj.sizeOf_spec] at this
    omega
  · subst _h
    have h₁ := sizeOf_lt_of_mem_entries _hentry
    have h₂ := List.sizeOf_lt_of_mem _hitem
    simp only [Json.arr.sizeOf_spec] at h₁
    omega

/-! ## Its equations -/

section
variable (file : Option Text) (o : Object)

/-- What became of the object under a key. -/
def childUnder (key : Text) : Option Node :=
  match Json.find? key o with
  | some (.obj inside) => ofDump file (.obj inside)
  | _ => none

/-- What became of the items of the list under a key. -/
def childrenUnder (key : Text) : List (Option Node) :=
  match Json.find? key o with
  | some (.arr items) => items.map (ofDump file)
  | _ => []

/-- What became of a value. -/
def entryOf : Json → Entry
  | .obj inside => .child (ofDump file (.obj inside))
  | .arr items => .children (items.map (ofDump file))
  | plain => .plain plain

/-- What became of an entry; nothing of those that hold no child. -/
def entryOf? (e : Text × Json) : Option (Text × Entry) :=
  if e.1 ∈ positionKeys then none else some (e.1, entryOf file e.2)

theorem ofDump_obj :
    ofDump file (.obj o) =
      match Json.find? "type" o with
      | some (.str type) =>
        some (.mk (rangeOf file o) (Shape.declared type o (childUnder file o)
          (childrenUnder file o) (o.filterMap (entryOf? file))))
      | _ => none := by
  have hitems (items : List Json) :
      (items.attach.map fun x => ofDump file x.1) = items.map (ofDump file) := List.attach_map_val
  rw [ofDump]
  dsimp only
  congr 1
  funext type
  congr 3
  · funext key
    unfold childUnder
    split <;> rename_i h <;> simp [h]
  · funext key
    unfold childrenUnder
    split <;> rename_i h <;> simp [h, hitems]
  · refine (List.filterMap_subtype (g := entryOf? file) fun e he => ?_).trans ?_
    · obtain ⟨key, value⟩ := e
      unfold entryOf?
      cases value <;> simp [entryOf, hitems]
    · rw [List.unattach_attach]

end

theorem ofDump_of_not_obj {file : Option Text} {v : Json} (h : ∀ o, v ≠ .obj o) :
    ofDump file v = none := by
  rw [ofDump]
  exact h

theorem childUnder_eq_bind (file : Option Text) (o : Object) (key : Text) :
    childUnder file o key = (Json.find? key o).bind (ofDump file) := by
  rw [childUnder]
  cases Json.find? key o with
  | none => rfl
  | some v =>
    cases v with
    | obj inside => rfl
    | _ => exact (ofDump_of_not_obj (by simp)).symm

end Node

end AngularLint
