import AngularLint.Proofs.Linter.Coverage

/-!
# Trees and dumps without positions

`Node.unplaced` takes the ranges out of a tree. A walk does not see the difference
(`visits_unplaced`).

`Json.unplaced` takes out of a dump what the ranges are read from, and leaves alone whatever only
looks like it: an object that is the value of a literal, one without a kind, and one under a key at
which its kind looks for no child stay as they are, with all entries. (It goes through lists within
lists too, in which no node is looked for. So somewhat more dumps count as the same.)

The two belong together: **`ofDump_unplaced`** says that a tree without its ranges is the tree of
the dump without its positions. The dump is gone down on both sides at once. That the entries which
say where a node stands are passed over in two ways, by name for a kind with a shape of its own and
one by one for any other, is seen in the last step, for one object.
-/

set_option autoImplicit false

namespace AngularLint

open Hydrate Dump

/-! ## Trees -/

mutual

/-- The tree without ranges. -/
def Node.unplaced : Node → Node
  | .mk _ shape => .mk none shape.unplaced

def Shape.unplaced : Shape → Shape
  | .program body => .program (unplacedChildren body)
  | .identifier name => .identifier name
  | .literal value raw => .literal value raw
  | .thisExpression => .thisExpression
  | .memberExpression object property computed =>
    .memberExpression (unplacedChild object) (unplacedChild property) computed
  | .callExpression callee arguments =>
    .callExpression (unplacedChild callee) (unplacedChildren arguments)
  | .objectExpression properties => .objectExpression (unplacedChildren properties)
  | .property key value kind computed shorthand method =>
    .property (unplacedChild key) (unplacedChild value) kind computed shorthand method
  | .functionNode form body params id expression =>
    .functionNode form (unplacedChild body) (unplacedChildren params) (unplacedChild id) expression
  | .classNode form body id superClass =>
    .classNode form (unplacedChild body) (unplacedChild id) (unplacedChild superClass)
  | .blockStatement body => .blockStatement (unplacedChildren body)
  | .classBody body => .classBody (unplacedChildren body)
  | .methodDefinition key value kind isStatic computed =>
    .methodDefinition (unplacedChild key) (unplacedChild value) kind isStatic computed
  | .expressionStatement expression => .expressionStatement (unplacedChild expression)
  | .assignmentExpression operator left right =>
    .assignmentExpression operator (unplacedChild left) (unplacedChild right)
  | .returnStatement argument => .returnStatement (unplacedChild argument)
  | .other type entries => .other type (unplacedEntries entries)

def Entry.unplaced : Entry → Entry
  | .child node => .child (unplacedChild node)
  | .children nodes => .children (unplacedChildren nodes)
  | .plain value => .plain value

def unplacedChild : Option Node → Option Node
  | none => none
  | some n => some n.unplaced

def unplacedChildren : List (Option Node) → List (Option Node)
  | [] => []
  | n :: rest => unplacedChild n :: unplacedChildren rest

def unplacedEntries : List (Text × Entry) → List (Text × Entry)
  | [] => []
  | (key, e) :: rest => (key, e.unplaced) :: unplacedEntries rest

end

@[simp] theorem unplacedChild_eq (n : Option Node) : unplacedChild n = n.map Node.unplaced := by
  cases n with
  | none => rfl
  | some n => rfl

@[simp] theorem unplacedChildren_eq (nodes : List (Option Node)) :
    unplacedChildren nodes = nodes.map (Option.map Node.unplaced) := by
  induction nodes with
  | nil => rfl
  | cons n rest ih => rw [unplacedChildren, unplacedChild_eq, ih, List.map_cons]

@[simp] theorem unplacedEntries_eq (entries : List (Text × Entry)) :
    unplacedEntries entries = entries.map fun e => (e.1, e.2.unplaced) := by
  induction entries with
  | nil => rfl
  | cons e rest ih => rw [unplacedEntries, ih, List.map_cons]

namespace Node

@[simp] theorem shape_unplaced (n : Node) : n.unplaced.shape = n.shape.unplaced := by
  cases n
  rfl

@[simp] theorem type_unplaced (n : Node) : n.unplaced.type = n.type := by
  obtain ⟨range, shape⟩ := n
  cases shape <;> rfl

theorem toList_map_unplaced (n : Option Node) :
    (n.map unplaced).toList = n.toList.map unplaced := by
  cases n with
  | none => rfl
  | some n => rfl

theorem filterMap_map_unplaced (nodes : List (Option Node)) :
    (nodes.map (Option.map unplaced)).filterMap id = (nodes.filterMap id).map unplaced := by
  rw [List.filterMap_map, List.map_filterMap]
  rfl

theorem nodes_unplaced (e : Entry) : e.unplaced.nodes = e.nodes.map unplaced := by
  cases e with
  | child n => rw [Entry.unplaced, Entry.nodes, unplacedChild_eq, toList_map_unplaced, Entry.nodes]
  | children nodes =>
    rw [Entry.unplaced, Entry.nodes, unplacedChildren_eq, filterMap_map_unplaced, Entry.nodes]
  | plain value => rfl

theorem childrenOf_unplaced (s : Shape) : childrenOf s.unplaced = (childrenOf s).map unplaced := by
  cases s with
  | other type entries =>
    simp only [Shape.unplaced, childrenOf, unplacedEntries_eq, List.flatMap_map, List.map_flatMap,
      nodes_unplaced]
  | _ =>
    simp only [Shape.unplaced, childrenOf, unplacedChild_eq, unplacedChildren_eq,
      toList_map_unplaced, filterMap_map_unplaced, List.map_append, List.map_nil]

theorem children_unplaced (n : Node) : n.unplaced.children = n.children.map unplaced := by
  rw [children, shape_unplaced, childrenOf_unplaced, children]

end Node

/-! ### Walks -/

def Visit.unplaced (v : Visit) : Visit := ⟨v.node.unplaced, v.ancestors.map Node.unplaced⟩

namespace Node

theorem preorder_unplaced (around : List Node) (n : Node) :
    n.unplaced.preorder (around.map unplaced) = (n.preorder around).map Visit.unplaced := by
  induction around, n using preorder.induct with
  | case1 around n ih =>
    have hchildren : n.children.flatMap
          (fun c => c.unplaced.preorder (around.map unplaced ++ [n.unplaced])) =
        n.children.flatMap fun c => (c.preorder (around ++ [n])).map Visit.unplaced := by
      refine List.flatMap_congr fun c hc => ?_
      rw [← ih c hc, List.map_append, List.map_singleton]
    rw [preorder_eq, preorder_eq, children_unplaced, List.flatMap_map, hchildren, List.map_cons,
      List.map_flatMap]
    rfl

/-- **A walk does not see the ranges.** -/
theorem visits_unplaced (n : Node) : n.unplaced.visits = n.visits.map Visit.unplaced := by
  rw [visits_eq_preorder, visits_eq_preorder]
  exact preorder_unplaced [] n

end Node

/-! ## Dumps -/

/-- The entries that say where a node stands. -/
def Dump.placeKeys : List Text := ["loc", "range", "start", "end"]

/-- Are the objects in the value, if there are any, children of an object of the given kind that
has the value under the given key? -/
def Dump.holdsChildren (type key : Text) (value : Json) : Bool :=
  match slots? type with
  | none => true
  | some slots =>
    match value with
    | .obj _ => slots.contains (.one key)
    | .arr _ => slots.contains (.many key)
    | _ => false

mutual

/-- The dump without the positions of the objects that become nodes. -/
def Json.unplaced : Json → Json
  | .obj o =>
    match kind? o with
    | some type => .obj (unplacedFields type o)
    | none => .obj o
  | .arr items => .arr (unplacedItems items)
  | value => value

def unplacedItems : List Json → List Json
  | [] => []
  | item :: rest => item.unplaced :: unplacedItems rest

def unplacedFields (type : Text) : List (Text × Json) → List (Text × Json)
  | [] => []
  | (key, value) :: rest =>
    if key ∈ placeKeys then unplacedFields type rest
    else (key, if holdsChildren type key value then value.unplaced else value) ::
      unplacedFields type rest

end

theorem unplacedItems_eq (items : List Json) : unplacedItems items = items.map Json.unplaced := by
  induction items with
  | nil => rfl
  | cons item rest ih => rw [unplacedItems, ih, List.map_cons]

/-- What becomes of a value under a key of an object of the given kind. -/
def unplacedValue (type key : Text) (value : Json) : Json :=
  if holdsChildren type key value then value.unplaced else value

theorem unplacedValue_of_not_mem {type key : Text} {slots : List Slot}
    (hslots : slots? type = some slots) (hone : .one key ∉ slots) (hmany : .many key ∉ slots)
    (value : Json) : unplacedValue type key value = value := by
  have hno : ¬holdsChildren type key value = true := by
    rw [holdsChildren, hslots]
    cases value with
    | obj o => exact fun h => hone (List.contains_iff_mem.mp h)
    | arr items => exact fun h => hmany (List.contains_iff_mem.mp h)
    | _ => exact Bool.false_ne_true
  rw [unplacedValue, if_neg hno]

/-- What stays of a field of an object of the given kind. -/
def unplacedField? (type : Text) (e : Text × Json) : Option (Text × Json) :=
  if e.1 ∈ placeKeys then none else some (e.1, unplacedValue type e.1 e.2)

theorem unplacedFields_eq (type : Text) (o : Object) :
    unplacedFields type o = o.filterMap (unplacedField? type) := by
  induction o with
  | nil => rfl
  | cons e rest ih =>
    rw [unplacedFields, List.filterMap_cons, ih, unplacedField?]
    split
    · rfl
    · rfl

theorem find?_unplacedFields (type : Text) {key : Text} (hkey : key ∉ placeKeys) (o : Object) :
    Json.find? key (unplacedFields type o) =
      (Json.find? key o).map (unplacedValue type key) := by
  induction o with
  | nil => rfl
  | cons e rest ih =>
    obtain ⟨k, v⟩ := e
    rw [unplacedFields, Json.find?, Json.find?, List.lookup_cons]
    by_cases hk : k ∈ placeKeys
    · -- What is taken out has another key.
      have hne : (key == k) = false := beq_false_of_ne fun h => hkey (h ▸ hk)
      rw [if_pos hk, hne]
      exact ih
    · rw [if_neg hk, List.lookup_cons]
      cases h : key == k with
      | false => exact ih
      | true =>
        rw [beq_iff_eq.mp h]
        rfl

theorem find?_unplacedFields_of_mem (type : Text) {key : Text} (hkey : key ∈ placeKeys)
    (o : Object) : Json.find? key (unplacedFields type o) = none := by
  induction o with
  | nil => rfl
  | cons e rest ih =>
    obtain ⟨k, v⟩ := e
    rw [unplacedFields]
    by_cases hk : k ∈ placeKeys
    · rw [if_pos hk]
      exact ih
    · -- What stays has another key.
      have hne : (key == k) = false := beq_false_of_ne fun h => hk (h ▸ hkey)
      rw [if_neg hk, Json.find?, List.lookup_cons, hne]
      exact ih

theorem find?_type_unplacedFields (type : Text) (o : Object) {type' : Text}
    (h : Json.find? "type" o = some (.str type')) :
    Json.find? "type" (unplacedFields type o) = some (.str type') := by
  rw [find?_unplacedFields type (by decide), h, Option.map_some, unplacedValue]
  split
  · rfl
  · rfl

/-! ### One object

A field is looked up in an object by its key: for a child, or for a value. Both ways find in the
object without positions what they should. -/

namespace Shape

variable {type : Text} {o o' : Object} {child child' : Text → Option Node}
  {children children' : Text → List (Option Node)} {entries entries' : List (Text × Entry)}

theorem unplaced_declared_of_slots {slots : List Slot} (hslots : slots? type = some slots)
    (hchild : ∀ key, .one key ∈ slots → child' key = (child key).map Node.unplaced)
    (hchildren : ∀ key, .many key ∈ slots →
      children' key = (children key).map (Option.map Node.unplaced))
    (hvalue : ∀ key ∉ placeKeys, .one key ∉ slots → .many key ∉ slots →
      Json.find? key o' = Json.find? key o) :
    declared type o' child' children' entries' =
      (declared type o child children entries).unplaced := by
  have htext (key default : Text) (hkey : key ∉ placeKeys) (hone : .one key ∉ slots)
      (hmany : .many key ∉ slots) : textAt key default o' = textAt key default o := by
    rw [textAt, textAt, hvalue key hkey hone hmany]
  have hflag (key : Text) (hkey : key ∉ placeKeys) (hone : .one key ∉ slots)
      (hmany : .many key ∉ slots) : flagAt key o' = flagAt key o := by
    rw [flagAt, flagAt, hvalue key hkey hone hmany]
  have hplain (key : Text) (hkey : key ∉ placeKeys) (hone : .one key ∉ slots)
      (hmany : .many key ∉ slots) : valueAt key o' = valueAt key o := by
    rw [valueAt, valueAt, hvalue key hkey hone hmany]
  unfold slots? at hslots
  split at hslots <;> cases hslots
  -- One case for each kind of the table, with its name.
  all_goals
    rename_i hname
    rw [declared, declared, hname]
    simp (disch := decide) only [Shape.unplaced, unplacedChild_eq, unplacedChildren_eq, hchild,
      hchildren, htext, hflag, hplain]

end Shape

namespace Json

theorem unplaced_obj_of_some {o : Object} {type : Text} (h : kind? o = some type) :
    (Json.obj o).unplaced = .obj (unplacedFields type o) := by
  rw [unplaced, h]

theorem unplaced_obj_of_none {o : Object} (h : kind? o = none) :
    (Json.obj o).unplaced = .obj o := by
  rw [unplaced, h]

/-- An object stays an object. -/
theorem exists_unplaced_obj (o : Object) : ∃ o', (Json.obj o).unplaced = .obj o' := by
  cases h : kind? o with
  | none => exact ⟨o, unplaced_obj_of_none h⟩
  | some type => exact ⟨unplacedFields type o, unplaced_obj_of_some h⟩

end Json

namespace Node

section
variable {file : Option Text} {o : Object} {type : Text}

theorem rangeOf_unplacedFields (type : Text) (o : Object) :
    rangeOf none (unplacedFields type o) = none := by
  rw [rangeOf, Range.ofEntries, find?_unplacedFields_of_mem type (by decide)]

/-- No field for children says where a node stands. -/
theorem placeless {slots : List Slot} (hslots : slots? type = some slots) {slot : Slot}
    (hslot : slot ∈ slots) : slot.key ∉ placeKeys := by
  intro hkey
  exact (slots?_keys hslots).1 slot hslot (List.mem_cons_of_mem _ hkey)

theorem map_ofDump_unplacedItems {items : List Json}
    (h : ∀ item ∈ items, ofDump none item.unplaced = (ofDump file item).map unplaced) :
    (unplacedItems items).map (ofDump none) =
      (items.map (ofDump file)).map (Option.map unplaced) := by
  rw [unplacedItems_eq, List.map_map, List.map_map]
  exact List.map_congr_left h

theorem entryOf_unplaced {v : Json}
    (h : ∀ w, sizeOf w ≤ sizeOf v → ofDump none w.unplaced = (ofDump file w).map unplaced) :
    entryOf none v.unplaced = (entryOf file v).unplaced := by
  cases v with
  | obj inside =>
    obtain ⟨o', ho'⟩ := Json.exists_unplaced_obj inside
    rw [ho', entryOf, entryOf, ← ho', h _ (Nat.le_refl _), Entry.unplaced, unplacedChild_eq]
  | arr items =>
    rw [Json.unplaced, entryOf, entryOf, Entry.unplaced, unplacedChildren_eq,
      map_ofDump_unplacedItems]
    intro item hitem
    apply h
    have := List.sizeOf_lt_of_mem hitem
    simp only [Json.arr.sizeOf_spec]
    omega
  | _ => rfl

theorem childUnder_unplacedFields {slots : List Slot} (hslots : slots? type = some slots)
    {key : Text} (hslot : .one key ∈ slots)
    (h : ∀ v, sizeOf v < sizeOf o → ofDump none v.unplaced = (ofDump file v).map unplaced) :
    childUnder none (unplacedFields type o) key = (childUnder file o key).map unplaced := by
  have hkey : key ∉ placeKeys := placeless hslots hslot
  rw [childUnder_eq_bind, childUnder_eq_bind, find?_unplacedFields type hkey]
  cases hfind : Json.find? key o with
  | none => rfl
  | some v =>
    show ofDump none (unplacedValue type key v) = (ofDump file v).map unplaced
    have hv := h v (sizeOf_lt_of_find? hfind)
    rw [unplacedValue]
    split
    · exact hv
    · rename_i hno
      -- A value that holds no child under such a key is no object.
      cases v with
      | obj inside =>
        rw [holdsChildren, hslots] at hno
        exact absurd (List.contains_iff_mem.mpr hslot) hno
      | _ =>
        rw [ofDump_of_not_obj (by simp), ofDump_of_not_obj (by simp)]
        rfl

theorem childrenUnder_unplacedFields {slots : List Slot} (hslots : slots? type = some slots)
    {key : Text} (hslot : .many key ∈ slots)
    (h : ∀ v, sizeOf v < sizeOf o → ofDump none v.unplaced = (ofDump file v).map unplaced) :
    childrenUnder none (unplacedFields type o) key =
      (childrenUnder file o key).map (Option.map unplaced) := by
  have hkey : key ∉ placeKeys := placeless hslots hslot
  rw [childrenUnder, childrenUnder, find?_unplacedFields type hkey]
  cases hfind : Json.find? key o with
  | none => rfl
  | some v =>
    rw [Option.map_some, unplacedValue]
    cases v with
    | arr items =>
      have hholds : holdsChildren type key (.arr items) = true := by
        rw [holdsChildren, hslots]
        exact List.contains_iff_mem.mpr hslot
      rw [if_pos hholds]
      apply map_ofDump_unplacedItems
      intro item hitem
      apply h
      have h₁ := sizeOf_lt_of_find? hfind
      have h₂ := List.sizeOf_lt_of_mem hitem
      simp only [Json.arr.sizeOf_spec] at h₁
      omega
    | obj inside =>
      -- No list, and no list after the positions are gone either.
      obtain ⟨o', ho'⟩ := Json.exists_unplaced_obj inside
      rw [ho']
      cases holdsChildren type key (.obj inside) <;> rfl
    | _ =>
      rw [holdsChildren, hslots]
      rfl

/-- A kind without a shape of its own keeps what became of all other entries. -/
theorem entries_unplacedFields (hslots : slots? type = none)
    (h : ∀ v, sizeOf v < sizeOf o → ofDump none v.unplaced = (ofDump file v).map unplaced) :
    (unplacedFields type o).filterMap (entryOf? none) =
      (o.filterMap (entryOf? file)).map fun e => (e.1, e.2.unplaced) := by
  rw [unplacedFields_eq, List.filterMap_filterMap, List.map_filterMap]
  refine List.filterMap_congr fun e he => ?_
  obtain ⟨key, v⟩ := e
  rw [unplacedField?, entryOf?]
  dsimp only
  by_cases hplace : key ∈ placeKeys
  · -- Taken out of the one dump, and passed over in the other.
    have hkey : key ∈ positionKeys := List.mem_cons_of_mem _ hplace
    rw [if_pos hplace, if_pos hkey]
    rfl
  · rw [if_neg hplace]
    show entryOf? none (key, unplacedValue type key v) = _
    rw [entryOf?]
    by_cases hkey : key ∈ positionKeys
    · -- The kind, which stays in both dumps and is passed over in both.
      rw [if_pos hkey, if_pos hkey]
      rfl
    · have hholds : holdsChildren type key v = true := by rw [holdsChildren, hslots]
      have hv : sizeOf v < sizeOf o := sizeOf_lt_of_mem_entries he
      rw [if_neg hkey, if_neg hkey, Option.map_some, unplacedValue, if_pos hholds,
        entryOf_unplaced fun w hw => h w (Nat.lt_of_le_of_lt hw hv)]

end

/-- **A tree without its ranges is the tree of the dump without its positions.** -/
theorem ofDump_unplaced (file : Option Text) (v : Json) :
    ofDump none v.unplaced = (ofDump file v).map unplaced := by
  -- Down the dump. That it holds inside an object (`hinside`) is what the lemmas on fields need.
  induction hsize : sizeOf v using Nat.strongRecOn generalizing v with
  | ind size ih =>
    subst hsize
    cases v with
    | obj o =>
      have hinside (v : Json) (hv : sizeOf v < sizeOf o) :
          ofDump none v.unplaced = (ofDump file v).map unplaced := by
        refine ih _ ?_ v rfl
        simp only [Json.obj.sizeOf_spec]
        omega
      cases hkind : kind? o with
      | none =>
        -- No node, whatever the positions are.
        have hnone (file : Option Text) : ofDump file (.obj o) = none :=
          (result_eq_none_iff file).mpr hkind
        rw [Json.unplaced_obj_of_none hkind, hnone, hnone]
        rfl
      | some type =>
        have htype := kind?_eq_some_iff.mp hkind
        rw [Json.unplaced_obj_of_some hkind, ofDump_obj, ofDump_obj, htype,
          find?_type_unplacedFields type o htype]
        show some _ = some (Node.mk none _)
        rw [rangeOf_unplacedFields]
        -- Entries are gone through one by one, or looked up by name.
        cases hslots : slots? type with
        | none =>
          rw [Shape.declared_of_slots?_eq_none _ _ _ _ hslots,
            Shape.declared_of_slots?_eq_none _ _ _ _ hslots, entries_unplacedFields hslots hinside,
            Shape.unplaced, unplacedEntries_eq]
        | some slots =>
          rw [Shape.unplaced_declared_of_slots hslots]
          · exact fun key hslot => childUnder_unplacedFields hslots hslot hinside
          · exact fun key hslot => childrenUnder_unplacedFields hslots hslot hinside
          · intro key hkey hone hmany
            rw [find?_unplacedFields type hkey,
              funext (unplacedValue_of_not_mem hslots hone hmany), Option.map_id']
    | _ =>
      refine (ofDump_of_not_obj (by simp [Json.unplaced])).trans ?_
      rw [ofDump_of_not_obj (by simp)]
      rfl

theorem map_unplaced_of_hydrate {file : Option Text} {raw : Json} {tree : Option Node}
    (h : hydrate file raw = .ok tree) : tree.map unplaced = ofDump none raw.unplaced := by
  rw [ofDump_unplaced file]
  cases raw with
  | obj o => rw [((hydrate_eq_ok_iff file o tree).mp h).2]
  | _ => rw [ofDump_of_not_obj (by simp), ← Except.ok.inj h]

end Node

end AngularLint
