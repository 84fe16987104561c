import AngularLint.Proofs.Tree.Lookup
import AngularLint.Tree.Path

/-!
# One path in a dump and in its tree

A path leads through a dump by the fields of its objects, and through the tree of the dump by the
fields of its nodes. `Route` says which ways down a dump there are: into an object of a kind with a
shape of its own by a field that holds children, into an object of any other kind by any field that
is not about its kind or its position, and into a list by position.

Such a way is there in the tree as well, and ends at what became of the object that it leads to
(**`follow?_spelled`**). But not every field has the same name there. What a class extends is called
otherwise, and a node without a shape of its own answers to some names by itself, so that its
entries under these are only found among all its entries. `spelled` puts a path into the names of
nodes; where no step is renamed, it is the path itself (`spelled_eq_self`).

The proof goes along the route, with what became of a value, `Node.entryOf`, on the one side and the
value on the other; a field is one step or two (`follow?_spelling`), an item is always one.
-/

set_option autoImplicit false

namespace AngularLint

open Hydrate Dump

/-! ## Ways down a dump -/

/-- Is an object of the kind entered by the field with the name and the value? A field for a child
has an object, and a field for children has a list. -/
def Enters (type name : Text) (value : Json) : Prop :=
  match slots? type with
  | some slots =>
    (.one name ∈ slots ∧ ∃ inside, value = .obj inside) ∨
      (.many name ∈ slots ∧ ∃ items, value = .arr items)
  | none => name ∉ positionKeys

theorem not_mem_positionKeys_of_enters {type name : Text} {value : Json}
    (h : Enters type name value) : name ∉ positionKeys := by
  rw [Enters] at h
  cases hslots : slots? type with
  | none =>
    rw [hslots] at h
    exact h
  | some slots =>
    rw [hslots] at h
    rcases h with ⟨hslot, -⟩ | ⟨hslot, -⟩
    · exact (slots?_keys hslots).1 _ hslot
    · exact (slots?_keys hslots).1 _ hslot

/-- Does the path lead down from the value to the object, which has a kind? -/
inductive Route : Json → List Key → Object → Prop
  | here {o : Object} {type : Text} (kind : kind? o = some type) : Route (.obj o) [] o
  | field {o target : Object} {type name : Text} {v : Json} {path : List Key}
      (kind : kind? o = some type) (found : Json.find? name o = some v)
      (enters : Enters type name v) (rest : Route v path target) :
      Route (.obj o) (.field name :: path) target
  | item {items : List Json} (index : Nat) {o target : Object} {path : List Key}
      (found : items[index]? = some (.obj o)) (rest : Route (.obj o) path target) :
      Route (.arr items) (.position index :: path) target

/-! ## The names of nodes -/

/-- The steps into a field of an object of the kind, under the names that its node answers to. -/
def spelling (type name : Text) : List Key :=
  match slots? type with
  | some _ => if name = "superClass" then [.field "super_class"] else [.field name]
  | none => if Node.isCommonName name then [.field "children", .field name] else [.field name]

/-- The kind of an object, if the value is one that has a kind. -/
def kindOf? : Json → Option Text
  | .obj o => kind? o
  | _ => none

/-- What a step leads to in a dump; nothing is null. -/
def inDump (v : Json) : Key → Json
  | .field name => (v.get? name).getD .null
  | .position i =>
    match v with
    | .arr items => (items[i.toNat]?).getD .null
    | _ => .null

/-- A step from a value of a dump, under the names of nodes. -/
def spelledStep (v : Json) : Key → List Key
  | .field name =>
    match kindOf? v with
    | some type => spelling type name
    | none => [.field name]
  | .position i => [.position i]

/-- A path down a dump, under the names of nodes. -/
def spelled (v : Json) : List Key → List Key
  | [] => []
  | key :: path => spelledStep v key ++ spelled (inDump v key) path

/-- The field by which a step goes into an object, and the kind of the object. -/
def fieldOf? (v : Json) : Key → Option (Text × Text)
  | .field name => (kindOf? v).map fun type => (type, name)
  | .position _ => none

/-- The fields along a path down a dump. -/
def fieldsAlong (v : Json) : List Key → List (Text × Text)
  | [] => []
  | key :: path => (fieldOf? v key).toList ++ fieldsAlong (inDump v key) path

/-- Does a node of the kind know the field by another name? -/
def IsRenamed (type name : Text) : Prop :=
  (slots? type ≠ none ∧ name = "superClass") ∨
    (slots? type = none ∧ Node.isCommonName name = true)

theorem spelling_eq_self {type name : Text} (h : ¬IsRenamed type name) :
    spelling type name = [.field name] := by
  rw [spelling]
  cases hslots : slots? type with
  | some slots => exact if_neg fun hname => h (.inl ⟨by simp [hslots], hname⟩)
  | none => exact if_neg fun hname => h (.inr ⟨hslots, hname⟩)

/-- Where no step is renamed, a path is the same in either. -/
theorem spelled_eq_self {v : Json} {path : List Key}
    (h : ∀ f ∈ fieldsAlong v path, ¬IsRenamed f.1 f.2) : spelled v path = path := by
  induction path generalizing v with
  | nil => rfl
  | cons key path ih =>
    have hstep : spelledStep v key = [key] := by
      cases key with
      | position i => rfl
      | field name =>
        rw [spelledStep]
        cases hkind : kindOf? v with
        | none => rfl
        | some type =>
          refine spelling_eq_self (h (type, name) (List.mem_append_left _ ?_))
          rw [fieldOf?, hkind]
          exact List.mem_singleton_self _
    rw [spelled, hstep, ih fun f hf => h f (List.mem_append_right _ hf)]
    rfl

/-! ## One step -/

section
variable {type : Text} (range : Option Range) (o : Object) (child : Text → Option Node)
  (children : Text → List (Option Node)) (entries : List (Text × Entry))

/-- What stands in a field for children. -/
def Slot.value : Slot → Value
  | .one key => .ofChild (child key)
  | .many key => .nodes (children key)

/-- A field of a kind with a shape of its own is found under its name in the table of the shape. -/
theorem get?_slot {slots : List Slot} (h : slots? type = some slots) {slot : Slot}
    (hslot : slot ∈ slots) :
    (Node.mk range (Shape.declared type o child children entries)).get?
        (if slot.key = "superClass" then "super_class" else slot.key) =
      some (slot.value child children) := by
  unfold slots? at h
  split at h <;> cases h
  all_goals
    rename_i hname
    rw [Shape.declared, hname]
    simp only [List.mem_cons, List.not_mem_nil, or_false] at hslot
  all_goals
    rcases hslot with rfl | rfl | rfl
  all_goals rfl

theorem get?_superClass {slots : List Slot} (h : slots? type = some slots) :
    (Node.mk range (Shape.declared type o child children entries)).get? "superClass" = none := by
  unfold slots? at h
  split at h <;> cases h
  all_goals
    rename_i hname
    rw [Shape.declared, hname]
    rfl

theorem get?_entry {name : Text} (hname : Node.isCommonName name = false) :
    (Node.mk range (.other type entries)).get? name = (entries.lookup name).map Entry.value := by
  rw [Node.get?, Node.shape, hname]

end

namespace Value

/-- Goes on from what a step leads to, unless that is absent. -/
def onward (v : Value) (path : List Key) : Option Value := v.present?.bind (·.follow? path)

theorem onward_ofChild_some (n : Node) (path : List Key) :
    (ofChild (some n)).onward path = (node n).follow? path := rfl

theorem onward_nodes (nodes : List (Option Node)) (path : List Key) :
    (Value.nodes nodes).onward path = (Value.nodes nodes).follow? path := rfl

theorem follow?_field {n : Node} {name : Text} {v : Value} (h : n.get? name = some v)
    (path : List Key) : (node n).follow? (.field name :: path) = v.onward path := by
  rw [follow?, step?, h, Option.bind_some, onward]

theorem follow?_position (nodes : List (Option Node)) (index : Nat) (path : List Key) :
    (Value.nodes nodes).follow? (.position index :: path) =
      (nodes[index]?).bind fun child => (ofChild child).onward path := by
  rw [follow?, Node.step?_natCast, Option.bind_assoc]
  rfl

end Value

namespace Node

/-- The table of a shape and the dump agree on what stands in a field. -/
theorem exists_slot_of_enters {type : Text} {slots : List Slot} (hslots : slots? type = some slots)
    (file : Option Text) {o : Object} {name : Text} {v : Json} (hfound : Json.find? name o = some v)
    (henters : Enters type name v) :
    ∃ slot ∈ slots, slot.key = name ∧
      slot.value (childUnder file o) (childrenUnder file o) = (entryOf file v).value := by
  rw [Enters, hslots] at henters
  rcases henters with ⟨hslot, inside, rfl⟩ | ⟨hslot, items, rfl⟩
  · refine ⟨_, hslot, rfl, ?_⟩
    rw [Slot.value, childUnder, hfound, entryOf, Entry.value]
  · refine ⟨_, hslot, rfl, ?_⟩
    rw [Slot.value, childrenUnder, hfound, entryOf, Entry.value]

/-- A field of an object leads to what became of its value, under the name that the node answers
to. -/
theorem follow?_spelling {file : Option Text} {o : Object} {type name : Text} {v : Json} {n : Node}
    (hkind : kind? o = some type) (hn : ofDump file (.obj o) = some n)
    (hfound : Json.find? name o = some v) (henters : Enters type name v) (path : List Key) :
    (Value.node n).follow? (spelling type name ++ path) = (entryOf file v).value.onward path := by
  rw [ofDump_obj, kind?_eq_some_iff.mp hkind] at hn
  obtain rfl := Option.some.inj hn
  cases hslots : slots? type with
  | some slots =>
    obtain ⟨slot, hslot, rfl, hvalue⟩ := exists_slot_of_enters hslots file hfound henters
    have hget := get?_slot (rangeOf file o) o (childUnder file o) (childrenUnder file o)
      (o.filterMap (entryOf? file)) hslots hslot
    rw [hvalue] at hget
    rw [spelling, hslots]
    dsimp only
    split at hget
    · rename_i hname
      rw [if_pos hname]
      exact Value.follow?_field hget path
    · rename_i hname
      rw [if_neg hname]
      exact Value.follow?_field hget path
  | none =>
    rw [Enters, hslots] at henters
    have hlookup : (o.filterMap (entryOf? file)).lookup name = some (entryOf file v) := by
      rw [lookup_filterMap_entryOf? file henters, hfound, Option.map_some]
    rw [Shape.declared_of_slots?_eq_none _ _ _ _ hslots, spelling, hslots]
    dsimp only
    split
    · show (((o.filterMap (entryOf? file)).lookup name).bind (·.value.present?)).bind _ = _
      rw [hlookup]
      rfl
    · rename_i hname
      refine Value.follow?_field ?_ path
      rw [get?_entry _ _ (Bool.eq_false_iff.mpr hname), hlookup, Option.map_some]

/-- What the paths into the node of an object of the kind lead to: one step down the dump under the
names of nodes, and the steps under names that the node has for something else. -/
structure Reads (file : Option Text) (o : Object) (type : Text) (n : Node) : Prop where
  entered {name : Text} {v : Json} (found : Json.find? name o = some v)
    (enters : Enters type name v) (path : List Key) :
    (Value.node n).follow? (spelling type name ++ path) = (entryOf file v).value.onward path
  kindless {name : Text} {items : List Json} (found : Json.find? name o = some (.arr items))
    (enters : Enters type name (.arr items)) {index : Nat} {item : Json}
    (isItem : items[index]? = some item) (isKindless : kindOf? item = none) (path : List Key) :
    (Value.node n).follow? (spelling type name ++ .position index :: path) = none
  superClass (own : slots? type ≠ none) (path : List Key) :
    (Value.node n).follow? (.field "superClass" :: path) = none
  children (other : slots? type = none) (path : List Key) :
    (Value.node n).follow? (.field "children" :: path) =
      (Value.entries (o.filterMap (entryOf? file))).follow? path
  sourceRange (other : slots? type = none) (path : List Key) :
    (Value.node n).follow? (.field "source_range" :: path) = n.rangeValue.onward path

theorem ofDump_eq_none_of_kindOf? {file : Option Text} {v : Json} (h : kindOf? v = none) :
    ofDump file v = none := by
  cases v with
  | obj o => exact (result_eq_none_iff file).mpr h
  | _ => rw [ofDump]; simp

theorem reads_of_ofDump {file : Option Text} {o : Object} {type : Text} {n : Node}
    (hkind : kind? o = some type) (hn : ofDump file (.obj o) = some n) : n.Reads file o type := by
  have hshape := hn
  rw [ofDump_obj, kind?_eq_some_iff.mp hkind] at hshape
  obtain rfl := Option.some.inj hshape
  refine ⟨follow?_spelling hkind hn, ?_, ?_, ?_, ?_⟩
  · intro name items found enters index item isItem isKindless path
    rw [follow?_spelling hkind hn found enters, entryOf, Entry.value, Value.onward_nodes,
      Value.follow?_position, List.getElem?_map, isItem, Option.map_some, Option.bind_some,
      ofDump_eq_none_of_kindOf? isKindless]
    rfl
  · intro own path
    obtain ⟨slots, hslots⟩ := Option.ne_none_iff_exists'.mp own
    rw [Value.follow?, Value.step?, get?_superClass _ _ _ _ _ hslots]
    rfl
  · intro other path
    rw [Shape.declared_of_slots?_eq_none _ _ _ _ other]
    rfl
  · intro other path
    rw [Shape.declared_of_slots?_eq_none _ _ _ _ other]
    rfl

end Node

/-! ## The whole way -/

theorem exists_ofDump (file : Option Text) {o : Object} {type : Text} (h : kind? o = some type) :
    ∃ n, Node.ofDump file (.obj o) = some n := by
  obtain ⟨n, hn, -⟩ := result_eq_some file h
  exact ⟨n, hn⟩

namespace Route

theorem kind?_target {v : Json} {path : List Key} {target : Object} (h : Route v path target) :
    ∃ type, kind? target = some type := by
  induction h with
  | here kind => exact ⟨_, kind⟩
  | field _ _ _ _ ih => exact ih
  | item _ _ _ ih => exact ih

theorem kind?_source {o target : Object} {path : List Key} (h : Route (.obj o) path target) :
    ∃ type, kind? o = some type := by
  cases h with
  | here kind => exact ⟨_, kind⟩
  | field kind _ _ _ => exact ⟨_, kind⟩

/-- In the dump the path leads to the object. -/
theorem follow?_plain {v : Json} {path : List Key} {target : Object} (h : Route v path target) :
    (Value.plain v).follow? path = some (.plain (.obj target)) ∧
      (Value.plain v).present? = some (.plain v) := by
  induction h with
  | here kind => exact ⟨rfl, rfl⟩
  | field kind found enters rest ih =>
    refine ⟨?_, rfl⟩
    rw [Value.follow?, Value.step?, found, Option.bind_some, ih.2, Option.bind_some, ih.1]
  | @item items index o target path found rest ih =>
    refine ⟨?_, rfl⟩
    rw [Value.follow?, Node.step?_natCast]
    dsimp only
    rw [found, Option.bind_some, ih.2, Option.bind_some, ih.1]

/-- Hydration goes through all that is inside the object on its way through the value. -/
theorem mem_postorder {v : Json} {path : List Key} {target p : Object} (h : Route v path target)
    (hp : p ∈ postorder target) : p ∈ (objectsOf v).flatMap postorder := by
  induction h with
  | here kind => exact List.mem_flatMap.mpr ⟨_, List.mem_singleton_self _, hp⟩
  | @field o target type name v path kind found enters rest ih =>
    obtain ⟨c, hc, hpc⟩ := List.mem_flatMap.mp (ih hp)
    have hinner : c ∈ inner o := mem_inner.mpr
      ⟨name, v, Json.mem_of_find? found, not_mem_positionKeys_of_enters enters, hc⟩
    exact List.mem_flatMap.mpr
      ⟨o, List.mem_singleton_self o, mem_postorder_of_mem_inner hinner hpc⟩
  | @item items index o target path found rest ih =>
    obtain ⟨c, hc, hpc⟩ := List.mem_flatMap.mp (ih hp)
    obtain rfl := List.mem_singleton.mp hc
    exact List.mem_flatMap.mpr
      ⟨c, List.mem_filterMap.mpr ⟨.obj c, List.mem_of_getElem? found, rfl⟩, hpc⟩

/-- The same way in the tree, from what became of the value. -/
theorem onward_spelled (file : Option Text) {v : Json} {path : List Key} {target : Object}
    (h : Route v path target) :
    ∃ n, Node.ofDump file (.obj target) = some n ∧
      ∀ more, (Node.entryOf file v).value.onward (spelled v path ++ more) =
        (Value.node n).follow? more := by
  induction h with
  | here kind =>
    obtain ⟨n, hn⟩ := exists_ofDump file kind
    refine ⟨n, hn, fun more => ?_⟩
    rw [Node.entryOf, Entry.value, hn]
    rfl
  | @field o target type name v path kind found enters rest ih =>
    obtain ⟨n, hn, hpath⟩ := ih
    obtain ⟨m, hm⟩ := exists_ofDump file kind
    refine ⟨n, hn, fun more => ?_⟩
    have hspelled : spelled (.obj o) (.field name :: path) =
        spelling type name ++ spelled v path := by
      rw [spelled, spelledStep, kindOf?, kind, inDump, Json.get?, found, Option.getD_some]
    rw [Node.entryOf, Entry.value, hm, Value.onward_ofChild_some, hspelled, List.append_assoc,
      Node.follow?_spelling kind hm found enters, hpath]
  | @item items index o target path found rest ih =>
    obtain ⟨n, hn, hpath⟩ := ih
    refine ⟨n, hn, fun more => ?_⟩
    have hspelled : spelled (.arr items) (.position index :: path) =
        .position index :: spelled (.obj o) path := by
      rw [spelled, spelledStep, inDump, Int.toNat_natCast, found, Option.getD_some]
      rfl
    rw [Node.entryOf, Entry.value, Value.onward_nodes, hspelled, List.cons_append,
      Value.follow?_position, List.getElem?_map, found, Option.map_some, Option.bind_some]
    exact hpath more

end Route

/-- **A way down a dump is a way down its tree**, under the names of nodes. Both lead to one object
and to what it is hydrated to. Under the names of the dump it is the same way where no step is
renamed; a step that is renamed leads nowhere under its old name, or to something that the node has
under that name. -/
theorem Node.follow?_spelled {file : Option Text} {o target : Object} {tree : Option Node}
    {path : List Key} (htree : hydrate file (.obj o) = .ok tree)
    (hroute : Route (.obj o) path target) :
    ∃ root n, tree = some root ∧ hydrate file (.obj target) = .ok (some n) ∧
      (Value.plain (.obj o)).follow? path = some (.plain (.obj target)) ∧
      (∀ more, (Value.node root).follow? (spelled (.obj o) path ++ more) =
        (Value.node n).follow? more) ∧
      ((∀ f ∈ fieldsAlong (.obj o) path, ¬IsRenamed f.1 f.2) →
        (Value.node root).follow? path = some (.node n)) ∧
      ∃ type, kind? target = some type ∧ n.Reads file target type := by
  obtain ⟨hlocated, rfl⟩ := (hydrate_eq_ok_iff file o tree).mp htree
  obtain ⟨_, hsource⟩ := hroute.kind?_source
  obtain ⟨root, hroot⟩ := exists_ofDump file hsource
  obtain ⟨type, hkind⟩ := hroute.kind?_target
  obtain ⟨n, hn, hspelled⟩ := hroute.onward_spelled file
  have hmore (more : List Key) : (Value.node root).follow? (spelled (.obj o) path ++ more) =
      (Value.node n).follow? more := by
    rw [← hspelled more, entryOf, Entry.value, hroot, Value.onward_ofChild_some]
  refine ⟨root, n, hroot, hydrated_of_result (fun p hp => hlocated p ?_) hn,
    hroute.follow?_plain.1, hmore, fun hself => ?_, type, hkind,
    reads_of_ofDump hkind hn⟩
  · have hp := hroute.mem_postorder hp
    rwa [objectsOf, List.flatMap_singleton] at hp
  · have hpath := hmore []
    rwa [spelled_eq_self hself, List.append_nil] at hpath

namespace Node

def baseDump : Object := [("type", .str "Identifier"), ("name", .str "Base")]

/-- A class that extends another one, alone in its program. -/
def classDump : Object := [("type", .str "ClassDeclaration"), ("superClass", .obj baseDump)]

def classProgramDump : Object := [("type", .str "Program"), ("body", .arr [.obj classDump])]

/-- The node of a class with what it extends. -/
def classTree : Node :=
  .mk none (.classNode .declaration none none (some (.mk none (.identifier "Base"))))

theorem ofDump_baseDump : ofDump none (.obj baseDump) = some (.mk none (.identifier "Base")) := by
  rw [ofDump_obj]
  rfl

theorem ofDump_classDump : ofDump none (.obj classDump) = some classTree := by
  rw [classTree, ← ofDump_baseDump, ofDump_obj]
  rfl

theorem hydrate_of_no_float {file : Option Text} {raw : Json} {tree : Option Node}
    (hfloat : ∀ x, ¬Json.Within (.float x) raw) (htree : ofDump file raw = tree) :
    hydrate file raw = .ok tree := by
  rw [hydrate_of_finiteLocations (Json.finiteLocations_of_not_within hfloat), htree]

theorem hydrate_classProgramDump :
    hydrate none (.obj classProgramDump) = .ok (some (.mk none (.program [some classTree]))) := by
  refine hydrate_of_no_float (fun x => ?_) ?_
  · simp [classProgramDump, classDump, baseDump, Json.within_float_obj, Json.within_float_arr,
      Json.not_within_float]
  · rw [← ofDump_classDump, ofDump_obj]
    rfl

theorem route_classDump : Route (.obj classDump) [.field "superClass"] baseDump :=
  .field rfl rfl (.inl ⟨by decide, baseDump, rfl⟩) (.here rfl)

theorem route_classProgramDump : Route (.obj classProgramDump)
    [.field "body", .position 0, .field "superClass"] baseDump :=
  .field rfl rfl (.inr ⟨by decide, [.obj classDump], rfl⟩) (.item 0 rfl route_classDump)

theorem follow?_classProgramDump :
    hydrate none (.obj classProgramDump) = .ok (some (.mk none (.program [some classTree]))) ∧
      Route (.obj classProgramDump) [.field "body", .position 0, .field "superClass"] baseDump ∧
      (Value.node (.mk none (.program [some classTree]))).follow?
        [.field "body", .position 0, .field "super_class"] =
          some (.node (.mk none (.identifier "Base"))) := by
  refine ⟨hydrate_classProgramDump, route_classProgramDump, ?_⟩
  obtain ⟨root, n, hroot, hn, -, hmore, -⟩ :=
    follow?_spelled hydrate_classProgramDump route_classProgramDump
  obtain rfl := Option.some.inj hroot
  have hbase := ((hydrate_eq_ok_iff none baseDump (some n)).mp hn).2.symm
  obtain rfl := Option.some.inj (hbase.symm.trans ofDump_baseDump)
  exact hmore []

/-- An element of a kind without a shape of its own, which has `children`. -/
def elementDump : Object := [("type", .str "JSXElement"), ("children", .arr [.obj baseDump])]

/-- Under the names of the dump two ways lead nowhere in its tree. -/
theorem follow?_eq_none_classDump :
    hydrate none (.obj baseDump) = .ok (some (.mk none (.identifier "Base"))) ∧
      hydrate none (.obj classDump) = .ok (some classTree) ∧
      Route (.obj classDump) [.field "superClass"] baseDump ∧
      (Value.node classTree).follow? [.field "superClass"] = none ∧
      ∃ root, hydrate none (.obj elementDump) = .ok (some root) ∧
        Route (.obj elementDump) [.field "children", .position 0] baseDump ∧
        (Value.node root).follow? [.field "children", .position 0] = none := by
  refine ⟨hydrate_of_no_float (fun x => ?_) ofDump_baseDump,
    hydrate_of_no_float (fun x => ?_) ofDump_classDump, route_classDump, rfl, ?_⟩
  · simp [baseDump, Json.within_float_obj, Json.not_within_float]
  · simp [classDump, baseDump, Json.within_float_obj, Json.not_within_float]
  · obtain ⟨root, hroot⟩ := exists_ofDump none (o := elementDump) rfl
    refine ⟨root, hydrate_of_no_float (fun x => ?_) hroot, ?_, ?_⟩
    · simp [elementDump, baseDump, Json.within_float_obj, Json.within_float_arr,
        Json.not_within_float]
    · exact .field rfl rfl (by decide : ("children" : Text) ∉ positionKeys)
        (.item 0 rfl (.here rfl))
    · rw [(reads_of_ofDump rfl hroot).children rfl]
      rfl

end Node

end AngularLint
