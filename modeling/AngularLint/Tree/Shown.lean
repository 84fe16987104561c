import AngularLint.Abort
import AngularLint.Json.Writer
import AngularLint.Tree.Path

/-!
# How values of a tree are shown

Messages show a node as a record of its fields, with its range last. A node is shown with all nodes
below it.
-/

set_option autoImplicit false

namespace AngularLint

def Range.shown (r : Range) : Text :=
  Shown.record "SourceRange"
    [("file", r.file.shown), ("line_start", toString r.startLine),
      ("col_start", toString r.startColumn), ("line_end", toString r.endLine),
      ("col_end", toString r.endColumn)]

/-- The fields that say what a node of a common variant is. -/
def Shape.typeFields (s : Shape) : List (Text × Text) :=
  match s with
  | .functionNode _ _ _ _ _ => [("type", Text.quote s.type)]
  | .classNode _ _ _ _ => [("type", Text.quote s.type)]
  | .other _ _ => [("type", Text.quote s.type)]
  | _ => []

namespace Value

/-- The size of what a value holds, by which showing it ends. -/
noncomputable def extent : Value → Nat
  | plain _ => 0
  | node n => sizeOf n
  | nodes ns => sizeOf ns
  | range _ => 0
  | entries es => sizeOf es

@[simp] theorem extent_plain (v : Json) : (plain v).extent = 0 := rfl

@[simp] theorem extent_node (n : Node) : (node n).extent = sizeOf n := rfl

@[simp] theorem extent_nodes (ns : List (Option Node)) : (nodes ns).extent = sizeOf ns := rfl

@[simp] theorem extent_entries (es : List (Text × Entry)) : (entries es).extent = sizeOf es := rfl

theorem extent_ofChild_lt (c : Option Node) : (ofChild c).extent < sizeOf c := by
  cases c <;> simp [ofChild, absent]

theorem extent_value_lt (e : Entry) : e.value.extent < sizeOf e := by
  cases e with
  | child c => have := extent_ofChild_lt c; simp [Entry.value]; omega
  | children ns => simp [Entry.value]
  | plain v => simp only [Entry.value, extent_plain, Entry.plain.sizeOf_spec]; omega

theorem extent_lt_of_mem_fields {s : Shape} {f : Text × Value} (h : f ∈ s.fields) :
    f.2.extent < sizeOf s := by
  cases s <;> simp only [Shape.fields, List.mem_cons, List.not_mem_nil, or_false] at h <;>
    simp <;> grind [extent_ofChild_lt, extent_plain, extent_nodes, extent_entries]

def shown (v : Value) : Text :=
  match v with
  | plain v => v.shown
  | range r => r.shown
  | nodes ns => Shown.list (ns.attach.map fun ⟨c, _⟩ => (ofChild c).shown)
  | entries es => Shown.mapping (es.attach.map fun ⟨e, _⟩ => (Text.quote e.1, e.2.value.shown))
  | node n =>
    Shown.record n.shape.variant
      (n.shape.typeFields ++ (n.shape.fields.attach.map fun ⟨f, _⟩ => (f.1, f.2.shown)) ++
        [(("source_range" : Text), (n.range.map Range.shown).getD Shown.nothing)])
termination_by v.extent
decreasing_by
  · rename_i h
    have h₁ := extent_ofChild_lt c
    have h₂ := List.sizeOf_lt_of_mem h
    simp; omega
  · rename_i h
    have h₁ := extent_value_lt e.2
    have h₂ := List.sizeOf_lt_of_mem h
    have h₃ : sizeOf e = 1 + sizeOf e.1 + sizeOf e.2 := by cases e; simp
    simp; omega
  · rename_i h
    have h₁ := extent_lt_of_mem_fields h
    have h₂ : sizeOf n.shape < sizeOf n := by
      cases n
      simp only [Node.shape, Node.mk.sizeOf_spec]
      omega
    simp; omega

/-- A value as messages show it by itself: a text stands without quotes. -/
def display : Value → Text
  | plain v => v.display
  | v => v.shown

/-- A child as JSON; only a missing child is JSON. -/
def childJson? : Option Node → Except Abort Json
  | none => .ok .null
  | some n => .error (.notJson n.shape.variant)

/-- A plain value as JSON that can be written. -/
def plainJson? (v : Json) : Except Abort Json :=
  if v.isWritable then .ok v else .error (.integer .tooLarge)

/-- An entry as JSON, or the fault of the first thing in it that is none. -/
def entryJson? : Entry → Except Abort Json
  | .child c => childJson? c
  | .children cs => (cs.mapM childJson?).map .arr
  | .plain v => plainJson? v

/-- A value as JSON, or the fault of the first thing in it that is none. -/
def json? : Value → Except Abort Json
  | plain v => plainJson? v
  | node n => .error (.notJson n.shape.variant)
  | nodes ns => (ns.mapM childJson?).map .arr
  | range r => .error (.notJson (type (range r)))
  | entries es => (es.mapM fun e => (entryJson? e.2).map fun v => (e.1, v)).map .obj

end Value

end AngularLint
