import AngularLint.Proofs.Angular.Failure
import AngularLint.Proofs.Json.Reader

/-!
# The name that a registration gives

A registration is named by the `value` of its first argument, whatever kind of node the argument is.
Of a literal that is what the literal stands for. But properties and methods have a `value` as well,
which is a node, and a node without a shape of its own may have anything under that key. So the name
of an element may be no JSON: it is a node then, or a list with a node in it
(`fails_json?_name?_iff`).

The other reason for which a name cannot be written is an integer without a numeral. No value that
has been read holds one (`Proofs/Json/Reader.lean`), and so no node of a dump that has been read has
one for a value (`hasLargeValue_of_isWritable`).
-/

set_option autoImplicit false

namespace AngularLint

open Hydrate Dump

namespace Node

/-- Is a node what the node has for a value, or among what it has? -/
def hasNodeValue : Node → Bool
  | .mk _ (.property _ value _ _ _ _) => value.isSome
  | .mk _ (.methodDefinition _ value _ _ _) => value.isSome
  | .mk _ (.other _ es) =>
    match es.lookup ("value" : Text) with
    | some (.child c) => c.isSome
    | some (.children nodes) => nodes.any Option.isSome
    | _ => false
  | _ => false

/-- Does the node have for a value something plain that cannot be written? -/
def hasLargeValue : Node → Bool
  | .mk _ (.literal value _) => !value.isWritable
  | .mk _ (.other _ es) =>
    match es.lookup ("value" : Text) with
    | some (.plain v) => !v.isWritable
    | _ => false
  | _ => false

end Node

/-! ## Values as JSON -/

namespace Value

theorem fails_plainJson?_iff {v : Json} : Fails (plainJson? v) ↔ (!v.isWritable) = true := by
  rw [plainJson?]
  cases v.isWritable with
  | true => exact iff_of_false not_fails_ok (by simp)
  | false => exact iff_of_true ⟨_, rfl⟩ rfl

theorem fails_childJson?_iff {c : Option Node} : Fails (childJson? c) ↔ c.isSome = true := by
  cases c with
  | none => exact iff_of_false not_fails_ok (by simp)
  | some n => exact iff_of_true ⟨_, rfl⟩ rfl

theorem fails_json?_nodes_iff {nodes : List (Option Node)} :
    Fails (Value.nodes nodes).json? ↔ nodes.any Option.isSome = true := by
  rw [json?, fails_map_iff, fails_mapM_iff, List.any_eq_true]
  simp only [fails_childJson?_iff]

theorem json?_ofOption_present? (v : Value) : (ofOption v.present?).json? = v.json? := by
  cases v with
  | plain w => cases w <;> rfl
  | _ => rfl

theorem present?_bind_present? (v : Value) : v.present?.bind present? = v.present? := by
  cases v with
  | plain w => cases w <;> rfl
  | _ => rfl

theorem fails_json?_ofChild_iff {c : Option Node} :
    Fails (ofChild c).json? ↔ c.isSome = true := by
  cases c with
  | none => exact iff_of_false not_fails_ok (by simp)
  | some n => exact iff_of_true ⟨_, rfl⟩ rfl

/-- What a node has for a value can be written, unless it is one of two things. -/
theorem fails_json?_value_iff (a : Node) :
    Fails (ofOption ((node a).at? ["value"])).json? ↔
      a.hasNodeValue = true ∨ a.hasLargeValue = true := by
  -- Whether what is found is present makes no difference to how it is written.
  have hfound {v : Value} (h : a.get? "value" = some v) :
      (ofOption ((node a).at? ["value"])).json? = v.json? := by
    rw [at?_node, h, Option.bind_some, json?_ofOption_present?]
  have hnothing : ¬Fails (ofOption none).json? := not_fails_ok
  obtain ⟨range, shape⟩ := a
  cases shape with
  | literal value raw =>
    rw [hfound rfl, json?, fails_plainJson?_iff]
    simp [Node.hasNodeValue, Node.hasLargeValue]
  | property key value kind computed shorthand method =>
    rw [hfound rfl, fails_json?_ofChild_iff]
    simp [Node.hasNodeValue, Node.hasLargeValue]
  | methodDefinition key value kind isStatic computed =>
    rw [hfound rfl, fails_json?_ofChild_iff]
    simp [Node.hasNodeValue, Node.hasLargeValue]
  | other type es =>
    have hget : (Node.mk range (.other type es)).get? "value" =
        (es.lookup ("value" : Text)).map Entry.value := rfl
    rw [Node.hasNodeValue, Node.hasLargeValue]
    cases hlookup : es.lookup ("value" : Text) with
    | none =>
      rw [at?_entry rfl, hlookup]
      exact iff_of_false hnothing (by simp)
    | some e =>
      rw [hlookup] at hget
      rw [hfound hget]
      cases e with
      | child c => simpa [Entry.value] using fails_json?_ofChild_iff
      | children nodes => simpa [Entry.value] using fails_json?_nodes_iff
      | plain v => simpa [Entry.value, json?] using fails_plainJson?_iff
  | _ => exact iff_of_false hnothing (by simp [Node.hasNodeValue, Node.hasLargeValue])

end Value

namespace Registration

/-- A registration gives for a name what its first argument has for a value. -/
theorem name?_node {n : Node} (h : n.IsDumped) :
    name? (.node n) = (n.argument? 0).bind fun a => (Value.node a).at? ["value"] := by
  have hpath : (Value.node n).follow? [.field "arguments", .position 0, .field "value"] =
      (n.argument? 0).bind fun a => (Value.node a).at? ["value"] := by
    have happend := (Value.node n).follow?_append [.field "arguments", .position (0 : Nat)]
      [.field "value"]
    rw [follow?_argument h, Option.bind_map] at happend
    exact happend
  rw [name?, hpath, Option.bind_assoc]
  refine Option.bind_congr fun a _ => ?_
  rw [Value.at?_node, Option.bind_assoc]
  exact Option.bind_congr fun v _ => v.present?_bind_present?

/-- **When the name of a registration is no JSON**, or none that can be written. -/
theorem fails_json?_name?_iff {n : Node} (h : n.IsDumped) :
    Fails (Value.ofOption (name? (.node n))).json? ↔
      ∃ a, n.argument? 0 = some a ∧ (a.hasNodeValue = true ∨ a.hasLargeValue = true) := by
  rw [name?_node h]
  cases n.argument? 0 with
  | none => exact iff_of_false not_fails_ok (by simp)
  | some a => simpa using Value.fails_json?_value_iff a

end Registration

/-! ## Dumps that have been read -/

theorem Json.isWritable_of_within {v inside : Json} (h : Within inside v)
    (hv : v.isWritable = true) : inside.isWritable = true := by
  induction h with
  | itself => exact hv
  | item mem _ ih => exact ih (isWritable_arr.mp hv _ mem)
  | entry mem _ ih => exact ih (isWritable_obj.mp hv _ mem)

theorem Hydrate.isWritable_valueAt {key : Text} {o : Object}
    (ho : (Json.obj o).isWritable = true) : (valueAt key o).isWritable = true := by
  rw [valueAt]
  cases hfind : Json.find? key o with
  | none => rfl
  | some v => exact Json.isWritable_obj.mp ho _ (Json.mem_of_find? hfind)

namespace Node

/-- A node that comes out of a value that can be written has for a value what can be. -/
theorem hasLargeValue_of_isWritable {file : Option Text} {o : Object} {a : Node}
    (ho : (Json.obj o).isWritable = true) (ha : result file o = some a) :
    a.hasLargeValue = false := by
  obtain ⟨type, rfl⟩ := exists_declared ha
  cases hslots : slots? type with
  | some slots =>
    unfold slots? at hslots
    split at hslots <;> cases hslots
    -- Of the kinds of the table only literals hold anything plain.
    all_goals
      rename_i hname
      rw [Shape.declared, hname]
      simp only [hasLargeValue, isWritable_valueAt ho, Bool.not_true]
  | none =>
    rw [Shape.declared_of_slots?_eq_none _ _ _ _ hslots, hasLargeValue,
      lookup_filterMap_entryOf? file (by decide)]
    cases hfind : Json.find? "value" o with
    | none => rfl
    | some v =>
      have hv := Json.isWritable_obj.mp ho _ (Json.mem_of_find? hfind)
      rw [Option.map_some]
      cases v with
      | obj inside => rfl
      | arr items => rfl
      | _ => simpa [entryOf] using hv

end Node

/-- In what has been read, the name of a registration is no JSON only if it is a node, or a list
with one in it. -/
theorem Registration.fails_json?_name?_iff_of_isWritable {file : Option Text} {o : Object}
    {n : Node} (ho : (Json.obj o).isWritable = true) (hn : result file o = some n) :
    Fails (Value.ofOption (name? (.node n))).json? ↔
      ∃ a, n.argument? 0 = some a ∧ a.hasNodeValue = true := by
  rw [fails_json?_name?_iff ⟨file, o, hn⟩]
  refine exists_congr fun a => and_congr_right fun ha => or_iff_left ?_
  obtain ⟨inside, hinside, hresult⟩ :=
    Node.exists_inner_of_mem_children hn (Node.mem_children_of_argument? ha)
  obtain ⟨key, value, hmem, -, hvalue⟩ := mem_inner.mp hinside
  have hwithin : Json.Within (.obj inside) (.obj o) := .entry hmem (within_of_mem_objectsOf hvalue)
  rw [Node.hasLargeValue_of_isWritable (Json.isWritable_of_within hwithin ho) hresult]
  simp

end AngularLint
