import AngularLint.Proofs.Angular.Failure
import Mathlib.Data.List.Find

/-!
# Parts of a node

What a look-up finds in the tree of a dump is said here in terms of nodes. A name leads from a node
to the node under it (`Node.part?`), or to the nodes in the list under it (`Node.parts`). What is
neither a node nor a list of nodes leads no further, so a longer path is its first part and the rest
(`Value.IsDumped.at?_part`), and to look through the items of a value is to look through the nodes
listed there (`Value.IsDumped.find?_itemsAt`).

All searches stop at the first that will do. `IsFirst` says this by what stands in front of it: what
stands behind it does not matter.
-/

set_option autoImplicit false

namespace AngularLint

/-! ## The first of a list -/

section
variable {α : Type} {P : α → Prop} {l : List α} {a b : α}

/-- Is it the first in the list with the property? -/
def IsFirst (P : α → Prop) (l : List α) (a : α) : Prop :=
  ∃ before after, l = before ++ a :: after ∧ P a ∧ ∀ b ∈ before, ¬P b

theorem find?_eq_some_iff_isFirst {p : α → Bool} (hp : ∀ a, p a = true ↔ P a) :
    l.find? p = some a ↔ IsFirst P l a := by
  have hnot (b : α) : (!p b) = true ↔ ¬P b := by
    rw [Bool.not_eq_true', ← Bool.not_eq_true, hp]
  simp only [List.find?_eq_some_iff_append, IsFirst, hp, hnot]
  constructor
  · rintro ⟨ha, before, after, hl, hbefore⟩
    exact ⟨before, after, hl, ha, hbefore⟩
  · rintro ⟨before, after, hl, ha, hbefore⟩
    exact ⟨ha, before, after, hl, hbefore⟩

/-- A search finds the first, or there is none. -/
theorem find?_cases {p : α → Bool} (hp : ∀ a, p a = true ↔ P a) (l : List α) :
    (∃ a, IsFirst P l a ∧ l.find? p = some a) ∨ (∀ a, ¬IsFirst P l a) ∧ l.find? p = none := by
  cases hfind : l.find? p with
  | none =>
    refine .inr ⟨fun a ha => ?_, rfl⟩
    exact absurd (hfind.symm.trans ((find?_eq_some_iff_isFirst hp).mpr ha)) (by simp)
  | some a => exact .inl ⟨a, (find?_eq_some_iff_isFirst hp).mp hfind, rfl⟩

theorem IsFirst.holds (h : IsFirst P l a) : P a := by
  obtain ⟨before, after, hl, ha, hbefore⟩ := h
  exact ha

theorem IsFirst.unique (h : IsFirst P l a) (h' : IsFirst P l b) : a = b := by
  classical
  have hp (c : α) : decide (P c) = true ↔ P c := decide_eq_true_iff
  have hfind := (find?_eq_some_iff_isFirst hp).mpr h
  have hfind' := (find?_eq_some_iff_isFirst hp).mpr h'
  exact Option.some.inj (hfind.symm.trans hfind')

theorem exists_isFirst_iff : (∃ a, IsFirst P l a) ↔ ∃ a ∈ l, P a := by
  classical
  have hp (c : α) : decide (P c) = true ↔ P c := decide_eq_true_iff
  simp only [← find?_eq_some_iff_isFirst hp, ← Option.isSome_iff_exists, List.find?_isSome, hp]

/-- The first result of a search is that of the first item that has one. -/
theorem findSome?_eq_bind_find? {β : Type} {f : α → Option β} (l : List α) :
    l.findSome? f = (l.find? fun a => (f a).isSome).bind f := by
  induction l with
  | nil => rfl
  | cons a rest ih =>
    rw [List.findSome?_cons, List.find?_cons]
    cases hf : f a with
    | none => exact ih
    | some b => exact hf.symm

end

/-! ## Parts -/

namespace Value

/-- The nodes of a list; what is no list of nodes has none. -/
def listed : Value → List Node
  | nodes ns => ns.filterMap id
  | _ => []

/-- The nodes of the list under a name. -/
def listedAt (name : Text) (v : Value) : List Node := (ofOption (v.at? [name])).listed

end Value

namespace Node

/-- The node under a name. -/
def part? (name : Text) (n : Node) : Option Node := ((Value.node n).at? [name]).bind Value.node?

/-- The nodes of the list under a name. -/
def parts (name : Text) (n : Node) : List Node := (Value.node n).listedAt name

/-- The name of the key of an entry. An entry with a quoted key has none, nor has one that spreads
the entries of another object. -/
def keyName? (p : Node) : Option Text := (p.part? "key").bind name?

/-- Is it the first entry of an object under the key? -/
def Holds (key : Text) (d p : Node) : Prop :=
  IsFirst (fun q => q.keyName? = some key) (d.parts "properties") p

end Node

namespace Value

variable {w : Value} {name : Text} {items : List Value}

theorem filterMap_node?_items {v : Value} (hitems : v.items = .ok items) :
    items.filterMap node? = v.listed := by
  cases v with
  | nodes ns =>
    obtain rfl := Except.ok.inj hitems
    have hchild : node? ∘ ofChild = id := by
      funext c
      cases c <;> rfl
    rw [List.filterMap_map, hchild, listed]
  | plain w =>
    have hplain {α : Type} (f : α → Json) (l : List α) :
        (l.map fun a => plain (f a)).filterMap node? = [] := by
      rw [List.filterMap_map]
      exact List.filterMap_eq_nil_iff.mpr fun _ _ => rfl
    cases w with
    | null =>
      obtain rfl := Except.ok.inj hitems
      rfl
    | arr es =>
      obtain rfl := Except.ok.inj hitems
      exact hplain id es
    | str s =>
      obtain rfl := Except.ok.inj hitems
      exact hplain _ s.points
    | obj es =>
      obtain rfl := Except.ok.inj hitems
      exact hplain _ es
    | _ => exact absurd hitems (by simp [Value.items])
  | entries es =>
    obtain rfl := Except.ok.inj hitems
    rw [List.filterMap_map]
    exact List.filterMap_eq_nil_iff.mpr fun _ _ => rfl
  | _ => exact absurd hitems (by simp [Value.items])

/-- To look through items for a node is to look through the nodes. -/
theorem find?_items {v : Value} (hitems : v.items = .ok items) {p : Value → Bool}
    {q : Node → Bool} (hp : ∀ u ∈ items, p u = u.node?.any q) :
    items.find? p = (v.listed.find? q).map node := by
  rw [List.find?_congr hp, ← filterMap_node?_items hitems, List.find?_filterMap]
  cases hfind : items.find? fun u => u.node?.any q with
  | none => rfl
  | some u =>
    have hfound := List.find?_some hfind
    have hany : u.node?.any q = true := hfound
    cases hnode : u.node? with
    | none =>
      rw [hnode] at hany
      exact absurd hany (by simp)
    | some n =>
      rw [Option.bind_some, hnode, eq_node_of_node? hnode]
      rfl

theorem IsDumped.find?_itemsAt (h : w.IsDumped) (hname : Node.isPartName name = true)
    (hitems : w.itemsAt [name] = .ok items) {p : Value → Bool} {q : Node → Bool}
    (hnode : ∀ n : Node, n.IsDumped → p (node n) = q n)
    (hother : ∀ u : Value, u.IsDumped → u.node? = none → p u = false) :
    items.find? p = ((w.listedAt name).find? q).map node := by
  have hlist : (ofOption (w.at? [name])).IsDumped :=
    isDumped_ofOption fun v hv => h.of_at? hv hname
  refine find?_items hitems fun u hu => ?_
  have hdumped : u.IsDumped := IsDumped.of_mem_itemsAt hlist hitems u hu
  cases hn : u.node? with
  | none => exact hother u hdumped hn
  | some n =>
    obtain rfl : u = node n := eq_node_of_node? hn
    exact hnode n hdumped

theorem node?_ofOption (v : Option Value) : (ofOption v).node? = v.bind node? := by
  cases v <;> rfl

/-- Only a node has a list under a name. -/
theorem IsDumped.listedAt_eq (h : w.IsDumped) (name : Text) :
    w.listedAt name = w.node?.elim [] (Node.parts name) := by
  cases hnode : w.node? with
  | none =>
    rw [listedAt, h.at?_eq_none hnode]
    rfl
  | some n =>
    obtain rfl : w = node n := eq_node_of_node? hnode
    rfl

/-! ### Paths -/

theorem IsDumped.at?_eq_bind_node? (h : w.IsDumped) (name : Text) (names : List Text) :
    w.at? (name :: names) = w.node?.bind fun n => (node n).at? (name :: names) := by
  cases hnode : w.node? with
  | none => exact h.at?_eq_none hnode name names
  | some n =>
    obtain rfl : w = node n := eq_node_of_node? hnode
    rfl

end Value

namespace Node

open Value

variable {n m : Node} {name : Text}

/-- **A path goes on from a part.** -/
theorem IsDumped.at?_part (h : n.IsDumped) (hname : isPartName name = true)
    (next : Text) (names : List Text) :
    (node n).at? (name :: next :: names) =
      (n.part? name).bind fun m => (node m).at? (next :: names) := by
  rw [at?_cons, part?, Option.bind_assoc]
  refine Option.bind_congr fun v hv => ?_
  have hn : (node n).IsDumped := h
  have hdumped : v.IsDumped := hn.of_at? hv hname
  exact hdumped.at?_eq_bind_node? next names

theorem IsDumped.part (h : n.IsDumped) (hname : isPartName name = true)
    (hm : n.part? name = some m) : m.IsDumped := by
  obtain ⟨v, hv, hnode⟩ := Option.bind_eq_some_iff.mp hm
  obtain rfl : v = node m := eq_node_of_node? hnode
  have hn : (node n).IsDumped := h
  exact hn.of_at? hv hname

theorem IsDumped.of_mem_parts (h : n.IsDumped) (hname : isPartName name = true)
    (hm : m ∈ n.parts name) : m.IsDumped := by
  rw [parts, listedAt] at hm
  cases hv : (node n).at? [name] with
  | none =>
    rw [hv] at hm
    exact absurd hm (by simp [ofOption, absent, listed])
  | some v =>
    have hn : (node n).IsDumped := h
    have hdumped : v.IsDumped := hn.of_at? hv hname
    rw [hv] at hm
    cases v with
    | nodes ns => exact hdumped m hm
    | _ => exact absurd hm (by simp [ofOption, listed])

/-- Where there is a node in a list, nothing stands alone. -/
theorem any_isLone_of_mem_parts (hm : m ∈ n.parts name) :
    ((node n).at? [name]).any isLone = false := by
  rw [parts, listedAt] at hm
  cases hv : (node n).at? [name] with
  | none => rfl
  | some v =>
    rw [hv] at hm
    cases v with
    | nodes ns => rfl
    | _ => exact absurd hm (by simp [ofOption, listed])

theorem textAt_type (n : Node) (text : Text) :
    (node n).textAt ["type"] text = (n.type == text) := by
  obtain ⟨range, shape⟩ := n
  cases shape <;> rfl

theorem IsDumped.textAt_part (h : n.IsDumped) (hname : isPartName name = true)
    (next : Text) (names : List Text) (text : Text) :
    (node n).textAt (name :: next :: names) text =
      (n.part? name).any fun m => (node m).textAt (next :: names) text := by
  rw [textAt, h.at?_part hname]
  cases n.part? name with
  | none => rfl
  | some m => rfl

theorem IsDumped.textAt_key (h : n.IsDumped) (key : Text) :
    (node n).textAt ["key", "name"] key = (n.keyName? == some key) := by
  rw [h.textAt_part rfl, keyName?]
  cases n.part? "key" with
  | none => rfl
  | some k => exact isNamed_node key k

end Node

theorem Value.IsDumped.propertyValue?_eq {w : Value} (h : w.IsDumped)
    {key : Text} {found : Option Value} (hfound : w.propertyValue? key = .ok found) :
    found = ((w.node?.elim [] (Node.parts "properties")).find? fun p =>
      p.keyName? == some key).bind fun p => (Value.node p).at? ["value"] := by
  obtain ⟨items, hitems, hfind⟩ := bind_eq_ok.mp hfound
  have hsearch : (items.find? fun p => p.textAt ["key", "name"] key) =
      ((w.listedAt "properties").find? fun p => p.keyName? == some key).map .node := by
    apply h.find?_itemsAt rfl hitems
    · exact fun p hp => hp.textAt_key key
    · intro u hu hnone
      rw [Value.textAt, hu.at?_eq_none hnone]
      rfl
  rw [← Except.ok.inj hfind, hsearch, Option.bind_map, h.listedAt_eq]
  rfl

/-- What is found under a key of an object is the value of the first entry with that key. -/
theorem Value.propertyValue?_cases {o : Option Node} (h : ∀ d ∈ o, d.IsDumped) {key : Text}
    {found : Option Value}
    (hfound : (ofOption (o.map node)).propertyValue? key = .ok found) :
    (∃ d p, o = some d ∧ d.Holds key p ∧ found = (node p).at? ["value"]) ∨
      (∀ d p, o = some d → ¬d.Holds key p) ∧ found = none := by
  have hdumped : (ofOption (o.map node)).IsDumped := by
    cases o with
    | none => exact trivial
    | some d => exact h d rfl
  have hvalue := hdumped.propertyValue?_eq hfound
  cases o with
  | none =>
    refine .inr ⟨?_, hvalue⟩
    intro d p hd
    exact absurd hd (by simp)
  | some d =>
    have hvalue : found = ((d.parts "properties").find? fun p => p.keyName? == some key).bind
        fun p => (node p).at? ["value"] := hvalue
    have hkey (q : Node) : (q.keyName? == some key) = true ↔ q.keyName? = some key := beq_iff_eq
    rcases find?_cases hkey (d.parts "properties") with
      ⟨p, hp, hfind⟩ | ⟨hnone, hfind⟩
    · rw [hfind] at hvalue
      exact .inl ⟨d, p, rfl, hp, hvalue⟩
    · rw [hfind] at hvalue
      refine .inr ⟨?_, hvalue⟩
      intro d' p hd
      obtain rfl : d = d' := Option.some.inj hd
      exact hnone p

end AngularLint
