import AngularLint.Proofs.Tree.Hydration
import Mathlib.Data.List.Nodup

/-!
# The objects of a dump that are nodes

Which objects of a dump stand for nodes, in which order, and inside which others: said of the dump
alone, with no tree and no walk. `offspring` is the child relation. A kind that has a shape of its
own has its fields in the order of the source text, `slots?`; any other kind has all its entries but
those of `positionKeys`, in the order of the dump. Each field or entry contributes its object, or
the objects among the items of its list.

`listing` goes through a dump in preorder along that relation and keeps the objects that have a
kind. An object is listed with its **place**, the entries and items that lead to it: two objects may
be equal, but no two have one place (`nodup_listing`), so the places are what can be counted. That
the recursion reaches all there is to reach is `mem_listing`.
-/

set_option autoImplicit false

namespace AngularLint

open Hydrate

/-- A field that holds children: one of them, or a list. -/
inductive Slot where
  | one (key : Text)
  | many (key : Text)
deriving DecidableEq

/-- Where an object lies in the object around it: under which entry, and which item of its list it
is, if it is one. -/
structure Spot where
  entry : Nat
  item : Option Nat
deriving DecidableEq

/-- An object of a dump at its place, and the objects around it from the outermost on. -/
structure Site where
  place : List Spot
  object : Object
  around : List Object

namespace Slot

def key : Slot → Text
  | one key => key
  | many key => key

end Slot

/-- The fields of the kinds that have a shape of their own. -/
def slots? (type : Text) : Option (List Slot) :=
  match type.string? with
  | some "Program" => some [.many "body"]
  | some "Identifier" => some []
  | some "Literal" => some []
  | some "ThisExpression" => some []
  | some "MemberExpression" => some [.one "object", .one "property"]
  | some "CallExpression" => some [.one "callee", .many "arguments"]
  | some "ObjectExpression" => some [.many "properties"]
  | some "Property" => some [.one "key", .one "value"]
  | some "FunctionExpression" => some [.one "id", .many "params", .one "body"]
  | some "ArrowFunctionExpression" => some [.one "id", .many "params", .one "body"]
  | some "FunctionDeclaration" => some [.one "id", .many "params", .one "body"]
  | some "ClassExpression" => some [.one "id", .one "superClass", .one "body"]
  | some "ClassDeclaration" => some [.one "id", .one "superClass", .one "body"]
  | some "BlockStatement" => some [.many "body"]
  | some "ClassBody" => some [.many "body"]
  | some "MethodDefinition" => some [.one "key", .one "value"]
  | some "ExpressionStatement" => some [.one "expression"]
  | some "AssignmentExpression" => some [.one "left", .one "right"]
  | some "ReturnStatement" => some [.one "argument"]
  | _ => none

namespace Dump

/-- The kind of an object. Only a text is a kind. -/
def kind? (o : Object) : Option Text :=
  match Json.find? "type" o with
  | some (.str type) => some type
  | _ => none

theorem kind?_eq_some_iff {o : Object} {type : Text} :
    kind? o = some type ↔ Json.find? "type" o = some (.str type) := by
  unfold kind?
  cases Json.find? "type" o with
  | none => simp
  | some v => cases v <;> simp

/-- The objects that the value of an entry contributes. -/
def objectsAt (entry : Nat) : Json → List (Spot × Object)
  | .obj inside => [(⟨entry, none⟩, inside)]
  | .arr items => items.zipIdx.filterMap fun (item, i) => (object? item).map (⟨entry, some i⟩, ·)
  | _ => []

/-- The objects that a field contributes. A field for one child takes no list, and a field for a
list no object. -/
def objectsIn (o : Object) : Slot → List (Spot × Object)
  | .one key =>
    match Json.find? key o with
    | some (.obj inside) => objectsAt (o.findIdx (·.1 == key)) (.obj inside)
    | _ => []
  | .many key =>
    match Json.find? key o with
    | some (.arr items) => objectsAt (o.findIdx (·.1 == key)) (.arr items)
    | _ => []

/-- The objects that an object of the given kind holds as children, in order. -/
def offspring (type : Text) (o : Object) : List (Spot × Object) :=
  match slots? type with
  | some slots => slots.flatMap (objectsIn o)
  | none =>
    o.zipIdx.flatMap fun (e, i) => if e.1 ∈ positionKeys then [] else objectsAt i e.2

/-! ## Offspring lies directly inside -/

theorem mem_objectsOf_of_mem_objectsAt {entry : Nat} {v : Json} {c : Spot × Object}
    (h : c ∈ objectsAt entry v) : c.2 ∈ objectsOf v := by
  cases v with
  | obj inside =>
    rw [objectsAt, List.mem_singleton] at h
    rw [h, objectsOf, List.mem_singleton]
  | arr items =>
    obtain ⟨⟨item, i⟩, hitem, hc⟩ := List.mem_filterMap.mp h
    obtain ⟨inside, hinside, rfl⟩ := Option.map_eq_some_iff.mp hc
    exact List.mem_filterMap.mpr ⟨item, List.fst_mem_of_mem_zipIdx hitem, hinside⟩
  | _ => exact absurd h (by simp [objectsAt])

theorem mem_inner_of_mem_objectsIn {o : Object} {slot : Slot} (hslot : slot.key ∉ positionKeys)
    {c : Spot × Object} (h : c ∈ objectsIn o slot) : c.2 ∈ inner o := by
  unfold objectsIn at h
  -- Either way the object is one of the value of the field.
  split at h <;> split at h
  · rename_i hfind
    exact mem_inner.mpr ⟨_, _, Json.mem_of_find? hfind, hslot, mem_objectsOf_of_mem_objectsAt h⟩
  · exact absurd h (by simp)
  · rename_i hfind
    exact mem_inner.mpr ⟨_, _, Json.mem_of_find? hfind, hslot, mem_objectsOf_of_mem_objectsAt h⟩
  · exact absurd h (by simp)

/-- No field of the table is one of `positionKeys`, and no kind has a field twice. -/
theorem slots?_keys {type : Text} {slots : List Slot} (h : slots? type = some slots) :
    (∀ slot ∈ slots, slot.key ∉ positionKeys) ∧ (slots.map Slot.key).Nodup := by
  unfold slots? at h
  split at h <;> cases h <;> decide

theorem mem_inner_of_mem_offspring {type : Text} {o : Object} {c : Spot × Object}
    (h : c ∈ offspring type o) : c.2 ∈ inner o := by
  unfold offspring at h
  split at h
  · rename_i slots hslots
    obtain ⟨slot, hslot, hc⟩ := List.mem_flatMap.mp h
    exact mem_inner_of_mem_objectsIn ((slots?_keys hslots).1 slot hslot) hc
  · obtain ⟨⟨e, i⟩, he, hc⟩ := List.mem_flatMap.mp h
    dsimp only at hc
    by_cases hkey : e.1 ∈ positionKeys
    · rw [if_pos hkey] at hc
      exact absurd hc (by simp)
    · rw [if_neg hkey] at hc
      exact mem_inner.mpr ⟨e.1, e.2, List.fst_mem_of_mem_zipIdx he, hkey,
        mem_objectsOf_of_mem_objectsAt hc⟩

/-! ## The listing -/

/-- The nodes of an object that stands at a place inside others: itself first, if it is one. -/
def sitesFrom (place : List Spot) (around : List Object) (o : Object) : List Site :=
  match kind? o with
  | none => []
  | some type =>
    ⟨place, o, around⟩ :: (offspring type o).attach.flatMap fun ⟨c, _⟩ =>
      sitesFrom (place ++ [c.1]) (around ++ [o]) c.2
termination_by sizeOf o
decreasing_by
  rename_i h
  exact sizeOf_lt_of_mem_inner (mem_inner_of_mem_offspring h)

/-- The objects of a dump that are nodes. -/
def listing : Json → List Site
  | .obj o => sitesFrom [] [] o
  | _ => []

theorem sitesFrom_none {place : List Spot} {around : List Object} {o : Object}
    (h : kind? o = none) : sitesFrom place around o = [] := by
  rw [sitesFrom, h]

theorem sitesFrom_some {place : List Spot} {around : List Object} {o : Object} {type : Text}
    (h : kind? o = some type) :
    sitesFrom place around o = ⟨place, o, around⟩ ::
      (offspring type o).flatMap fun c => sitesFrom (place ++ [c.1]) (around ++ [o]) c.2 := by
  rw [sitesFrom, h]
  dsimp only
  rw [List.flatMap_subtype (g := fun c => sitesFrom (place ++ [c.1]) (around ++ [o]) c.2)
    fun _ _ => rfl, List.unattach_attach]

/-! ## No two objects have one place

A place is told apart by its label: which field or entry an object lies under, and further down,
which child its place goes through. -/

theorem nodup_flatMap_of_label {α β γ : Type} {l : List α} {f : α → List β} (mark : α → γ)
    (label : β → Option γ) (hmark : (l.map mark).Nodup) (hf : ∀ a ∈ l, (f a).Nodup)
    (hlabel : ∀ a ∈ l, ∀ b ∈ f a, label b = some (mark a)) : (l.flatMap f).Nodup := by
  refine List.nodup_flatMap.mpr ⟨hf, (List.pairwise_map.mp hmark).imp_of_mem ?_⟩
  intro a a' ha ha' hne b hb hb'
  exact hne (Option.some.inj ((hlabel a ha b hb).symm.trans (hlabel a' ha' b hb')))

theorem nodup_map_snd_zipIdx {α : Type} (l : List α) : (l.zipIdx.map Prod.snd).Nodup := by
  rw [List.zipIdx_map_snd]
  exact List.nodup_range'

theorem entry_of_mem_objectsAt {entry : Nat} {v : Json} {c : Spot × Object}
    (h : c ∈ objectsAt entry v) : c.1.entry = entry := by
  cases v with
  | obj inside =>
    rw [objectsAt, List.mem_singleton] at h
    rw [h]
  | arr items =>
    obtain ⟨_, _, hc⟩ := List.mem_filterMap.mp h
    obtain ⟨inside, -, rfl⟩ := Option.map_eq_some_iff.mp hc
    rfl
  | _ => exact absurd h (by simp [objectsAt])

theorem nodup_objectsAt (entry : Nat) (v : Json) : ((objectsAt entry v).map Prod.fst).Nodup := by
  cases v with
  | arr items =>
    -- Each item of the list has one object at most, and its own number.
    rw [objectsAt, List.filterMap_eq_flatMap_toList, List.map_flatMap]
    refine nodup_flatMap_of_label Prod.snd Spot.item (nodup_map_snd_zipIdx items) ?_ ?_
    · intro x _
      cases hx : object? x.1 <;> simp [hx]
    · intro x _ spot hspot
      cases hx : object? x.1 <;> simp [hx] at hspot
      rw [hspot]
  | _ => simp [objectsAt]

/-- The key under which a field finds its value. -/
theorem key_of_mem_objectsIn {o : Object} {slot : Slot} {c : Spot × Object}
    (h : c ∈ objectsIn o slot) : o[c.1.entry]?.map Prod.fst = some slot.key := by
  have hkey {key : Text} {v : Json} (hfind : Json.find? key o = some v)
      (hc : c ∈ objectsAt (o.findIdx (·.1 == key)) v) : o[c.1.entry]?.map Prod.fst = some key := by
    have hlt : o.findIdx (·.1 == key) < o.length :=
      List.findIdx_lt_length_of_exists ⟨_, Json.mem_of_find? hfind, beq_self_eq_true key⟩
    have hbeq := List.findIdx_getElem (w := hlt)
    rw [entry_of_mem_objectsAt hc, List.getElem?_eq_getElem hlt, Option.map_some, eq_of_beq hbeq]
  unfold objectsIn at h
  split at h <;> split at h
  · exact hkey ‹_› h
  · exact absurd h (by simp)
  · exact hkey ‹_› h
  · exact absurd h (by simp)

theorem nodup_objectsIn (o : Object) (slot : Slot) : ((objectsIn o slot).map Prod.fst).Nodup := by
  unfold objectsIn
  split <;> split
  · exact nodup_objectsAt _ _
  · exact List.nodup_nil
  · exact nodup_objectsAt _ _
  · exact List.nodup_nil

theorem nodup_offspring (type : Text) (o : Object) : ((offspring type o).map Prod.fst).Nodup := by
  unfold offspring
  split
  · rename_i slots hslots
    -- A field is told apart by its key.
    rw [List.map_flatMap]
    refine nodup_flatMap_of_label Slot.key (fun spot => o[spot.entry]?.map Prod.fst)
      (slots?_keys hslots).2 (fun slot _ => nodup_objectsIn o slot) ?_
    intro slot _ spot hspot
    obtain ⟨c, hc, rfl⟩ := List.mem_map.mp hspot
    exact key_of_mem_objectsIn hc
  · -- An entry is told apart by its number.
    rw [List.map_flatMap]
    refine nodup_flatMap_of_label Prod.snd (fun spot => some spot.entry)
      (nodup_map_snd_zipIdx o) ?_ ?_
    · rintro ⟨e, i⟩ _
      dsimp only
      split
      · exact List.nodup_nil
      · exact nodup_objectsAt i e.2
    · rintro ⟨e, i⟩ _ spot hspot
      obtain ⟨c, hc, rfl⟩ := List.mem_map.mp hspot
      dsimp only at hc
      split at hc
      · exact absurd hc (by simp)
      · exact congrArg some (entry_of_mem_objectsAt hc)

/-- The objects inside an object have places below its own. -/
theorem place_of_mem_sitesFrom {place : List Spot} {around : List Object} {o : Object} {s : Site}
    (h : s ∈ sitesFrom place around o) : place <+: s.place := by
  induction place, around, o using sitesFrom.induct with
  | case1 place around o hkind =>
    rw [sitesFrom_none hkind] at h
    exact absurd h (by simp)
  | case2 place around o type hkind ih =>
    rw [sitesFrom_some hkind, List.mem_cons, List.mem_flatMap] at h
    rcases h with rfl | ⟨c, hc, hs⟩
    · exact List.prefix_rfl
    · exact (List.prefix_append place [c.1]).trans (ih c hc hs)

theorem nodup_sitesFrom (place : List Spot) (around : List Object) (o : Object) :
    ((sitesFrom place around o).map Site.place).Nodup := by
  induction place, around, o using sitesFrom.induct with
  | case1 place around o hkind =>
    rw [sitesFrom_none hkind]
    exact List.nodup_nil
  | case2 place around o type hkind ih =>
    -- All places below the spot of a child go through that spot.
    have hbelow : ∀ c ∈ offspring type o,
        ∀ p ∈ (sitesFrom (place ++ [c.1]) (around ++ [o]) c.2).map Site.place,
          p[place.length]? = some c.1 := by
      intro c _ p hp
      obtain ⟨s, hs, rfl⟩ := List.mem_map.mp hp
      obtain ⟨further, hfurther⟩ := place_of_mem_sitesFrom hs
      simp [← hfurther]
    rw [sitesFrom_some hkind, List.map_cons, List.nodup_cons, List.map_flatMap]
    constructor
    · -- The object itself stands higher than all objects inside it.
      intro hmem
      obtain ⟨c, hc, hp⟩ := List.mem_flatMap.mp hmem
      exact absurd (hbelow c hc _ hp) (by simp)
    · exact nodup_flatMap_of_label Prod.fst (fun p => p[place.length]?)
        (nodup_offspring type o) ih hbelow

/-- **No two objects of a listing have one place.** -/
theorem nodup_listing (raw : Json) : ((listing raw).map Site.place).Nodup := by
  cases raw with
  | obj o => exact nodup_sitesFrom [] [] o
  | _ => exact List.nodup_nil

/-! ## A listing has all there is to reach -/

/-- What can be reached from the root of a dump by going from objects with a kind to their
offspring. -/
inductive Reached (raw : Json) : Site → Prop
  | root {o : Object} {type : Text} (isRoot : raw = .obj o) (hasKind : kind? o = some type) :
      Reached raw ⟨[], o, []⟩
  | child {place : List Spot} {o c : Object} {around : List Object} {spot : Spot}
      {type type' : Text} (parent : Reached raw ⟨place, o, around⟩)
      (parentKind : kind? o = some type) (isChild : (spot, c) ∈ offspring type o)
      (hasKind : kind? c = some type') : Reached raw ⟨place ++ [spot], c, around ++ [o]⟩

theorem reached_of_mem_sitesFrom {raw : Json} {place : List Spot} {around : List Object}
    {o : Object} {s : Site} (h : ∀ type, kind? o = some type → Reached raw ⟨place, o, around⟩)
    (hs : s ∈ sitesFrom place around o) : Reached raw s := by
  induction place, around, o using sitesFrom.induct with
  | case1 place around o hkind =>
    rw [sitesFrom_none hkind] at hs
    exact absurd hs (by simp)
  | case2 place around o type hkind ih =>
    have hreached := h type hkind
    rw [sitesFrom_some hkind, List.mem_cons, List.mem_flatMap] at hs
    rcases hs with rfl | ⟨c, hc, hs⟩
    · exact hreached
    · exact ih c hc (fun type' htype' => .child hreached hkind hc htype') hs

/-- What is listed of an object is listed of every object around it. -/
theorem sitesFrom_subset {place place' : List Spot} {around around' : List Object}
    {o o' : Object} (h : ⟨place', o', around'⟩ ∈ sitesFrom place around o) :
    sitesFrom place' around' o' ⊆ sitesFrom place around o := by
  induction place, around, o using sitesFrom.induct with
  | case1 place around o hkind =>
    rw [sitesFrom_none hkind] at h
    exact absurd h (by simp)
  | case2 place around o type hkind ih =>
    have hs := h
    rw [sitesFrom_some hkind, List.mem_cons, List.mem_flatMap] at hs
    rcases hs with heq | ⟨c, hc, hs⟩
    · obtain ⟨rfl, rfl, rfl⟩ := Site.mk.inj heq
      exact List.Subset.refl _
    · intro s hmem
      rw [sitesFrom_some hkind]
      exact List.mem_cons_of_mem _ (List.mem_flatMap.mpr ⟨c, hc, ih c hc hs hmem⟩)

/-- **A listing has all there is to reach, and nothing else.** -/
theorem mem_listing {raw : Json} {s : Site} : s ∈ listing raw ↔ Reached raw s := by
  constructor
  · intro h
    cases raw with
    | obj o =>
      exact reached_of_mem_sitesFrom (fun type htype => .root rfl htype) h
    | _ => exact absurd h (by simp [listing])
  · intro h
    induction h with
    | root isRoot hasKind =>
      subst isRoot
      rw [listing, sitesFrom_some hasKind]
      exact List.mem_cons_self
    | @child place o c around spot type type' _ parentKind isChild hasKind ih =>
      cases raw with
      | obj root =>
        refine sitesFrom_subset ih ?_
        rw [sitesFrom_some parentKind]
        refine List.mem_cons_of_mem _ (List.mem_flatMap.mpr ⟨_, isChild, ?_⟩)
        rw [sitesFrom_some hasKind]
        exact List.mem_cons_self
      | _ => exact absurd ih (by simp [listing])

end Dump

end AngularLint
