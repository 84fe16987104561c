import AngularLint.Proofs.Linter.Calls
import AngularLint.Proofs.Tree.Finite
import AngularLint.Proofs.Tree.Listing
import Mathlib.Data.List.Forall2

/-!
# No node is lost between the dump and the rules

A node reaches the rules by way of two tables that know nothing of each other: the one by which
hydration gives an object its shape, and the one by which a walk finds the children of a shape. A
field that one of them forgets, or that they take for different things, would take whole branches
away from every rule. `childrenOf_declared` says that they agree, kind by kind, and that together
they come to the fields of `slots?`.

From there on it is one induction: the preorder of a tree and the listing of its dump go down the
same children, `preorder_shows`. **`visits_of_hydrate`** is what follows for the program: a walk
through the tree of a dump stops once at each object of the listing, and each rule that listens to
the kind of the object is called once there.
-/

set_option autoImplicit false

namespace AngularLint

open Hydrate Dump

/-- The nodes under a field. -/
def Slot.nodes (child : Text → Option Node) (children : Text → List (Option Node)) :
    Slot → List Node
  | .one key => (child key).toList
  | .many key => (children key).filterMap id

/-! ## The two tables agree -/

section
variable {type : Text} (o : Object) (child : Text → Option Node)
  (children : Text → List (Option Node)) (entries : List (Text × Entry))

theorem Node.childrenOf_declared {slots : List Slot} (h : slots? type = some slots) :
    childrenOf (Shape.declared type o child children entries) =
      slots.flatMap (Slot.nodes child children) := by
  unfold slots? at h
  split at h <;> cases h
  -- One case for each kind of the table, with its name.
  all_goals
    rename_i hname
    rw [Shape.declared, hname]
    simp only [childrenOf, List.flatMap_cons, List.flatMap_nil, Slot.nodes, List.append_nil,
      List.append_assoc]

theorem Shape.declared_of_slots?_eq_none (h : slots? type = none) :
    Shape.declared type o child children entries = .other type entries := by
  unfold Shape.declared
  split
  all_goals first
    | rfl
    | rename_i hname
      rw [slots?, hname] at h
      exact absurd h (by simp)

end

/-! ## The children of a node are what became of the offspring -/

section
variable (file : Option Text)

theorem Dump.filterMap_objectsAt (entry : Nat) (v : Json) :
    (objectsAt entry v).filterMap (fun c => result file c.2) = (Node.entryOf file v).nodes := by
  cases v with
  | obj inside => rfl
  | arr items =>
    have hitem (x : Json × Nat) :
        ((object? x.1).map fun o => (Spot.mk entry (some x.2), o)).bind
          (fun c => result file c.2) = Node.ofDump file x.1 := by
      cases x.1 with
      | obj inside => rfl
      | _ => rw [Node.ofDump] <;> simp [object?]
    rw [objectsAt, List.filterMap_filterMap, Node.entryOf, Entry.nodes, List.filterMap_map]
    simp only [hitem]
    -- The numbers of the items no longer matter.
    calc items.zipIdx.filterMap (fun x => Node.ofDump file x.1)
        = (items.zipIdx.map Prod.fst).filterMap (Node.ofDump file) := List.filterMap_map.symm
      _ = items.filterMap (Node.ofDump file) := by rw [List.zipIdx_map_fst]
  | _ => rfl

theorem Dump.filterMap_objectsIn (o : Object) (slot : Slot) :
    (objectsIn o slot).filterMap (fun c => result file c.2) =
      slot.nodes (Node.childUnder file o) (Node.childrenUnder file o) := by
  cases slot with
  | one key =>
    rw [objectsIn, Slot.nodes, Node.childUnder]
    cases Json.find? key o with
    | none => rfl
    | some v => cases v <;> rfl
  | many key =>
    rw [objectsIn, Slot.nodes, Node.childrenUnder]
    cases Json.find? key o with
    | none => rfl
    | some v =>
      cases v with
      | arr items => exact filterMap_objectsAt file _ (.arr items)
      | _ => rfl

/-- What becomes of the entries of an object, whatever number the first of them has. -/
theorem Dump.filterMap_entries (o : Object) (first : Nat) :
    ((o.zipIdx first).flatMap fun (e, i) =>
        if e.1 ∈ positionKeys then [] else objectsAt i e.2).filterMap (fun c => result file c.2) =
      (o.filterMap (Node.entryOf? file)).flatMap fun e => e.2.nodes := by
  induction o generalizing first with
  | nil => rfl
  | cons e rest ih =>
    rw [List.zipIdx_cons, List.flatMap_cons, List.filterMap_append, ih]
    dsimp only
    by_cases hkey : e.1 ∈ positionKeys
    · rw [if_pos hkey, List.filterMap_cons_none (by rw [Node.entryOf?, if_pos hkey])]
      rfl
    · rw [if_neg hkey, List.filterMap_cons_some (by rw [Node.entryOf?, if_neg hkey]),
        List.flatMap_cons, filterMap_objectsAt]

theorem Dump.filterMap_offspring (type : Text) (o : Object) :
    (offspring type o).filterMap (fun c => result file c.2) =
      Node.childrenOf (Shape.declared type o (Node.childUnder file o) (Node.childrenUnder file o)
        (o.filterMap (Node.entryOf? file))) := by
  unfold offspring
  split
  · rename_i slots hslots
    rw [Node.childrenOf_declared o _ _ _ hslots, List.filterMap_flatMap]
    simp only [filterMap_objectsIn]
  · rename_i hnone
    rw [Shape.declared_of_slots?_eq_none o _ _ _ hnone, Node.childrenOf, filterMap_entries]

/-- An object with a kind becomes a node of that kind, with what became of its offspring
below it. -/
theorem Hydrate.result_eq_some {o : Object} {type : Text} (h : kind? o = some type) :
    ∃ n, result file o = some n ∧ n.type = type ∧
      n.children = (offspring type o).filterMap (fun c => result file c.2) := by
  rw [result, Node.ofDump_obj, kind?_eq_some_iff.mp h]
  refine ⟨_, rfl, Shape.type_declared _ _ _ _ _, ?_⟩
  exact (filterMap_offspring file type o).symm

theorem Hydrate.result_eq_none_iff {o : Object} : result file o = none ↔ kind? o = none := by
  cases hkind : kind? o with
  | some type =>
    obtain ⟨n, hn, -⟩ := result_eq_some file hkind
    rw [hn]
    simp
  | none =>
    refine iff_of_true ?_ rfl
    rw [result, Node.ofDump_obj]
    split
    · rename_i type htype
      exact absurd (hkind.symm.trans (kind?_eq_some_iff.mpr htype)) (by simp)
    · rfl

end

/-! ## One descent -/

/-- Does the object become the node? -/
def Node.Hydrated (file : Option Text) (n : Node) (o : Object) : Prop :=
  hydrate file (.obj o) = .ok (some n)

/-- Is the stop of a walk the object of a listing, inside what became of the objects around it? -/
structure Visit.Shows (file : Option Text) (visit : Visit) (site : Site) : Prop where
  node : visit.node.Hydrated file site.object
  ancestors : List.Forall₂ (Node.Hydrated file) visit.ancestors site.around

namespace Node

theorem hydrated_of_result {file : Option Text} {o : Object} {n : Node}
    (hlocated : ∀ p ∈ postorder o, Located file p) (hn : result file o = some n) :
    n.Hydrated file o :=
  (hydrate_eq_ok_iff file o (some n)).mpr ⟨hlocated, hn.symm⟩

theorem forall₂_flatMap_filterMap {α β γ δ : Type} {R : γ → δ → Prop} {g : α → Option β}
    {f : β → List γ} {f' : α → List δ} {l : List α} (hnone : ∀ a ∈ l, g a = none → f' a = [])
    (hsome : ∀ a ∈ l, ∀ b, g a = some b → List.Forall₂ R (f b) (f' a)) :
    List.Forall₂ R ((l.filterMap g).flatMap f) (l.flatMap f') := by
  induction l with
  | nil => exact .nil
  | cons a rest ih =>
    have hrest := ih (fun a' ha' => hnone a' (List.mem_cons_of_mem _ ha'))
      (fun a' ha' => hsome a' (List.mem_cons_of_mem _ ha'))
    cases hg : g a with
    | none =>
      rw [List.filterMap_cons_none hg, List.flatMap_cons, hnone a List.mem_cons_self hg]
      exact hrest
    | some b =>
      rw [List.filterMap_cons_some hg, List.flatMap_cons, List.flatMap_cons]
      exact List.rel_append (hsome a List.mem_cons_self b hg) hrest

/-- **The preorder of a tree goes along the listing of its dump.** -/
theorem preorder_shows {file : Option Text} {place : List Spot} {around : List Object}
    {o : Object} {nodes : List Node} {n : Node} (hlocated : ∀ p ∈ postorder o, Located file p)
    (haround : List.Forall₂ (Hydrated file) nodes around) (hn : result file o = some n) :
    List.Forall₂ (Visit.Shows file) (n.preorder nodes) (sitesFrom place around o) := by
  induction place, around, o using sitesFrom.induct generalizing nodes n with
  | case1 place around o hkind =>
    rw [(result_eq_none_iff file).mpr hkind] at hn
    exact absurd hn (by simp)
  | case2 place around o type hkind ih =>
    obtain ⟨n', hn', -, hchildren⟩ := result_eq_some file hkind
    obtain rfl : n' = n := Option.some.inj (hn'.symm.trans hn)
    have hroot := hydrated_of_result hlocated hn
    rw [preorder_eq, sitesFrom_some hkind, hchildren]
    refine .cons ⟨hroot, haround⟩ (forall₂_flatMap_filterMap ?_ ?_)
    · -- Offspring without a kind becomes no child, and has no sites either.
      intro c _ hnone
      exact sitesFrom_none ((result_eq_none_iff file).mp hnone)
    · intro c hc m hm
      refine ih c hc (fun p hp => hlocated p ?_) (List.rel_append haround (.cons hroot .nil)) hm
      exact mem_postorder_of_mem_inner (mem_inner_of_mem_offspring hc) hp

end Node

/-! ## Every rule is called where it listens -/

variable {σ : Type}

/-- Does the rule listen to the kind of the object? -/
def Listener.hears (listener : Listener σ) (site : Site) : Bool :=
  ((kind? site.object).bind fun type => listener.callbacks.lookup type).isSome

/-- Is the call made of the rule, at the object, with the callback for its kind? -/
structure Call.Brings (file : Option Text) (call : Call σ) (target : Listener σ × Site) : Prop where
  context : call.context = target.1.context
  callback : (kind? target.2.object).bind (fun type => target.1.callbacks.lookup type) =
    some call.callback
  visit : call.visit.Shows file target.2

theorem Visit.Shows.kind? {file : Option Text} {visit : Visit} {site : Site}
    (h : visit.Shows file site) : kind? site.object = some visit.node.type := by
  have hn := ((Node.hydrate_eq_ok_iff file site.object (some visit.node)).mp h.node).2.symm
  cases hkind : Dump.kind? site.object with
  | none => exact absurd (hn.symm.trans ((result_eq_none_iff file).mpr hkind)) (by simp)
  | some type =>
    obtain ⟨n, hn', htype, -⟩ := result_eq_some file hkind
    obtain rfl : n = visit.node := Option.some.inj (hn'.symm.trans hn)
    rw [htype]

/-- At one stop, each rule that listens is called once. -/
theorem Call.brings_of_shows {file : Option Text} {visit : Visit} {site : Site}
    (h : visit.Shows file site) (listeners : List (Listener σ)) :
    List.Forall₂ (Brings file) (schedule listeners [visit])
      ((listeners.filter (·.hears site)).map (·, site)) := by
  rw [schedule, List.flatMap_singleton]
  induction listeners with
  | nil => exact .nil
  | cons listener rest ih =>
    have hlookup : (Dump.kind? site.object).bind (fun type => listener.callbacks.lookup type) =
        listener.callbacks.lookup visit.node.type := by rw [h.kind?, Option.bind_some]
    cases hcallback : listener.callbacks.lookup visit.node.type with
    | none =>
      have hears : ¬listener.hears site = true := by
        rw [Listener.hears, hlookup, hcallback]
        simp
      rw [List.filterMap_cons_none (by rw [hcallback]; rfl),
        List.filter_cons_of_neg (by simpa using hears)]
      exact ih
    | some callback =>
      have hears : listener.hears site = true := by
        rw [Listener.hears, hlookup, hcallback]
        rfl
      rw [List.filterMap_cons_some (by rw [hcallback]; rfl),
        List.filter_cons_of_pos (by simpa using hears), List.map_cons]
      exact .cons ⟨rfl, hlookup.trans hcallback, h⟩ ih

namespace Node

/-- **A walk through the tree of a dump is the listing of the dump**: it stops once at each object
that can be reached, with what became of that object and of the objects around it; and at each stop
the rules that listen to the kind of the object are called once. -/
theorem visits_of_hydrate {file : Option Text} {raw : Json} {tree : Option Node}
    (h : hydrate file raw = .ok tree) :
    List.Forall₂ (Visit.Shows file) (tree.toList.flatMap visits) (listing raw) ∧
      ((listing raw).map Site.place).Nodup ∧
      (∀ site, site ∈ listing raw ↔ Reached raw site) ∧
      ∀ (σ : Type) (listeners : List (Listener σ)),
        List.Forall₂ (Call.Brings file)
          (Call.schedule listeners (tree.toList.flatMap visits))
          ((listing raw).flatMap fun site => (listeners.filter (·.hears site)).map (·, site)) := by
  have hshows : List.Forall₂ (Visit.Shows file) (tree.toList.flatMap visits) (listing raw) := by
    cases raw with
    | obj o =>
      obtain ⟨hlocated, rfl⟩ := (hydrate_eq_ok_iff file o tree).mp h
      cases hn : ofDump file (.obj o) with
      | none =>
        rw [listing, sitesFrom_none ((result_eq_none_iff file).mp hn)]
        exact .nil
      | some n =>
        rw [Option.toList_some, List.flatMap_singleton, visits_eq_preorder]
        exact preorder_shows hlocated .nil hn
    | _ =>
      obtain rfl : tree = none := (Except.ok.inj h).symm
      exact .nil
  refine ⟨hshows, nodup_listing raw, fun site => mem_listing, fun σ listeners => ?_⟩
  refine List.rel_flatMap hshows fun visit site hvisit => ?_
  have := Call.brings_of_shows hvisit listeners
  rwa [Call.schedule, List.flatMap_singleton] at this

/-- A call without a callee. -/
def callDump : Object := [("type", .str "CallExpression")]

/-- The call below a kind that has no shape of its own, next to a hole. -/
def sequenceDump : Object :=
  [("type", .str "SequenceExpression"), ("expressions", .arr [.null, .obj callDump])]

/-- The same below another such kind, next to an object without a kind. -/
def nestedDump : Json :=
  .obj [("type", .str "IfStatement"), ("alternate", .obj [("name", .str "a")]),
    ("test", .obj sequenceDump)]

theorem visits_nestedDump :
    hydrate none nestedDump = .ok (ofDump none nestedDump) ∧
      List.Forall₂ (Visit.Shows none) ((ofDump none nestedDump).toList.flatMap visits)
        (listing nestedDump) ∧
      (listing nestedDump).map (fun site => (kind? site.object, site.place)) =
        ([(some "IfStatement", []), (some "SequenceExpression", [⟨2, none⟩]),
          (some "CallExpression", [⟨2, none⟩, ⟨1, some 1⟩])] : List (Option Text × List Spot)) := by
  have hfinite : nestedDump.FiniteLocations := by
    refine Json.finiteLocations_of_not_within fun x => ?_
    simp [nestedDump, sequenceDump, callDump, Json.within_float_obj, Json.within_float_arr,
      Json.not_within_float]
  have h : hydrate none nestedDump = .ok (ofDump none nestedDump) :=
    (hydrate_eq_ok_iff none _ _).mpr ⟨located_of_finiteLocations hfinite none, rfl⟩
  have hcall (place : List Spot) (around : List Object) :
      sitesFrom place around callDump = [⟨place, callDump, around⟩] := by
    rw [sitesFrom_some rfl]
    rfl
  have hsequence (place : List Spot) (around : List Object) :
      sitesFrom place around sequenceDump = [⟨place, sequenceDump, around⟩,
        ⟨place ++ [⟨1, some 1⟩], callDump, around ++ [sequenceDump]⟩] := by
    rw [sitesFrom_some rfl]
    show _ :: (sitesFrom (place ++ [⟨1, some 1⟩]) (around ++ [sequenceDump]) callDump ++ []) = _
    rw [hcall]
    rfl
  refine ⟨h, (visits_of_hydrate h).1, ?_⟩
  rw [nestedDump, listing, sitesFrom_some rfl]
  show List.map _ (_ :: (sitesFrom [⟨1, none⟩] _ [("name", .str "a")] ++
    (sitesFrom [⟨2, none⟩] _ sequenceDump ++ []))) = _
  rw [hsequence, sitesFrom_none rfl]
  rfl

end Node

end AngularLint
