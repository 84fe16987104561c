import AngularLint.Proofs.Except
import AngularLint.Proofs.Tree.Descent

/-!
# Hydration is the recursion over the dump

`Node.hydrate` lists the objects of a dump with a stack of pending ones, and goes through the list
with a stack of results (`Tree/Hydrate.lean`). Three facts make that the plain recursion
`Node.ofDump` (`Proofs/Tree/Descent.lean`):

* **The agenda is the postorder** (`agenda_eq_postorder`): the pending objects are taken from the
  far end, so the listing runs backwards through a preorder, and every object comes right behind the
  objects inside it.
* **Results lie where they are needed** (`build_postorder`): going through the postorder of some
  objects leaves their results on the stack, in order, and everything below them untouched. It is
  the compiler theorem of a stack machine, with the objects as the code.
* **The two ways to find a child agree** (`assemble_eq`): laying results out along the entries of an
  object gives under every key what looking the key up gives.

What may fail is only the reading of a range, and `hydrate_eq_ok_iff` says exactly when it does.
-/

set_option autoImplicit false

namespace AngularLint

namespace Hydrate

/-! ## The agenda is the postorder -/

theorem bulk_cons (o : Object) (rest : List Object) : bulk (o :: rest) = sizeOf o + bulk rest := by
  simp only [bulk, List.map_cons, total_cons]

theorem sizeOf_le_bulk {c : Object} {objects : List Object} (h : c ∈ objects) :
    sizeOf c ≤ bulk objects := by
  induction objects with
  | nil => exact absurd h (by simp)
  | cons o rest ih =>
    rw [bulk_cons]
    rcases List.mem_cons.mp h with rfl | hrest
    · omega
    · have := ih hrest
      omega

theorem sizeOf_lt_of_mem_inner {c o : Object} (h : c ∈ inner o) : sizeOf c < sizeOf o :=
  Nat.lt_of_le_of_lt (sizeOf_le_bulk h) (bulk_inner_lt o)

/-- The objects directly inside an object are those of its entries, but for the position keys. -/
theorem mem_inner {c o : Object} :
    c ∈ inner o ↔ ∃ key value, (key, value) ∈ o ∧ key ∉ positionKeys ∧ c ∈ objectsOf value := by
  induction o with
  | nil => simp only [inner, List.not_mem_nil, false_and, exists_false]
  | cons e rest ih =>
    obtain ⟨k, v⟩ := e
    rw [inner, List.mem_append, ih]
    constructor
    · rintro (hfirst | ⟨key, value, hmem, hkey, hc⟩)
      · split at hfirst
        · exact absurd hfirst (by simp)
        · rename_i hk
          exact ⟨k, v, List.mem_cons_self, fun h => hk ((isPositionKey_iff k).mpr h), hfirst⟩
      · exact ⟨key, value, List.mem_cons_of_mem _ hmem, hkey, hc⟩
    · rintro ⟨key, value, hmem, hkey, hc⟩
      rcases List.mem_cons.mp hmem with heq | hrest
      · obtain ⟨rfl, rfl⟩ := Prod.mk.inj heq
        refine Or.inl ?_
        rwa [if_neg fun h => hkey ((isPositionKey_iff key).mp h)]
      · exact Or.inr ⟨key, value, hrest, hkey, hc⟩

/-- The objects of a dump by recursion, each right behind the objects inside it. -/
def postorder (o : Object) : List Object :=
  ((inner o).attach.flatMap fun ⟨c, _⟩ => postorder c) ++ [o]
termination_by sizeOf o
decreasing_by rename_i h; exact sizeOf_lt_of_mem_inner h

theorem postorder_eq (o : Object) : postorder o = (inner o).flatMap postorder ++ [o] := by
  rw [postorder, List.flatMap_subtype (g := postorder) fun _ _ => rfl, List.unattach_attach]

theorem mem_postorder_self (o : Object) : o ∈ postorder o := by
  rw [postorder_eq]
  exact List.mem_append_right _ List.mem_cons_self

theorem mem_postorder_of_mem_inner {c o p : Object} (h : c ∈ inner o) (hp : p ∈ postorder c) :
    p ∈ postorder o := by
  rw [postorder_eq]
  exact List.mem_append_left _ (List.mem_flatMap.mpr ⟨c, h, hp⟩)

theorem agendaFrom_eq (listed pending : List Object) :
    agendaFrom listed pending = pending.reverse.flatMap postorder ++ listed := by
  fun_induction agendaFrom listed pending with
  | case1 listed => rfl
  | case2 listed o rest ih =>
    -- What is inside `o` is pending in reverse, so that reversing it once more restores its order.
    rw [ih, List.reverse_append, List.reverse_reverse, List.reverse_cons, List.flatMap_append,
      List.flatMap_append, List.flatMap_singleton, postorder_eq o]
    simp only [List.append_assoc, List.singleton_append]

/-- **The agenda is the postorder.** -/
theorem agenda_eq_postorder (o : Object) : agenda o = postorder o := by
  rw [agenda, agendaFrom_eq, List.reverse_singleton, List.flatMap_singleton, List.append_nil]

/-! ## Finding a child -/

section
variable (file : Option Text)

/-- What became of an object. -/
def result (o : Object) : Option Node := Node.ofDump file (.obj o)

theorem fillItems_eq (items : List Json) (more : List (Option Node)) :
    fillItems items ((items.filterMap object?).map (result file) ++ more) =
      items.map (Node.ofDump file) := by
  induction items with
  | nil => rfl
  | cons v rest ih =>
    cases v with
    | obj o => simp only [List.filterMap_cons, object?, List.map_cons, List.cons_append, fillItems,
        List.head?_cons, Option.join_some, List.tail_cons, ih, result]
    | _ => simp only [List.filterMap_cons, object?, fillItems, ih, List.map_cons, Node.ofDump]

theorem fill_position {key : Text} (hkey : isPositionKey key = true) (value : Json) (rest : Object)
    (results : List (Option Node)) : fill ((key, value) :: rest) results = fill rest results := by
  cases value <;> rw [fill, if_pos hkey] <;> simp

/-- An entry takes the results of its own objects, and leaves the others to the entries
behind it. -/
theorem fill_entry {key : Text} (hkey : ¬isPositionKey key = true) (value : Json) (rest : Object)
    (more : List (Option Node)) :
    fill ((key, value) :: rest) ((objectsOf value).map (result file) ++ more) =
      (key, Node.entryOf file value) :: fill rest more := by
  cases value with
  | obj inside =>
    rw [fill, if_neg hkey]
    rfl
  | arr items =>
    rw [fill, if_neg hkey, Node.entryOf, objectsOf, fillItems_eq,
      List.drop_left' (by rw [List.length_map])]
  | _ => rw [fill, if_neg hkey] <;> simp [objectsOf, Node.entryOf]

theorem fill_eq (o : Object) (more : List (Option Node)) :
    fill o ((inner o).map (result file) ++ more) = o.filterMap (Node.entryOf? file) := by
  induction o with
  | nil => rfl
  | cons e rest ih =>
    obtain ⟨key, value⟩ := e
    by_cases hkey : isPositionKey key = true
    · -- The entry has neither results nor a place among the entries of the node.
      rw [fill_position hkey, inner, if_pos hkey, List.nil_append, ih, List.filterMap_cons_none]
      rw [Node.entryOf?, if_pos ((isPositionKey_iff key).mp hkey)]
    · have hentry : Node.entryOf? file (key, value) = some (key, Node.entryOf file value) := by
        rw [Node.entryOf?, if_neg fun h => hkey ((isPositionKey_iff key).mpr h)]
      rw [inner, if_neg hkey, List.filterMap_cons_some hentry, List.map_append, List.append_assoc,
        fill_entry file hkey, ih]

/-- Looking up what became of the entries is looking up the entries. -/
theorem lookup_filterMap_entryOf? {key : Text} (hkey : key ∉ positionKeys) (o : Object) :
    (o.filterMap (Node.entryOf? file)).lookup key = (Json.find? key o).map (Node.entryOf file) := by
  induction o with
  | nil => rfl
  | cons e rest ih =>
    obtain ⟨k, value⟩ := e
    rw [Json.find?, List.lookup_cons]
    by_cases hk : k ∈ positionKeys
    · have hne : (key == k) = false := beq_false_of_ne fun h => hkey (h ▸ hk)
      rw [List.filterMap_cons_none (by rw [Node.entryOf?, if_pos hk]), ih, hne]
      rfl
    · rw [List.filterMap_cons_some (by rw [Node.entryOf?, if_neg hk]), List.lookup_cons, ih]
      cases key == k <;> rfl

theorem childAt_eq {key : Text} (hkey : key ∉ positionKeys) (o : Object) :
    childAt key (o.filterMap (Node.entryOf? file)) = Node.childUnder file o key := by
  rw [childAt, lookup_filterMap_entryOf? file hkey, Node.childUnder]
  cases Json.find? key o with
  | none => rfl
  | some v => cases v <;> rfl

theorem childrenAt_eq {key : Text} (hkey : key ∉ positionKeys) (o : Object) :
    childrenAt key (o.filterMap (Node.entryOf? file)) = Node.childrenUnder file o key := by
  rw [childrenAt, lookup_filterMap_entryOf? file hkey, Node.childrenUnder]
  cases Json.find? key o with
  | none => rfl
  | some v => cases v <;> rfl

theorem shapeOf_eq_declared (type : Text) (o : Object) (entries : List (Text × Entry)) :
    shapeOf type o entries =
      Shape.declared type o (childAt · entries) (childrenAt · entries) entries := rfl

theorem shapeOf_eq (type : Text) (o : Object) :
    shapeOf type o (o.filterMap (Node.entryOf? file)) =
      Shape.declared type o (Node.childUnder file o) (Node.childrenUnder file o)
        (o.filterMap (Node.entryOf? file)) := by
  rw [shapeOf_eq_declared]
  unfold Shape.declared
  -- No child stands under a key of `positionKeys`, so each key of the table finds the same.
  simp (disch := decide) only [childAt_eq, childrenAt_eq]

/-! ## Results lie where they are needed -/

/-- Can the range of the object be read, if the object needs one? -/
def Located (o : Object) : Prop :=
  ∀ type, Json.find? "type" o = some (.str type) → ∃ range, Range.ofEntries file o = .ok range

theorem assemble_eq {o : Object} (h : Located file o) :
    assemble file o ((inner o).map (result file)) = .ok (result file o) := by
  rw [assemble, result, Node.ofDump_obj]
  cases htype : Json.find? "type" o with
  | none => rfl
  | some v =>
    cases v with
    | str type =>
      obtain ⟨range, hrange⟩ := h type htype
      have hfill := fill_eq file o []
      rw [List.append_nil] at hfill
      dsimp only
      rw [hrange, hfill, shapeOf_eq, Node.rangeOf, hrange]
      rfl
    | _ => rfl

theorem located_of_assemble {o : Object} {results : List (Option Node)} {n : Option Node}
    (h : assemble file o results = .ok n) : Located file o := by
  intro type htype
  rw [assemble, htype] at h
  obtain ⟨range, hrange, -⟩ := bind_eq_ok.mp h
  exact ⟨range, hrange⟩

/-- One object: its results are on top of the stack, the last uppermost, and its own takes their
place. -/
theorem build_cons {o : Object} (h : Located file o) (rest : List Object)
    (results : List (Option Node)) :
    build file (o :: rest) (((inner o).map (result file)).reverse ++ results) =
      build file rest (result file o :: results) := by
  have hlength : (((inner o).map (result file)).reverse).length = (inner o).length := by
    rw [List.length_reverse, List.length_map]
  rw [build, ← hlength, List.take_left, List.drop_left, List.reverse_reverse, assemble_eq file h]
  rfl

/-- **Going through a postorder leaves the results, and nothing else.** The induction is on the bulk
of the objects: what is inside the first one has less, and so have the others. -/
theorem build_postorder (objects rest : List Object) (results : List (Option Node))
    (h : ∀ o ∈ objects.flatMap postorder, Located file o) :
    build file (objects.flatMap postorder ++ rest) results =
      build file rest ((objects.map (result file)).reverse ++ results) := by
  induction hsize : bulk objects using Nat.strongRecOn generalizing objects rest results with
  | ind size ih =>
    subst hsize
    cases objects with
    | nil => rfl
    | cons o others =>
      have hlt := bulk_inner_lt o
      have hinner : bulk (inner o) < bulk (o :: others) := by rw [bulk_cons]; omega
      have hothers : bulk others < bulk (o :: others) := by rw [bulk_cons]; omega
      rw [List.flatMap_cons] at h
      have ho : Located file o := h o (List.mem_append_left _ (mem_postorder_self o))
      -- First what is inside `o`, which leaves its results on top; then `o` itself, which takes
      -- them away; then the others.
      rw [List.flatMap_cons, postorder_eq, List.append_assoc, List.append_assoc,
        ih _ hinner _ _ _ (fun p hp => h p (List.mem_append_left _ (by
          rw [postorder_eq]; exact List.mem_append_left _ hp))) rfl,
        List.singleton_append, build_cons file ho,
        ih _ hothers _ _ _ (fun p hp => h p (List.mem_append_right _ hp)) rfl,
        List.map_cons, List.reverse_cons, List.append_assoc, List.singleton_append]

theorem located_of_build {objects : List Object} {results all : List (Option Node)}
    (h : build file objects results = .ok all) : ∀ o ∈ objects, Located file o := by
  induction objects generalizing results with
  | nil => intro o ho; exact absurd ho (by simp)
  | cons o rest ih =>
    rw [build] at h
    obtain ⟨n, hassemble, hbuild⟩ := bind_eq_ok.mp h
    intro p hp
    rcases List.mem_cons.mp hp with rfl | hrest
    · exact located_of_assemble file hassemble
    · exact ih hbuild p hrest

theorem exists_of_flatMap_postorder {objects before after : List Object} {p : Object}
    (h : objects.flatMap postorder = before ++ p :: after) :
    ∃ o ∈ objects, ∃ earlier own later, before = earlier ++ own ∧
      postorder o = own ++ p :: later := by
  induction objects generalizing before with
  | nil => exact absurd h (by simp)
  | cons o rest ih =>
    rw [List.flatMap_cons] at h
    rcases List.append_eq_append_iff.mp h with ⟨own, hbefore, hrest⟩ | ⟨own, ho, hafter⟩
    · obtain ⟨c, hc, earlier, own', later, rfl, hp⟩ := ih hrest
      refine ⟨c, List.mem_cons_of_mem _ hc, postorder o ++ earlier, own', later, ?_, hp⟩
      rw [hbefore, List.append_assoc]
    · cases own with
      | nil =>
        -- The object is the first of what comes behind the postorder of `o`.
        have hrest : rest.flatMap postorder = [] ++ p :: after := by simpa using hafter.symm
        obtain ⟨c, hc, earlier, own', later, hown, hp⟩ := ih hrest
        have hnil : earlier = [] ∧ own' = [] := by simpa using hown
        refine ⟨c, List.mem_cons_of_mem _ hc, before, [], later, (List.append_nil _).symm, ?_⟩
        rw [hp, hnil.2]
      | cons q later =>
        rw [List.cons_append, List.cons.injEq] at hafter
        refine ⟨o, List.mem_cons_self, [], before, later, rfl, ?_⟩
        rw [ho, hafter.1]

/-- The postorder up to an object ends with the postorder of the objects inside it. -/
theorem exists_postorder_before {o p : Object} {before after : List Object}
    (h : postorder o = before ++ p :: after) :
    ∃ earlier, before = earlier ++ (inner p).flatMap postorder := by
  induction o using postorder.induct generalizing before after with
  | case1 o ih =>
    rw [postorder_eq] at h
    -- The object is `o` itself, which is listed last, or lies inside one of those inside `o`.
    rcases List.eq_nil_or_concat after with rfl | ⟨after, last, rfl⟩
    · obtain ⟨hbefore, hp⟩ := List.append_inj' h rfl
      refine ⟨[], ?_⟩
      rw [← hbefore, List.cons.inj hp |>.1, List.nil_append]
    · rw [List.concat_eq_append, ← List.cons_append, ← List.append_assoc] at h
      obtain ⟨c, hc, earlier, own, later, rfl, hp⟩ :=
        exists_of_flatMap_postorder (List.append_inj' h rfl).1
      obtain ⟨earlier', rfl⟩ := ih c hc hp
      exact ⟨earlier ++ earlier', (List.append_assoc _ _ _).symm⟩

theorem build_append (listed others : List Object) (results : List (Option Node)) :
    build file (listed ++ others) results = build file listed results >>= build file others := by
  induction listed generalizing results with
  | nil => rfl
  | cons o rest ih =>
    rw [List.cons_append, build, build]
    cases assemble file o (results.take (inner o).length).reverse with
    | error fault => rfl
    | ok n => exact ih _

/-- **When an object's turn comes, what became of the objects inside it lies on top of the stack**,
one for each of them and in their order. -/
theorem exists_build_before {o p : Object} {before after : List Object}
    (hagenda : agenda o = before ++ p :: after) (h : ∀ q ∈ agenda o, Located file q) :
    ∃ below, build file before [] = .ok (((inner p).map (result file)).reverse ++ below) := by
  rw [agenda_eq_postorder] at hagenda h
  obtain ⟨earlier, rfl⟩ := exists_postorder_before hagenda
  have hall := build_postorder file [o] [] [] (by rwa [List.flatMap_singleton])
  rw [List.flatMap_singleton, List.append_nil, hagenda, List.append_assoc, build_append] at hall
  obtain ⟨below, hearlier, -⟩ := bind_eq_ok.mp hall
  have hinner : ∀ q ∈ (inner p).flatMap postorder, Located file q := by
    intro q hq
    refine h q ?_
    rw [hagenda]
    exact List.mem_append_left _ (List.mem_append_right _ hq)
  have := build_postorder file (inner p) [] below hinner
  rw [List.append_nil] at this
  refine ⟨below, ?_⟩
  rw [build_append, hearlier]
  exact this

end

end Hydrate

namespace Node

open Hydrate

/-- **When hydration succeeds, and to what.** The one thing that may go wrong is a range. -/
theorem hydrate_eq_ok_iff (file : Option Text) (o : Object) (tree : Option Node) :
    hydrate file (.obj o) = .ok tree ↔
      (∀ p ∈ postorder o, Located file p) ∧ tree = ofDump file (.obj o) := by
  have hbuild (h : ∀ p ∈ postorder o, Located file p) :
      build file (agenda o) [] = .ok [ofDump file (.obj o)] := by
    have := build_postorder file [o] [] [] (by rwa [List.flatMap_singleton])
    rw [List.flatMap_singleton, List.append_nil] at this
    rw [agenda_eq_postorder, this]
    rfl
  constructor
  · intro h
    rw [hydrate] at h
    obtain ⟨all, hall, -⟩ := bind_eq_ok.mp h
    have hlocated := located_of_build file hall
    rw [agenda_eq_postorder] at hlocated
    rw [hbuild hlocated] at h
    exact ⟨hlocated, (Except.ok.inj h).symm⟩
  · rintro ⟨hlocated, rfl⟩
    rw [hydrate, hbuild hlocated]
    rfl

end Node

end AngularLint
