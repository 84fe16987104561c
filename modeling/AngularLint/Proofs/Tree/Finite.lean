import AngularLint.Proofs.Tree.Hydration

/-!
# Dumps that can be hydrated

Reading a range fails for one reason only: a coordinate of the location is an infinite number, which
no integer is. So a dump none of whose locations holds an infinite number is hydrated, and
`hydrate_eq_ofDump` says to what, and what the stack of results looks like on the way.

`Json.Within` is the one notion this needs: what occurs in a value, at any depth and under any key.
An infinite number *outside* a location does no harm, so the condition speaks of locations and not
of the dump as a whole.
-/

set_option autoImplicit false

namespace AngularLint

namespace Json

/-- The values that occur in a value, itself included. -/
inductive Within (v : Json) : Json → Prop
  | itself : Within v v
  | item {item : Json} {items : List Json} (mem : item ∈ items) (inside : Within v item) :
      Within v (.arr items)
  | entry {key : Text} {value : Json} {entries : List (Text × Json)}
      (mem : (key, value) ∈ entries) (inside : Within v value) : Within v (.obj entries)

/-- Does no location in the value hold an infinite number? -/
def FiniteLocations (v : Json) : Prop :=
  ∀ o location x, Within (.obj o) v → find? "loc" o = some location →
    Within (.float x) location → Decimal.isInfinite x = false

theorem Within.trans {a b c : Json} (hab : Within a b) (hbc : Within b c) : Within a c := by
  induction hbc with
  | itself => exact hab
  | item mem _ ih => exact .item mem ih
  | entry mem _ ih => exact .entry mem ih

theorem within_float_arr {x : Float} {items : List Json} :
    Within (.float x) (.arr items) ↔ ∃ item ∈ items, Within (.float x) item := by
  constructor
  · intro h
    cases h with
    | item mem inside => exact ⟨_, mem, inside⟩
  · rintro ⟨item, mem, inside⟩
    exact .item mem inside

theorem within_float_obj {x : Float} {entries : List (Text × Json)} :
    Within (.float x) (.obj entries) ↔ ∃ e ∈ entries, Within (.float x) e.2 := by
  constructor
  · intro h
    cases h with
    | entry mem inside => exact ⟨_, mem, inside⟩
  · rintro ⟨e, mem, inside⟩
    exact .entry mem inside

theorem not_within_float {x : Float} :
    ¬Within (.float x) .null ∧ (∀ b, ¬Within (.float x) (.bool b)) ∧
      (∀ n, ¬Within (.float x) (.int n)) ∧ ∀ s, ¬Within (.float x) (.str s) :=
  ⟨nofun, nofun, nofun, nofun⟩

theorem finiteLocations_of_not_within {v : Json} (h : ∀ x, ¬Within (.float x) v) :
    v.FiniteLocations := by
  intro o location x ho hfind hx
  exact absurd ((hx.trans (.entry (mem_of_find? hfind) .itself)).trans ho) (h x)

theorem within_of_get? {key : Text} {v inside : Json} (h : v.get? key = some inside) :
    Within inside v := by
  cases v with
  | obj entries => exact .entry (mem_of_find? h) .itself
  | _ => exact absurd h (by simp [get?])

/-- A value looked up with a default is in the value, or is the default. -/
theorem within_getD {key : Text} {v a : Json} (h : Within a ((v.get? key).getD .null)) :
    Within a v ∨ a = .null := by
  cases hget : v.get? key with
  | none =>
    rw [hget] at h
    cases h
    exact Or.inr rfl
  | some inside =>
    rw [hget] at h
    exact Or.inl (h.trans (within_of_get? hget))

end Json

namespace Range

theorem coordinate_eq_infinite {v : Json} (h : coordinate v = .error .infinite) :
    ∃ x, v = .float x ∧ Decimal.isInfinite x = true := by
  cases v with
  | float x =>
    refine ⟨x, rfl, ?_⟩
    rw [coordinate] at h
    split at h
    · exact absurd h (by simp)
    · split at h
      · assumption
      · exact absurd h (by simp)
  | str s =>
    rw [coordinate] at h
    split at h <;> exact absurd h (by simp)
  | _ => exact absurd h (by simp [coordinate])

theorem coordinateAt_eq_infinite {key : Text} {position : Json}
    (h : coordinateAt key position = .error .infinite) :
    ∃ x, Json.Within (.float x) position ∧ Decimal.isInfinite x = true := by
  rw [coordinateAt] at h
  split at h
  · rename_i v hget
    obtain ⟨x, rfl, hx⟩ := coordinate_eq_infinite h
    exact ⟨x, Json.within_of_get? hget, hx⟩
  · exact absurd h (by simp)

/-- What occurs in the end of a location occurs in the location: the end is an entry of it, or the
start is taken for the end. -/
theorem within_finish {location a : Json}
    (h : Json.Within a (firstTruthy [(location.get? "end").getD .null]
      ((location.get? "start").getD .null))) :
    Json.Within a location ∨ a = .null := by
  rw [firstTruthy, List.find?_singleton] at h
  split at h
  · exact Json.within_getD h
  · exact Json.within_getD h

/-- A location whose range cannot be read holds an infinite number. -/
theorem ofLocation_eq_infinite {file : Option Text} {location : Json}
    (h : ofLocation file location = .error .infinite) :
    ∃ x, Json.Within (.float x) location ∧ Decimal.isInfinite x = true := by
  have hposition {key : Text} {position : Json}
      (hwithin : ∀ x, Json.Within (.float x) position →
        Json.Within (.float x) location ∨ (.float x : Json) = .null)
      (hcoordinate : coordinateAt key position = .error .infinite) :
      ∃ x, Json.Within (.float x) location ∧ Decimal.isInfinite x = true := by
    obtain ⟨x, hx, hinfinite⟩ := coordinateAt_eq_infinite hcoordinate
    exact ⟨x, (hwithin x hx).resolve_right (by simp), hinfinite⟩
  -- The four coordinates in turn: two of the start, and two of the end.
  rw [ofLocation] at h
  rcases bind_eq_error.mp h with h | ⟨_, -, h⟩
  · exact hposition (fun _ => Json.within_getD) h
  rcases bind_eq_error.mp h with h | ⟨_, -, h⟩
  · exact hposition (fun _ => Json.within_getD) h
  rcases bind_eq_error.mp h with h | ⟨_, -, h⟩
  · exact hposition (fun _ => within_finish) h
  rcases bind_eq_error.mp h with h | ⟨_, -, h⟩
  · exact hposition (fun _ => within_finish) h
  exact absurd h (by simp [pure, Except.pure])

theorem ofEntries_eq_error {file : Option Text} {entries : List (Text × Json)}
    {fault : CoordinateFault} (h : ofEntries file entries = .error fault) :
    ∃ location x, Json.find? "loc" entries = some location ∧ Json.Within (.float x) location ∧
      Decimal.isInfinite x = true := by
  rw [ofEntries] at h
  split at h
  · rename_i location hfind
    split at h
    · exact absurd h (by simp)
    · exact absurd h (by simp)
    · rename_i hlocation
      obtain ⟨x, hx, hinfinite⟩ := ofLocation_eq_infinite hlocation
      exact ⟨_, x, hfind, hx, hinfinite⟩
  · exact absurd h (by simp)

end Range

/-! ## Every object of the agenda occurs in the dump -/

namespace Hydrate

theorem within_of_mem_objectsOf {c : Object} {v : Json} (h : c ∈ objectsOf v) :
    Json.Within (.obj c) v := by
  cases v with
  | obj entries =>
    rw [objectsOf, List.mem_singleton] at h
    subst h
    exact .itself
  | arr items =>
    obtain ⟨item, hitem, hobject⟩ := List.mem_filterMap.mp h
    cases item with
    | obj entries =>
      rw [object?, Option.some.injEq] at hobject
      subst hobject
      exact .item hitem .itself
    | _ => exact absurd hobject (by simp [object?])
  | _ => exact absurd h (by simp [objectsOf])

theorem within_of_mem_postorder {c o : Object} (h : c ∈ postorder o) :
    Json.Within (.obj c) (.obj o) := by
  induction o using postorder.induct with
  | case1 o ih =>
    rw [postorder_eq, List.mem_append, List.mem_flatMap, List.mem_singleton] at h
    rcases h with ⟨p, hp, hc⟩ | rfl
    · obtain ⟨key, value, hmem, -, hvalue⟩ := mem_inner.mp hp
      exact (ih p hp hc).trans (.entry hmem (within_of_mem_objectsOf hvalue))
    · exact .itself

theorem located_of_finiteLocations {o : Object} (h : (Json.obj o).FiniteLocations)
    (file : Option Text) : ∀ p ∈ postorder o, Located file p := by
  intro p hp type htype
  cases hrange : Range.ofEntries file p with
  | ok range => exact ⟨range, rfl⟩
  | error fault =>
    obtain ⟨location, x, hfind, hx, hinfinite⟩ := Range.ofEntries_eq_error hrange
    rw [h p location x (within_of_mem_postorder hp) hfind hx] at hinfinite
    exact absurd hinfinite (by simp)

end Hydrate

namespace Node

open Hydrate

theorem hydrate_of_finiteLocations {file : Option Text} {raw : Json} (h : raw.FiniteLocations) :
    hydrate file raw = .ok (ofDump file raw) := by
  cases raw with
  | obj o => exact (hydrate_eq_ok_iff file o _).mpr ⟨located_of_finiteLocations h file, rfl⟩
  | _ => rw [hydrate, ofDump] <;> simp [pure, Except.pure]

/-- **Hydration is the recursion over the dump**, where no location holds an infinite number. On the
way, whenever an object's turn comes, the results of the objects inside it lie on top of the stack,
one for each of them and in their order. -/
theorem hydrate_eq_ofDump (file : Option Text) (raw : Json) (h : raw.FiniteLocations) :
    hydrate file raw = .ok (ofDump file raw) ∧
      ∀ o before p after, raw = .obj o → agenda o = before ++ p :: after →
        ∃ below, build file before [] =
          .ok (((inner p).map fun c => ofDump file (.obj c)).reverse ++ below) := by
  constructor
  · cases raw with
    | obj o => exact (hydrate_eq_ok_iff file o _).mpr ⟨located_of_finiteLocations h file, rfl⟩
    | _ => rw [hydrate, ofDump] <;> simp [pure, Except.pure]
  · intro o before p after hraw hagenda
    subst hraw
    refine exists_build_before file hagenda ?_
    rw [agenda_eq_postorder]
    exact located_of_finiteLocations h file

/-- A kind without a shape of its own, with a location and a child. -/
def branchDump : Json :=
  .obj [("type", .str "IfStatement"),
    ("loc", .obj [("start", .obj [("line", .int 1), ("column", .int 0)])]),
    ("test", .obj [("type", .str "ThisExpression")])]

/-- A list with a hole, an object that is no node, and a node. -/
def unevenDump : Json :=
  .obj [("type", .str "Program"), ("body", .arr [.null, .obj [("name", .str "a")], branchDump])]

theorem hydrate_unevenDump :
    unevenDump.FiniteLocations ∧
      hydrate none unevenDump = .ok (some (.mk none (.program [none, none,
        some (.mk (some ⟨.str "<unknown>", 1, 1, 1, 1⟩)
          (.other "IfStatement" [("test", .child (some (.mk none .thisExpression)))]))]))) := by
  have hfinite : unevenDump.FiniteLocations := by
    refine Json.finiteLocations_of_not_within fun x => ?_
    simp [unevenDump, branchDump, Json.within_float_obj, Json.within_float_arr,
      Json.not_within_float]
  have hnull : ofDump none .null = none := by simp [ofDump]
  have hplain : ofDump none (.obj [("name", .str "a")]) = none := by rw [ofDump_obj]; rfl
  have hthis : ofDump none (.obj [("type", .str "ThisExpression")]) =
      some (.mk none .thisExpression) := by rw [ofDump_obj]; rfl
  have hbranch : ofDump none branchDump = some (.mk (some ⟨.str "<unknown>", 1, 1, 1, 1⟩)
      (.other "IfStatement" [("test", .child (some (.mk none .thisExpression)))])) := by
    rw [← hthis, branchDump, ofDump_obj]
    rfl
  have hroot : ofDump none unevenDump = some (.mk none (.program
      [ofDump none .null, ofDump none (.obj [("name", .str "a")]), ofDump none branchDump])) := by
    rw [unevenDump, ofDump_obj]
    rfl
  refine ⟨hfinite, ?_⟩
  rw [(hydrate_eq_ofDump none unevenDump hfinite).1, hroot, hnull, hplain, hbranch]

end Node

end AngularLint
