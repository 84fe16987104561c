import AngularLint.Config.Setting

/-!
# Settings that override each other

Settings are kept in one list, and a setting for a rule that has one takes the place of the old one.
So of settings that are added in turn the last for a rule counts (`lookup_override`), and the rules
stand in the order in which they first came (`ids_override`).
-/

set_option autoImplicit false

namespace AngularLint

theorem eraseDups_filter {α : Type} [BEq α] [LawfulBEq α] (p : α → Bool) (l : List α) :
    (l.filter p).eraseDups = l.eraseDups.filter p := by
  induction h : l.length using Nat.strongRecOn generalizing l with
  | ind size ih =>
    subst h
    cases l with
    | nil => rfl
    | cons a rest =>
      have hrest : (rest.filter fun b => !b == a).length < (a :: rest).length :=
        Nat.lt_succ_of_le (List.length_filter_le _ _)
      rw [List.eraseDups_cons]
      by_cases ha : p a = true
      · rw [List.filter_cons_of_pos ha, List.filter_cons_of_pos ha, List.eraseDups_cons,
          ← ih _ hrest _ rfl, List.filter_filter, List.filter_filter]
        simp only [Bool.and_comm]
      · rw [List.filter_cons_of_neg ha, List.filter_cons_of_neg ha, ← ih _ hrest _ rfl,
          List.filter_filter]
        -- What satisfies `p` is no `a` anyway.
        congr 1
        refine List.filter_congr fun b _ => ?_
        by_cases hb : b = a
        · subst hb
          simp [ha]
        · simp [hb]

theorem lookup_cons_eq_if (key : Text) (e : Text × Setting) (rest : List (Text × Setting)) :
    (e :: rest).lookup key = if key = e.1 then some e.2 else rest.lookup key := by
  rw [List.lookup_cons]
  by_cases h : key = e.1
  · rw [h, if_pos rfl, beq_self_eq_true]
  · rw [if_neg h, beq_false_of_ne h]

namespace Settings

/-- The ids of the rules that have a setting. -/
def ids (settings : Settings) : List Text := settings.map (·.1)

/-- Adds settings in turn. -/
def override (settings : Settings) (more : List (Text × Setting)) : Settings :=
  more.foldl (fun settings e => settings.insert e.1 e.2) settings

theorem lookup_insert (settings : Settings) (id key : Text) (setting : Setting) :
    (settings.insert id setting).lookup key =
      if key = id then some setting else settings.lookup key := by
  induction settings with
  | nil => exact lookup_cons_eq_if key (id, setting) []
  | cons e rest ih =>
    rw [insert, lookup_cons_eq_if]
    split
    · rename_i he
      obtain rfl : e.1 = id := eq_of_beq he
      rw [lookup_cons_eq_if]
      split <;> rfl
    · rename_i he
      have hne : e.1 ≠ id := fun h => he (beq_iff_eq.mpr h)
      rw [lookup_cons_eq_if, ih]
      by_cases h : key = e.1
      · rw [if_pos h, if_pos h, if_neg (h ▸ hne)]
      · rw [if_neg h, if_neg h]

theorem ids_insert (settings : Settings) (id : Text) (setting : Setting) :
    ids (settings.insert id setting) =
      if id ∈ settings.ids then settings.ids else settings.ids ++ [id] := by
  induction settings with
  | nil => rfl
  | cons e rest ih =>
    rw [insert]
    split
    · rename_i he
      obtain rfl : e.1 = id := eq_of_beq he
      simp [ids]
    · rename_i he
      have hne : id ≠ e.1 := fun h => he (beq_iff_eq.mpr h.symm)
      show e.1 :: ids (insert id setting rest) =
        if id ∈ e.1 :: ids rest then e.1 :: ids rest else e.1 :: ids rest ++ [id]
      rw [ih]
      by_cases h : id ∈ ids rest
      · rw [if_pos h, if_pos (List.mem_cons_of_mem _ h)]
      · rw [if_neg h, if_neg fun hmem => (List.mem_cons.mp hmem).elim hne h]
        rfl

/-- **The last setting counts.** -/
theorem lookup_override (settings : Settings) (more : List (Text × Setting)) (key : Text) :
    (settings.override more).lookup key = (more.reverse.lookup key).or (settings.lookup key) := by
  induction more generalizing settings with
  | nil => rfl
  | cons e rest ih =>
    refine (ih (settings.insert e.1 e.2)).trans ?_
    rw [lookup_insert, List.reverse_cons, List.lookup_append, Option.or_assoc, lookup_cons_eq_if]
    by_cases h : key = e.1
    · rw [if_pos h, if_pos h]
      rfl
    · rw [if_neg h, if_neg h]
      rfl

/-- **The first place counts.** -/
theorem ids_override (settings : Settings) (more : List (Text × Setting)) :
    ids (settings.override more) =
      settings.ids ++ ((more.map (·.1)).eraseDups.filter fun id => !settings.ids.contains id) := by
  induction more generalizing settings with
  | nil => simp [override]
  | cons e rest ih =>
    refine (ih (settings.insert e.1 e.2)).trans ?_
    rw [ids_insert, List.map_cons, List.eraseDups_cons, eraseDups_filter]
    by_cases h : e.1 ∈ settings.ids
    · rw [if_pos h, List.filter_cons_of_neg (by simpa using h), List.filter_filter]
      congr 1
      refine List.filter_congr fun id _ => ?_
      by_cases hid : id = e.1
      · subst hid
        simp [h]
      · simp [hid]
    · rw [if_neg h, List.filter_cons_of_pos (by simpa using h), List.append_assoc,
        List.filter_filter, List.singleton_append]
      congr 2
      refine List.filter_congr fun id _ => ?_
      rw [List.contains_append, Bool.not_or, List.contains_cons, List.contains_nil, Bool.or_false]

end Settings

end AngularLint
