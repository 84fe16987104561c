import AngularLint.Rule.Template
import Mathlib.Data.List.TakeWhile

/-!
# Which parts of a template are slots

`Template.segments` goes through a template from left to right and takes every slot that it comes
to. What it should find is said without any order: a part of a text is a slot if it **occurs**
there, whatever stands around it (`Occurs`). Slots do not overlap (`Occurs.disjoint`), so it does
not matter where one begins to look, and a template splits into its slots and the text between them
in one way only. This is the way that `segments` has (**`segments_eq_iff`**).

The name in a slot is what is left of its content without the blanks around it; `Names` says so, and
what is taken for the name where there are only blanks.
-/

set_option autoImplicit false

namespace AngularLint.Template

/-! ## Occurrences -/

def opening : List CodePoint := [.char '{', .char '{']

def closing : List CodePoint := [.char '}', .char '}']

/-- A slot as it stands in a template. -/
def slotText (content : List CodePoint) : List CodePoint := opening ++ content ++ closing

/-- Is it what may stand between the braces of a slot? -/
structure IsSlotContent (content : List CodePoint) : Prop where
  nonempty : content ≠ []
  braceless : ∀ c ∈ content, isContent c = true

/-- Is there a slot with the content between the two parts of a text? -/
structure Occurs (s before content after : List CodePoint) : Prop where
  split : s = before ++ (slotText content ++ after)
  valid : IsSlotContent content

theorem afterClosing?_eq_some_iff {s after : List CodePoint} :
    afterClosing? s = some after ↔ s = closing ++ after := by
  constructor
  · intro h
    unfold afterClosing? at h
    split at h
    · rw [← Option.some.inj h]
      rfl
    · exact absurd h (by simp)
  · rintro rfl
    rfl

/-- **The slot at the start of a text** is one that occurs there. -/
theorem slot?_eq_some_iff {s content after : List CodePoint} :
    slot? s = some (content, after) ↔ Occurs s [] content after := by
  constructor
  · intro h
    unfold slot? at h
    split at h
    · rename_i inside
      split at h
      · exact absurd h (by simp)
      · rename_i hnonempty
        obtain ⟨after', hafter, hpair⟩ := Option.map_eq_some_iff.mp h
        obtain ⟨rfl, rfl⟩ := Prod.mk.inj hpair
        have hinside : inside = inside.takeWhile isContent ++ (closing ++ after') := by
          rw [← afterClosing?_eq_some_iff.mp hafter, List.takeWhile_append_dropWhile]
        refine ⟨?_, fun hnil => hnonempty (List.isEmpty_iff.mpr hnil), fun c hc =>
          List.mem_takeWhile_imp hc⟩
        rw [List.nil_append, slotText, List.append_assoc, List.append_assoc, ← hinside]
        rfl
    · exact absurd h (by simp)
  · rintro ⟨rfl, hnonempty, hbraceless⟩
    have htake : (content ++ (closing ++ after)).takeWhile isContent = content := by
      rw [List.takeWhile_append_of_pos hbraceless]
      exact List.append_nil content
    have hdrop : (content ++ (closing ++ after)).dropWhile isContent = closing ++ after := by
      rw [List.dropWhile_append_of_pos hbraceless]
      rfl
    have htext : [] ++ (slotText content ++ after) =
        .char '{' :: .char '{' :: (content ++ (closing ++ after)) := by
      simp [slotText, opening]
    rw [htext, slot?, htake, hdrop, if_neg (by simpa using hnonempty),
      afterClosing?_eq_some_iff.mpr rfl]
    rfl

theorem occurs_cons_iff {c : CodePoint} {s before content after : List CodePoint} :
    Occurs (c :: s) (c :: before) content after ↔ Occurs s before content after := by
  constructor
  · rintro ⟨hsplit, hvalid⟩
    exact ⟨(List.cons.inj hsplit).2, hvalid⟩
  · rintro ⟨rfl, hvalid⟩
    exact ⟨rfl, hvalid⟩

theorem occurs_append_iff (front : List CodePoint) {s before content after : List CodePoint} :
    Occurs (front ++ s) (front ++ before) content after ↔ Occurs s before content after := by
  induction front with
  | nil => rfl
  | cons c front ih => exact occurs_cons_iff.trans ih

/-- Behind the start of a slot no other slot begins before the first one has ended. -/
theorem Occurs.beyond {s content after before content' after' : List CodePoint}
    (h : Occurs s [] content after) (h' : Occurs s before content' after') (hne : before ≠ []) :
    ∃ gap, before = slotText content ++ gap ∧ Occurs after gap content' after' := by
  have hsame : opening ++ (content ++ (closing ++ after)) =
      before ++ (opening ++ (content' ++ (closing ++ after'))) := by
    have htexts := h.split.symm.trans h'.split
    simpa [slotText] using htexts
  match before, hne, hsame with
  | [_], _, hsame =>
    -- The second brace of the one slot would be the first of the other, and the first code point of
    -- the content a brace.
    match content, h.valid with
    | [], hvalid => exact absurd rfl hvalid.nonempty
    | c :: _, hvalid =>
      obtain ⟨-, rfl, -⟩ : _ ∧ c = .char '{' ∧ _ := by simpa [opening] using hsame
      exact absurd (hvalid.braceless _ List.mem_cons_self) (by decide)
  | first :: second :: inside, _, hsame =>
    obtain ⟨rfl, rfl, hinside⟩ : .char '{' = first ∧ .char '{' = second ∧
        (content ++ closing) ++ after =
          inside ++ (opening ++ (content' ++ (closing ++ after'))) := by
      simpa [opening] using hsame
    rcases List.append_eq_append_iff.mp hinside with ⟨gap, rfl, hafter⟩ | ⟨rest, hcut, hrest⟩
    · refine ⟨gap, by simp [slotText, opening], ⟨?_, h'.valid⟩⟩
      simpa [slotText] using hafter
    · -- The other slot would begin inside the first one, but there is no opening brace.
      have hnot : CodePoint.char '{' ∉ content ++ closing := by
        rw [List.mem_append, not_or]
        refine ⟨fun hmem => ?_, by decide⟩
        exact absurd (h.valid.braceless _ hmem) (by decide)
      cases rest with
      | nil =>
        rw [List.append_nil] at hcut
        refine ⟨[], by simp [slotText, opening, ← hcut], ⟨?_, h'.valid⟩⟩
        simpa [slotText] using hrest.symm
      | cons c rest =>
        obtain ⟨rfl, -⟩ := List.cons.inj hrest
        rw [hcut] at hnot
        exact absurd (List.mem_append_right _ List.mem_cons_self) hnot

theorem Occurs.unique {s content after content' after' : List CodePoint}
    (h : Occurs s [] content after) (h' : Occurs s [] content' after') :
    content = content' ∧ after = after' := by
  have hsame := (slot?_eq_some_iff.mpr h).symm.trans (slot?_eq_some_iff.mpr h')
  exact Prod.mk.inj (Option.some.inj hsame)

/-- The text that a piece was split off from. -/
def Segment.source : Segment → List CodePoint
  | point c => [c]
  | slot content => slotText content

/-- The text that pieces make up. -/
def source (pieces : List Segment) : List CodePoint := pieces.flatMap Segment.source

theorem source_cons (piece : Segment) (pieces : List Segment) :
    source (piece :: pieces) = piece.source ++ source pieces := List.flatMap_cons

/-- Are these the pieces of a text? They make it up, and what occurs in it as a slot is a piece. -/
structure Splits (s : List CodePoint) (pieces : List Segment) : Prop where
  whole : source pieces = s
  contents : ∀ content, .slot content ∈ pieces → IsSlotContent content
  complete : ∀ before content after, Occurs s before content after →
    ∃ front back, pieces = front ++ .slot content :: back ∧ source front = before

theorem segments_of_occurs {s content after : List CodePoint} (h : Occurs s [] content after) :
    segments s = .slot content :: segments after := by
  rw [segments]
  split
  · rename_i content' after' hslot
    obtain ⟨rfl, rfl⟩ := h.unique (slot?_eq_some_iff.mp hslot)
    rfl
  · rename_i hnone
    exact absurd (hnone.symm.trans (slot?_eq_some_iff.mpr h)) (by simp)

theorem segments_nil : segments [] = [] := by
  rw [segments]
  rfl

theorem segments_cons {c : CodePoint} {s : List CodePoint} (h : slot? (c :: s) = none) :
    segments (c :: s) = .point c :: segments s := by
  rw [segments]
  split
  · rename_i hsome
    exact absurd (h.symm.trans hsome) (by simp)
  · rfl

theorem splits_nil : Splits [] [] where
  whole := rfl
  contents _ h := absurd h (by simp)
  complete before content after h := absurd h.split (by simp [slotText, opening])

/-- A slot at the start, and then the pieces behind it. -/
theorem Splits.slot {s content after : List CodePoint} {pieces : List Segment}
    (h : Occurs s [] content after) (hrest : Splits after pieces) :
    Splits s (.slot content :: pieces) where
  whole := by
    rw [source_cons, hrest.whole, h.split]
    rfl
  contents content' hmem := by
    rcases List.mem_cons.mp hmem with hhead | htail
    · rw [Segment.slot.inj hhead]
      exact h.valid
    · exact hrest.contents content' htail
  complete before content' after' h' := by
    by_cases hbefore : before = []
    · subst hbefore
      obtain ⟨rfl, -⟩ := h.unique h'
      exact ⟨[], pieces, rfl, rfl⟩
    · obtain ⟨gap, rfl, hgap⟩ := h.beyond h' hbefore
      obtain ⟨front, back, rfl, rfl⟩ := hrest.complete gap content' after' hgap
      exact ⟨.slot content :: front, back, rfl, source_cons _ _⟩

/-- A code point at which no slot starts, and then the pieces behind it. -/
theorem Splits.point {c : CodePoint} {s : List CodePoint} {pieces : List Segment}
    (h : slot? (c :: s) = none) (hrest : Splits s pieces) :
    Splits (c :: s) (.point c :: pieces) where
  whole := by
    rw [source_cons, hrest.whole]
    rfl
  contents content hmem := by
    rcases List.mem_cons.mp hmem with hhead | htail
    · exact absurd hhead (by simp)
    · exact hrest.contents content htail
  complete before content after h' := by
    cases before with
    | nil => exact absurd (h.symm.trans (slot?_eq_some_iff.mpr h')) (by simp)
    | cons c' before =>
      obtain ⟨rfl, -⟩ := List.cons.inj h'.split
      obtain ⟨front, back, rfl, rfl⟩ := hrest.complete before content after (occurs_cons_iff.mp h')
      exact ⟨.point c :: front, back, rfl, source_cons _ _⟩

theorem slot?_of_ne_brace {c : CodePoint} (h : c ≠ .char '{') (s : List CodePoint) :
    slot? (c :: s) = none := by
  unfold slot?
  split
  · rename_i hbraces
    exact absurd (List.cons.inj hbraces).1 h
  · rfl

/-- Text without opening braces, and then the pieces behind it. -/
theorem Splits.points {front s : List CodePoint} {pieces : List Segment}
    (h : ∀ c ∈ front, c ≠ .char '{') (hrest : Splits s pieces) :
    Splits (front ++ s) (front.map .point ++ pieces) := by
  induction front with
  | nil => exact hrest
  | cons c front ih =>
    obtain ⟨hc, hfront⟩ := List.forall_mem_cons.mp h
    exact .point (slot?_of_ne_brace hc _) (ih hfront)

theorem Segment.source_ne_nil (piece : Segment) : piece.source ≠ [] := by
  cases piece with
  | point c => exact List.cons_ne_nil c []
  | slot content => exact List.cons_ne_nil _ _

theorem eq_nil_of_source_eq_nil {pieces : List Segment} (h : source pieces = []) :
    pieces = [] := by
  cases pieces with
  | nil => rfl
  | cons piece pieces =>
    rw [source_cons] at h
    exact absurd (List.append_eq_nil_iff.mp h).1 piece.source_ne_nil

/-- All but the first piece are the pieces of the text behind it. -/
theorem Splits.tail {s : List CodePoint} {piece : Segment} {back : List Segment}
    (h : Splits s (piece :: back)) : Splits (source back) back where
  whole := rfl
  contents content hmem := h.contents content (List.mem_cons_of_mem _ hmem)
  complete before content after hinside := by
    -- What occurs there occurs in the whole text, behind the first piece.
    have houtside : Occurs s (piece.source ++ before) content after := by
      rw [← h.whole, source_cons]
      exact (occurs_append_iff _).mpr hinside
    obtain ⟨front, rest, hpieces, hsource⟩ := h.complete _ content after houtside
    cases front with
    | nil => exact absurd (List.append_eq_nil_iff.mp hsource.symm).1 piece.source_ne_nil
    | cons first front =>
      obtain ⟨rfl, rfl⟩ := List.cons.inj hpieces
      rw [source_cons] at hsource
      exact ⟨front, rest, rfl, List.append_cancel_left hsource⟩

/-- Pieces begin with the slot at the start of the text, if there is one. -/
theorem Splits.exists_slot {s content after : List CodePoint} {pieces : List Segment}
    (h : Splits s pieces) (hslot : Occurs s [] content after) :
    ∃ back, pieces = .slot content :: back ∧ Splits after back := by
  obtain ⟨front, back, rfl, hfront⟩ := h.complete [] content after hslot
  obtain rfl := eq_nil_of_source_eq_nil hfront
  have hsource : slotText content ++ source back = slotText content ++ after :=
    h.whole.trans hslot.split
  refine ⟨back, rfl, ?_⟩
  rw [← List.append_cancel_left hsource]
  exact h.tail

/-- Pieces begin with the code point at the start of the text, if there is no slot. -/
theorem Splits.exists_point {c : CodePoint} {s : List CodePoint} {pieces : List Segment}
    (h : Splits (c :: s) pieces) (hnone : slot? (c :: s) = none) :
    ∃ back, pieces = .point c :: back ∧ Splits s back := by
  cases pieces with
  | nil => exact absurd h.whole (by simp [source])
  | cons piece back =>
    have hwhole := h.whole
    rw [source_cons] at hwhole
    cases piece with
    | slot content =>
      have hslot : Occurs (c :: s) [] content (source back) :=
        ⟨hwhole.symm, h.contents content List.mem_cons_self⟩
      exact absurd (hnone.symm.trans (slot?_eq_some_iff.mpr hslot)) (by simp)
    | point c' =>
      obtain ⟨rfl, rfl⟩ := List.cons.inj hwhole
      exact ⟨back, rfl, h.tail⟩

/-- **A text has one list of pieces**, the one that it is split into from left to right. -/
theorem segments_eq_iff {s : List CodePoint} {pieces : List Segment} :
    segments s = pieces ↔ Splits s pieces := by
  induction s using segments.induct generalizing pieces with
  | case1 s content after hslot ih =>
    have hoccurs := slot?_eq_some_iff.mp hslot
    rw [segments_of_occurs hoccurs]
    constructor
    · rintro rfl
      exact .slot hoccurs (ih.mp rfl)
    · intro h
      obtain ⟨back, rfl, hback⟩ := h.exists_slot hoccurs
      rw [ih.mpr hback]
  | case2 hnone =>
    rw [segments_nil]
    constructor
    · rintro rfl
      exact splits_nil
    · intro h
      exact (eq_nil_of_source_eq_nil h.whole).symm
  | case3 c s hnone ih =>
    rw [segments_cons hnone]
    constructor
    · rintro rfl
      exact .point hnone (ih.mp rfl)
    · intro h
      obtain ⟨back, rfl, hback⟩ := h.exists_point hnone
      rw [ih.mpr hback]

/-! ## Names -/

/-- Is the code point a blank? -/
def isBlank : CodePoint → Bool := CodePoint.isChar Text.isBlank

/-- Is it the name in a slot with the content? It begins and ends with code points that are no
blanks, and there are only blanks around it; or else there are only blanks, and it is the last of
them. -/
inductive Names : List CodePoint → List CodePoint → Prop
  | trimmed {before name after : List CodePoint} (leading : ∀ c ∈ before, isBlank c = true)
      (starts : name.head?.any (!isBlank ·) = true) (ends : name.getLast?.any (!isBlank ·) = true)
      (trailing : ∀ c ∈ after, isBlank c = true) : Names (before ++ (name ++ after)) name
  | blank {others : List CodePoint} {last : CodePoint} (blanks : ∀ c ∈ others, isBlank c = true)
      (isBlank : isBlank last = true) : Names (others ++ [last]) [last]

theorem dropWhile_append_of_head {p : CodePoint → Bool} {run rest : List CodePoint}
    (hrun : ∀ c ∈ run, p c = true) (hrest : rest.head?.any (!p ·) = true) :
    (run ++ rest).dropWhile p = rest := by
  rw [List.dropWhile_append_of_pos hrun]
  cases rest with
  | nil => exact absurd hrest (by simp)
  | cons c rest => exact List.dropWhile_cons_of_neg (by simpa using hrest)

theorem Names.slotName_eq {content name : List CodePoint} (h : Names content name) :
    slotName content = ⟨name⟩ := by
  cases h with
  | @trimmed before name after leading starts ends trailing =>
    have hne : name ≠ [] := by
      rintro rfl
      exact absurd starts (by simp)
    have hleft : Text.trimLeft isBlank (before ++ (name ++ after)) = name ++ after := by
      refine dropWhile_append_of_head leading ?_
      have hhead := List.head?_eq_some_head hne
      rw [hhead] at starts
      rw [List.head?_append, hhead]
      exact starts
    have hright : Text.trimLeft isBlank (name ++ after).reverse = name.reverse := by
      rw [List.reverse_append]
      refine dropWhile_append_of_head (fun c hc => trailing c (List.mem_reverse.mp hc)) ?_
      rw [List.head?_reverse]
      exact ends
    have htrim : Text.trim isBlank (before ++ (name ++ after)) = name := by
      rw [Text.trim, hleft, hright, List.reverse_reverse]
    rw [slotName, show CodePoint.isChar Text.isBlank = isBlank from rfl, htrim]
    cases name with
    | nil => exact absurd rfl hne
    | cons c name => rfl
  | @blank others last blanks isBlankLast =>
    have hall : ∀ c ∈ others ++ [last], isBlank c = true := by
      intro c hc
      rcases List.mem_append.mp hc with hothers | hlast
      · exact blanks c hothers
      · rw [List.mem_singleton.mp hlast]
        exact isBlankLast
    have hleft : Text.trimLeft isBlank (others ++ [last]) = [] := List.dropWhile_eq_nil_iff.mpr hall
    have htrim : Text.trim isBlank (others ++ [last]) = [] := by
      rw [Text.trim, hleft]
      rfl
    rw [slotName, show CodePoint.isChar Text.isBlank = isBlank from rfl, htrim]
    simp

/-- The blanks at the end of a text, and what is in front of them. -/
theorem exists_trailing (s : List CodePoint) :
    ∃ kept blanks, s = kept ++ blanks ∧ (∀ c ∈ blanks, isBlank c = true) ∧
      kept.getLast?.all (!isBlank ·) = true := by
  refine ⟨(s.reverse.dropWhile isBlank).reverse, (s.reverse.takeWhile isBlank).reverse, ?_, ?_, ?_⟩
  · rw [← List.reverse_append, List.takeWhile_append_dropWhile, List.reverse_reverse]
  · intro c hc
    exact List.mem_takeWhile_imp (List.mem_reverse.mp hc)
  · rw [List.getLast?_reverse]
    have hhead := List.head?_dropWhile_not isBlank s.reverse
    cases hc : (s.reverse.dropWhile isBlank).head? with
    | none => rfl
    | some c =>
      rw [hc] at hhead
      simpa using hhead

/-- From a code point on that is no blank, a name reaches to the blanks at the end. -/
theorem Names.cons_of_not_blank {c : CodePoint} {kept blanks : List CodePoint}
    (hc : isBlank c = false) (hkept : kept.getLast?.all (!isBlank ·) = true)
    (hblanks : ∀ b ∈ blanks, isBlank b = true) : Names (c :: (kept ++ blanks)) (c :: kept) := by
  refine @Names.trimmed [] (c :: kept) blanks (fun b hb => absurd hb (by simp)) ?_ ?_ hblanks
  · simpa using hc
  · rw [List.getLast?_cons]
    cases hlast : kept.getLast? with
    | none => simpa using hc
    | some last =>
      rw [hlast] at hkept
      simpa using hkept

/-- A blank at the start does not matter where anything else follows. -/
theorem Names.cons_of_blank {c : CodePoint} {content name : List CodePoint}
    (hc : isBlank c = true) (h : Names content name) : Names (c :: content) name := by
  have hcons {run : List CodePoint} (hrun : ∀ b ∈ run, isBlank b = true) :
      ∀ b ∈ c :: run, isBlank b = true := by
    intro b hb
    rcases List.mem_cons.mp hb with rfl | hb
    · exact hc
    · exact hrun b hb
  cases h with
  | @trimmed before name after leading starts ends trailing =>
    exact @Names.trimmed (c :: before) name after (hcons leading) starts ends trailing
  | @blank others last blanks isBlankLast =>
    exact @Names.blank (c :: others) last (hcons blanks) isBlankLast

theorem exists_names {content : List CodePoint} (h : content ≠ []) :
    ∃ name, Names content name := by
  induction content with
  | nil => exact absurd rfl h
  | cons c content ih =>
    cases hc : isBlank c with
    | false =>
      obtain ⟨kept, blanks, rfl, hblanks, hkept⟩ := exists_trailing content
      exact ⟨_, .cons_of_not_blank hc hkept hblanks⟩
    | true =>
      cases content with
      | nil => exact ⟨[c], @Names.blank [] c (fun b hb => absurd hb (by simp)) hc⟩
      | cons c' content =>
        obtain ⟨name, hname⟩ := ih (by simp)
        exact ⟨name, hname.cons_of_blank hc⟩

/-- **A slot has one name.** -/
theorem names_iff {content name : List CodePoint} (h : content ≠ []) :
    Names content name ↔ slotName content = ⟨name⟩ := by
  refine ⟨Names.slotName_eq, fun hname => ?_⟩
  obtain ⟨name', hname'⟩ := exists_names h
  obtain rfl : name' = name := Text.mk.inj (hname'.slotName_eq.symm.trans hname)
  exact hname'

end AngularLint.Template
