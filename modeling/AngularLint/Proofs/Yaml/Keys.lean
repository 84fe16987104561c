import AngularLint.Proofs.Except
import AngularLint.Yaml.Load

/-!
# The keys of a loaded mapping

A mapping that has been read from a text has no key twice, whatever the text says: a later value
takes the place of an earlier one (`putEntry`). So a mapping all of whose keys are one text has at
most one entry, which is what the reading of options rests on.

The invariant is `Making.IsTidy`. A container is made empty and filled once, so it is carried by
every step that makes or fills one, and **`hasDistinctKeys_of_documents`** reads it off at the end.
-/

set_option autoImplicit false

namespace AngularLint

/-- Does a mapping have no key twice? -/
def Container.HasDistinctKeys : Container → Prop
  | .mapping entries => entries.Pairwise fun a b => a.1.isSame b.1 = false
  | _ => True

def Document.HasDistinctKeys (d : Document) : Prop := ∀ c ∈ d.containers, c.HasDistinctKeys

namespace Document

theorem HasDistinctKeys.of_entries? {d : Document} (h : d.HasDistinctKeys) {v : Datum}
    {entries : List (Scalar × Datum)} (hentries : d.entries? v = some entries) :
    entries.Pairwise fun a b => a.1.isSame b.1 = false := by
  cases v with
  | scalar s => exact absurd hentries (by simp [entries?, container?])
  | container n =>
    rw [entries?, container?] at hentries
    split at hentries
    · rename_i hcontainer
      obtain rfl := Option.some.inj hentries
      exact h _ (Array.mem_of_getElem? hcontainer)
    · exact absurd hentries (by simp)

end Document

namespace Yaml

theorem refuse_ne_ok {α : Type} {fault : Fault} {a : α} : refuse fault ≠ .ok a := by
  simp [refuse]

theorem of_guard_eq_ok {α : Type} {p : Prop} [Decidable p] {fault : Fault}
    {next : Unit → Except Stop α} {a : α}
    (h : (if p then refuse fault >>= next else next ()) = .ok a) : next () = .ok a := by
  split at h
  · exact absurd h refuse_ne_ok
  · exact h

namespace Making

theorem key_of_mem_putEntry {key : Scalar} {value : Datum} {entries : List (Scalar × Datum)}
    {e : Scalar × Datum} (h : e ∈ putEntry key value entries) :
    e.1 = key ∨ ∃ e' ∈ entries, e'.1 = e.1 := by
  induction entries with
  | nil =>
    rw [putEntry, List.mem_singleton] at h
    exact .inl (congrArg Prod.fst h)
  | cons first rest ih =>
    rw [putEntry] at h
    split at h
    · rcases List.mem_cons.mp h with rfl | hrest
      · exact .inr ⟨first, List.mem_cons_self, rfl⟩
      · exact .inr ⟨e, List.mem_cons_of_mem _ hrest, rfl⟩
    · rcases List.mem_cons.mp h with rfl | hrest
      · exact .inr ⟨e, List.mem_cons_self, rfl⟩
      · rcases ih hrest with hkey | ⟨e', he', hsame⟩
        · exact .inl hkey
        · exact .inr ⟨e', List.mem_cons_of_mem _ he', hsame⟩

theorem pairwise_putEntry (key : Scalar) (value : Datum) {entries : List (Scalar × Datum)}
    (h : entries.Pairwise fun a b => a.1.isSame b.1 = false) :
    (putEntry key value entries).Pairwise fun a b => a.1.isSame b.1 = false := by
  induction entries with
  | nil => exact List.pairwise_singleton _ _
  | cons first rest ih =>
    obtain ⟨hfirst, hrest⟩ := List.pairwise_cons.mp h
    rw [putEntry]
    split
    · exact List.pairwise_cons.mpr ⟨hfirst, hrest⟩
    · rename_i hother
      refine List.pairwise_cons.mpr ⟨fun e he => ?_, ih hrest⟩
      rcases key_of_mem_putEntry he with hkey | ⟨e', he', hsame⟩
      · rw [hkey]
        exact Bool.eq_false_iff.mpr hother
      · rw [← hsame]
        exact hfirst e' he'

/-- Do the mappings that have been made have no key twice? -/
def IsTidy (m : Making) : Prop := ∀ c ∈ m.containers, c.HasDistinctKeys

variable {m m' : Making}

theorem IsTidy.push (h : m.IsTidy) {c : Container} (hc : c.HasDistinctKeys) :
    ∀ c' ∈ m.containers.push c, c'.HasDistinctKeys := by
  intro c' hc'
  rcases Array.mem_push.mp hc' with hold | rfl
  · exact h c' hold
  · exact hc

theorem IsTidy.datum [Limits] (h : m.IsTidy) {number : Nat} {d : Datum}
    (hdatum : m.datum number = .ok (m', d)) : m'.IsTidy := by
  have hscalar {read : Text → Except Stop Scalar} {r : Making × Datum}
      (hr : (do
        let text ← textAt m.nodes Limits.text number
        return (m, .scalar (← read text)) : Except Stop (Making × Datum)) = .ok r) :
      r.1.IsTidy := by
    obtain ⟨text, -, hr⟩ := bind_eq_ok.mp hr
    obtain ⟨s, -, hr⟩ := bind_eq_ok.mp hr
    obtain rfl := Except.ok.inj hr
    exact h
  have hqueue {empty : Container} {r : Making × Datum}
      (hr : (pure (m.enqueue number empty) : Except Stop (Making × Datum)) = .ok r)
      (hempty : empty.HasDistinctKeys) : r.1.IsTidy := by
    obtain rfl := Except.ok.inj hr
    exact h.push hempty
  rw [Making.datum] at hdatum
  split at hdatum
  · obtain ⟨rfl, -⟩ := Prod.mk.inj (Except.ok.inj hdatum)
    exact h
  · dsimp only at hdatum
    -- A scalar makes no container, and a container is made empty.
    split at hdatum
    case h_12 => exact hqueue hdatum List.Pairwise.nil
    case h_13 | h_14 | h_15 => exact absurd hdatum refuse_ne_ok
    all_goals first
      | exact hscalar hdatum
      | exact hqueue hdatum trivial

theorem IsTidy.data [Limits] (h : m.IsTidy) {numbers : List Nat} {ds : List Datum}
    (hdata : m.data numbers = .ok (m', ds)) : m'.IsTidy := by
  induction numbers generalizing m ds with
  | nil =>
    obtain ⟨rfl, -⟩ := Prod.mk.inj (Except.ok.inj hdata)
    exact h
  | cons number rest ih =>
    obtain ⟨⟨m₁, d⟩, hdatum, hdata⟩ := bind_eq_ok.mp hdata
    obtain ⟨⟨m₂, later⟩, hrest, hdata⟩ := bind_eq_ok.mp hdata
    obtain ⟨rfl, -⟩ := Prod.mk.inj (Except.ok.inj hdata)
    exact ih (h.datum hdatum) hrest

theorem IsTidy.entries [Limits] (h : m.IsTidy) {done entries : List (Scalar × Datum)}
    (hdone : done.Pairwise fun a b => a.1.isSame b.1 = false) {numbers : List (Nat × Nat)}
    (hentries : m.entries done numbers = .ok (m', entries)) :
    m'.IsTidy ∧ entries.Pairwise fun a b => a.1.isSame b.1 = false := by
  induction numbers generalizing m done with
  | nil =>
    obtain ⟨rfl, rfl⟩ := Prod.mk.inj (Except.ok.inj hentries)
    exact ⟨h, hdone⟩
  | cons number rest ih =>
    obtain ⟨⟨m₁, key⟩, hkey, hentries⟩ := bind_eq_ok.mp hentries
    cases key with
    | container n => exact absurd hentries refuse_ne_ok
    | scalar key =>
      obtain ⟨⟨m₂, value⟩, hvalue, hentries⟩ := bind_eq_ok.mp hentries
      exact ih ((h.datum hkey).datum hvalue) (pairwise_putEntry key value hdone) hentries

theorem IsTidy.mergedEntries [Limits] (h : m.IsTidy) {number : Nat}
    {entries : List (Scalar × Datum)} (hentries : m.mergedEntries number = .ok (m', entries)) :
    m'.IsTidy ∧ entries.Pairwise fun a b => a.1.isSame b.1 = false := by
  rw [Making.mergedEntries] at hentries
  obtain ⟨nodes, -, hentries⟩ := bind_eq_ok.mp (of_guard_eq_ok hentries)
  have hmerged : IsTidy { m with nodes } := h
  exact hmerged.entries .nil hentries

theorem IsTidy.pairs [Limits] (h : m.IsTidy) {numbers : List Nat} {ds : List Datum}
    (hpairs : m.pairs numbers = .ok (m', ds)) : m'.IsTidy := by
  induction numbers generalizing m ds with
  | nil =>
    obtain ⟨rfl, -⟩ := Prod.mk.inj (Except.ok.inj hpairs)
    exact h
  | cons number rest ih =>
    rw [Making.pairs] at hpairs
    split at hpairs
    · obtain ⟨⟨m₁, key⟩, hkey, hpairs⟩ := bind_eq_ok.mp hpairs
      obtain ⟨⟨m₂, value⟩, hvalue, hpairs⟩ := bind_eq_ok.mp hpairs
      obtain ⟨⟨m₃, later⟩, hrest, hpairs⟩ := bind_eq_ok.mp hpairs
      obtain ⟨rfl, -⟩ := Prod.mk.inj (Except.ok.inj hpairs)
      refine ih ?_ hrest
      exact ((h.datum hkey).datum hvalue).push trivial
    · exact absurd hpairs refuse_ne_ok

theorem IsTidy.contents [Limits] (h : m.IsTidy) {number : Nat} {c : Container}
    (hcontents : m.contents number = .ok (m', c)) : m'.IsTidy ∧ c.HasDistinctKeys := by
  rw [Making.contents] at hcontents
  split at hcontents
  · obtain ⟨⟨m₁, entries⟩, hentries, hcontents⟩ := bind_eq_ok.mp hcontents
    obtain ⟨rfl, rfl⟩ := Prod.mk.inj (Except.ok.inj hcontents)
    exact h.mergedEntries hentries
  · obtain ⟨⟨m₁, entries⟩, hentries, hcontents⟩ := bind_eq_ok.mp hcontents
    obtain ⟨rfl, rfl⟩ := Prod.mk.inj (Except.ok.inj hcontents)
    exact ⟨(h.mergedEntries hentries).1, trivial⟩
  · obtain ⟨⟨m₁, ds⟩, hdata, hcontents⟩ := bind_eq_ok.mp (of_guard_eq_ok hcontents)
    obtain ⟨rfl, rfl⟩ := Prod.mk.inj (Except.ok.inj hcontents)
    exact ⟨h.data hdata, trivial⟩
  · obtain ⟨⟨m₁, ds⟩, hpairs, hcontents⟩ := bind_eq_ok.mp (of_guard_eq_ok hcontents)
    obtain ⟨rfl, rfl⟩ := Prod.mk.inj (Except.ok.inj hcontents)
    exact ⟨h.pairs hpairs, trivial⟩

theorem IsTidy.fill [Limits] (h : m.IsTidy) {steps : Nat} (hfill : m.fill steps = .ok m') :
    m'.IsTidy := by
  induction steps generalizing m with
  | zero =>
    obtain rfl := Except.ok.inj hfill
    exact h
  | succ steps ih =>
    rw [Making.fill] at hfill
    split at hfill
    · obtain rfl := Except.ok.inj hfill
      exact h
    · obtain ⟨⟨m₁, c⟩, hcontents, hfill⟩ := bind_eq_ok.mp hfill
      have hnext : IsTidy { m with filled := m.filled + 1 } := h
      obtain ⟨hm₁, hc⟩ := hnext.contents hcontents
      refine ih (fun c' hc' => ?_) hfill
      rcases Array.mem_or_eq_of_mem_setIfInBounds hc' with hold | rfl
      · exact hm₁ c' hold
      · exact hc

end Making

theorem Graph.hasDistinctKeys_document [Limits] {g : Graph} {d : Document}
    (h : g.document = .ok d) : d.HasDistinctKeys := by
  obtain ⟨⟨m, root⟩, hdatum, h⟩ := bind_eq_ok.mp h
  obtain ⟨m', hfill, h⟩ := bind_eq_ok.mp h
  obtain rfl := Except.ok.inj h
  have hstart : (Making.start g.nodes).IsTidy := by
    intro c hc
    exact absurd hc (by simp [Making.start])
  exact (hstart.datum hdatum).fill hfill

/-- **No mapping of a loaded document has a key twice.** -/
theorem hasDistinctKeys_of_documents [Limits] {text : Series Char} {ds : List Document}
    (h : documents text = .ok ds) : ∀ d ∈ ds, d.HasDistinctKeys := by
  obtain ⟨made, hmade, h⟩ := bind_eq_ok.mp h
  split at h
  · exact absurd h (by simp)
  · obtain rfl := Except.ok.inj h
    intro d hd
    obtain ⟨g, -, hg⟩ := (mem_of_mapM_eq_ok hmade).mp hd
    exact g.hasDistinctKeys_document hg

end Yaml

end AngularLint
