import AngularLint.Proofs.Linter.Calls
import Mathlib.Data.List.Forall2

/-!
# Two runs side by side

A linter that has a past against one that has none, a tree against another tree: what such pairs
have in common comes down to calls that are made side by side. A session does nothing but enter what
comes of each call (`Session.take_enters`). So two sessions go on alike as long as the answers are
alike (`foldl_take_alike`), where

* a relation `R` says which differences in what is kept in mind are let pass, and
* a function `φ` says what is looked at of a violation.

Who makes the calls is left to `schedule_alike`, which goes through rules and visits in pairs.
-/

set_option autoImplicit false

namespace AngularLint

variable {σ β : Type}

structure Call.Alike (R : σ → σ → Prop) (φ : Violation → β) (c c' : Call σ) : Prop where
  failure : c.failure = c'.failure
  violations : ∀ {m m' : σ}, R m m' →
    (c.answer m).1.violations.map φ = (c'.answer m').1.violations.map φ
  fault : ∀ {m m' : σ}, R m m' → (c.answer m).1.fault = (c'.answer m').1.fault
  memory : ∀ {m m' : σ}, R m m' → R (c.answer m).2 (c'.answer m').2

theorem Call.Alike.refl (c : Call σ) : Alike Eq id c c where
  failure := rfl
  violations := by rintro m _ rfl; rfl
  fault := by rintro m _ rfl; rfl
  memory := by rintro m _ rfl; rfl

namespace Session

theorem news_congr {s s' : Session σ} {c c' : Call σ} (hlog : s.log = s'.log)
    (hfailure : c.failure = c'.failure)
    (hfault : (c.answer s.memory).1.fault = (c'.answer s'.memory).1.fault) :
    s.news c = s'.news c' := by
  rw [news, news, hlog, hfailure, hfault]

/-- What two sessions have reported, what they keep in mind, and what has left the linter. -/
structure Alike (R : σ → σ → Prop) (φ : Violation → β) (s s' : Session σ) : Prop where
  sink : s.sink.toList.map φ = s'.sink.toList.map φ
  memory : R s.memory s'.memory
  interruption : s.interruption = s'.interruption

variable {R : σ → σ → Prop} {φ : Violation → β}

theorem Alike.result {s s' : Session σ} (h : s.Alike R φ s') :
    s.result.map (List.map φ) = s'.result.map (List.map φ) := by
  rw [Session.result, Session.result, h.interruption]
  cases s'.interruption with
  | none => exact congrArg Except.ok h.sink
  | some stop => rfl

/-- One call on either side. The logs have no say in what is reported, but they decide what is
told. -/
theorem take_alike {s s' : Session σ} (hs : s.Alike R φ s') {c c' : Call σ} (hc : c.Alike R φ c')
    (hshowable : c.FailsOnlyWith Mishap.IsShowable)
    (hshowable' : c'.FailsOnlyWith Mishap.IsShowable) :
    (s.take c).Alike R φ (s'.take c') ∧
      (s.log = s'.log ∧ s.told.toList = s'.told.toList →
        (s.take c).log = (s'.take c').log ∧
          (s.take c).told.toList = (s'.take c').told.toList) := by
  by_cases hinterrupted : s.interruption = none
  · have hfirst := take_enters hinterrupted hshowable
    have hsecond := take_enters (hs.interruption.symm.trans hinterrupted) hshowable'
    refine ⟨⟨?_, ?_, ?_⟩, ?_⟩
    · rw [hfirst.sink, hsecond.sink, List.map_append, List.map_append, hs.sink,
        hc.violations hs.memory]
    · rw [hfirst.memory, hsecond.memory]
      exact hc.memory hs.memory
    · rw [hfirst.interruption, hsecond.interruption, Reaction.exit?, Reaction.exit?,
        hc.fault hs.memory]
    · rintro ⟨hlogs, htolds⟩
      have hnews := news_congr hlogs hc.failure (hc.fault hs.memory)
      rw [hfirst.log, hsecond.log, hfirst.told, hsecond.told, hlogs, htolds, hnews, hc.failure]
      exact ⟨rfl, rfl⟩
  · rw [take_of_interrupted hinterrupted, take_of_interrupted (hs.interruption ▸ hinterrupted)]
    exact ⟨hs, id⟩

/-- **Calls in turn, on either side.** -/
theorem foldl_take_alike {calls calls' : List (Call σ)}
    (hcalls : List.Forall₂ (Call.Alike R φ) calls calls')
    (hshowable : ∀ c ∈ calls, c.FailsOnlyWith Mishap.IsShowable)
    (hshowable' : ∀ c ∈ calls', c.FailsOnlyWith Mishap.IsShowable) {s s' : Session σ}
    (hs : s.Alike R φ s') :
    (calls.foldl take s).Alike R φ (calls'.foldl take s') ∧
      (s.log = s'.log ∧ s.told.toList = s'.told.toList →
        (calls.foldl take s).log = (calls'.foldl take s').log ∧
          (calls.foldl take s).told.toList = (calls'.foldl take s').told.toList) := by
  -- Along the pairs of calls. The logs may differ all the way, so that they do not is carried as an
  -- implication beside `Alike` and not in it.
  induction hcalls generalizing s s' with
  | nil => exact ⟨hs, id⟩
  | cons hc _ ih =>
    obtain ⟨hfirst, hlogs⟩ := take_alike hs hc (hshowable _ List.mem_cons_self)
      (hshowable' _ List.mem_cons_self)
    obtain ⟨hrest, hlater⟩ := ih (fun c hc => hshowable c (List.mem_cons_of_mem _ hc))
      (fun c hc => hshowable' c (List.mem_cons_of_mem _ hc)) hfirst
    exact ⟨hrest, fun h => hlater (hlogs h)⟩

end Session

/-- Rules in pairs make calls in pairs at visits in pairs. -/
theorem Call.schedule_alike {R : σ → σ → Prop} {φ : Violation → β}
    {L : Listener σ → Listener σ → Prop} {V : Visit → Visit → Prop}
    (h : ∀ l l', L l l' → ∀ visit visit', V visit visit' →
      Option.Rel (fun callback callback' =>
          Alike R φ ⟨l.context, callback, visit⟩ ⟨l'.context, callback', visit'⟩)
        (l.callbacks.lookup visit.node.type) (l'.callbacks.lookup visit'.node.type))
    {listeners listeners' : List (Listener σ)} (hl : List.Forall₂ L listeners listeners')
    {visits visits' : List Visit} (hv : List.Forall₂ V visits visits') :
    List.Forall₂ (Alike R φ) (schedule listeners visits) (schedule listeners' visits') := by
  -- Visits outside and listeners inside, as `schedule` has them.
  refine List.rel_flatMap hv fun visit visit' hvisit => ?_
  refine List.rel_filterMap (R := L) (fun l l' hl' => ?_) hl
  have hpair := h l l' hl' visit visit' hvisit
  generalize l.callbacks.lookup visit.node.type = found,
    l'.callbacks.lookup visit'.node.type = found' at hpair ⊢
  cases hpair with
  | none => exact .none
  | some halike => exact .some halike

end AngularLint
