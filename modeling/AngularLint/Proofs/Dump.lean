import AngularLint.Dump
import AngularLint.Proofs.Json.Reader
import AngularLint.Proofs.Run
import AngularLint.Proofs.Tree.Hydration

/-!
# What comes of a dump

A file is read as a dump in stages: it is opened, its bytes become a text, the text becomes JSON,
and the JSON becomes a tree. At each stage something may be wrong with it, and most of that is told,
so that there is no dump and the run goes on.

But each stage also has a fault of its own that is not dealt with and ends the run: a path that
cannot be looked up, bytes that are no text, an integer that has too many digits, and an infinite
coordinate in a location. **`load_loading`** says that these four do, and nothing else.
-/

set_option autoImplicit false

namespace AngularLint

open Hydrate

namespace Run

theorem ofExcept_ok_bind {α β : Type} (a : α) (next : α → Run β) :
    ofExcept (.ok a) >>= next = next a := bind_of_ok rfl next

theorem result_ofExcept {α : Type} (x : Except Abort α) : (ofExcept x).result = x := by
  cases x <;> rfl

end Run

namespace Node

/-- Hydration fails at an object whose location cannot be read. -/
theorem fails_hydrate_iff {file : Option Text} {o : Object} :
    Fails (hydrate file (.obj o)) ↔ ∃ p ∈ postorder o, ¬Located file p := by
  constructor
  · intro hfails
    refine Classical.byContradiction fun hnone => ?_
    have hlocated : ∀ p ∈ postorder o, Located file p := by
      intro p hp
      exact Classical.byContradiction fun hno => hnone ⟨p, hp, hno⟩
    obtain ⟨fault, hfault⟩ := hfails
    rw [(hydrate_eq_ok_iff file o _).mpr ⟨hlocated, rfl⟩] at hfault
    exact absurd hfault (by simp)
  · rintro ⟨p, hp, hno⟩
    cases htree : hydrate file (.obj o) with
    | error fault => exact ⟨fault, rfl⟩
    | ok tree => exact absurd (((hydrate_eq_ok_iff file o tree).mp htree).1 p hp) hno

end Node

namespace Dump

/-- Does the file at a path end the run? -/
inductive Aborts [Limits] (read : FileReader) (path : Text) : Prop
  | badPath {fault : PathFault} (hread : read path = .error (.badPath fault))
  | undecodable {bytes : List UInt8} {fault : Text.Utf8Fault} (hread : read path = .ok bytes)
      (htext : Text.decodeWhole bytes = .error fault)
  | integer {bytes : List UInt8} {text : List Char} {fault : Text.IntegerFault}
      (hread : read path = .ok bytes) (htext : Text.decodeWhole bytes = .ok text)
      (hparse : Json.parse Limits.dump (Text.unifyLineEnds text) = .error (.integer fault))
  | position {bytes : List UInt8} {text : List Char} {document : Json} {o p : Object}
      (hread : read path = .ok bytes) (htext : Text.decodeWhole bytes = .ok text)
      (hparse : Json.parse Limits.dump (Text.unifyLineEnds text) = .ok document)
      (hroot : (envelope? document).getD document = .obj o) (hp : p ∈ postorder o)
      (hposition : ¬Located (filenameOf path document) p)

/-- How the reading of a dump may end: with the dump and nothing told, with one thing told and no
dump, or with the run. -/
inductive Loading (aborts : Prop) : Run (Option Dump) → Prop
  | loaded {dump : Dump} (hprogram : isProgram dump.program = true) (hgoes : ¬aborts) :
      Loading aborts ⟨[], .ok (some dump)⟩
  | skipped {d : Diagnostic} (hgoes : ¬aborts) : Loading aborts ⟨[d], .ok none⟩
  | aborted {abort : Abort} (haborts : aborts) : Loading aborts ⟨[], .error abort⟩

theorem Loading.fails_iff {aborts : Prop} {run : Run (Option Dump)} (h : Loading aborts run) :
    Fails run.result ↔ aborts := by
  cases h with
  | loaded hprogram hgoes => exact iff_of_false not_fails_ok hgoes
  | skipped hgoes => exact iff_of_false not_fails_ok hgoes
  | aborted haborts => exact iff_of_true ⟨_, rfl⟩ haborts

/-- Does a value that has been read describe a tree with a location that cannot be read? -/
theorem fails_ofJson?_iff {path : Text} {document : Json} :
    Fails (ofJson? path document) ↔ ∃ o, (envelope? document).getD document = .obj o ∧
      ∃ p ∈ postorder o, ¬Located (filenameOf path document) p := by
  have hroot : Fails (ofJson? path document) ↔
      Fails (Node.hydrate (filenameOf path document) ((envelope? document).getD document)) := by
    rw [ofJson?]
    cases Node.hydrate (filenameOf path document) ((envelope? document).getD document) with
    | error fault => exact iff_of_true ⟨_, rfl⟩ ⟨_, rfl⟩
    | ok tree => exact iff_of_false not_fails_ok not_fails_ok
  rw [hroot]
  cases (envelope? document).getD document with
  | obj o =>
    rw [Node.fails_hydrate_iff]
    constructor
    · intro h
      exact ⟨o, rfl, h⟩
    · rintro ⟨o', ho, h⟩
      rwa [Json.obj.inj ho]
  | _ => exact iff_of_false not_fails_ok (by simp)

theorem isProgram_of_ofJson? {path : Text} {document : Json} {dump : Dump}
    (h : ofJson? path document = .ok (some dump)) : isProgram dump.program = true := by
  rw [ofJson?] at h
  split at h
  · exact absurd h (by simp)
  · obtain ⟨program, hprogram, rfl⟩ := Option.map_eq_some_iff.mp (Except.ok.inj h)
    exact (Option.filter_eq_some_iff.mp hprogram).2

theorem load_loading [Limits] (read : FileReader) (path : Text) :
    Loading (Aborts read path) (load read path) := by
  rw [load]
  cases hread : read path with
  | error fault =>
    cases fault with
    | badPath fault => exact .aborted (.badPath hread)
    | _ =>
      refine .skipped fun h => ?_
      cases h <;> simp_all
  | ok bytes =>
    dsimp only [ofBytes, textOf]
    cases htext : Text.decodeWhole bytes with
    | error fault => exact .aborted (.undecodable hread htext)
    | ok text =>
      dsimp only
      rw [Run.ofExcept_ok_bind]
      cases hparse : Json.parse Limits.dump (Text.unifyLineEnds text) with
      | error fault =>
        cases fault with
        | integer fault => exact .aborted (.integer hread htext hparse)
        | _ =>
          refine .skipped fun h => ?_
          cases h <;> simp_all
      | ok document =>
        dsimp only
        cases hdump : ofJson? path document with
        | error abort =>
          obtain ⟨o, hroot, p, hp, hposition⟩ := fails_ofJson?_iff.mp ⟨abort, hdump⟩
          exact .aborted (.position hread htext hparse hroot hp hposition)
        | ok loaded =>
          have hgoes : ¬Aborts read path := by
            intro h
            have hsound : ¬Fails (ofJson? path document) := hdump ▸ not_fails_ok
            cases h with
            | position hread' htext' hparse' hroot hp hposition =>
              obtain rfl := Except.ok.inj (hread.symm.trans hread')
              obtain rfl := Except.ok.inj (htext.symm.trans htext')
              obtain rfl := Except.ok.inj (hparse.symm.trans hparse')
              exact hsound (fails_ofJson?_iff.mpr ⟨_, hroot, _, hp, hposition⟩)
            | _ => simp_all
          rw [Run.ofExcept_ok_bind]
          cases loaded with
          | none => exact .skipped hgoes
          | some dump => exact .loaded (isProgram_of_ofJson? hdump) hgoes

theorem hydrate_of_ofJson? {path : Text} {document : Json} {dump : Dump}
    (h : ofJson? path document = .ok (some dump)) :
    Node.hydrate dump.filename ((envelope? document).getD document) = .ok (some dump.program) := by
  rw [ofJson?] at h
  split at h
  · exact absurd h (by simp)
  · rename_i tree htree
    obtain ⟨program, hprogram, rfl⟩ := Option.map_eq_some_iff.mp (Except.ok.inj h)
    obtain ⟨rfl, -⟩ := Option.filter_eq_some_iff.mp hprogram
    exact htree

theorem isWritable_envelope {document : Json} (h : document.isWritable = true) :
    ((envelope? document).getD document).isWritable = true := by
  rw [envelope?]
  split
  · rename_i entries hast
    cases document with
    | obj es => exact Json.isWritable_obj.mp h _ (Json.mem_of_find? hast)
    | _ => exact absurd hast (by simp [Json.get?])
  · exact h

/-- The program of a dump is what a value in its file is hydrated to, and the value holds nothing
that is too large to be written. -/
theorem exists_hydrate_of_load [Limits] {read : FileReader} {path : Text} {dump : Dump}
    (h : (load read path).result = .ok (some dump)) :
    ∃ raw : Json, raw.isWritable = true ∧
      Node.hydrate dump.filename raw = .ok (some dump.program) := by
  rw [load] at h
  cases hread : read path with
  | error fault =>
    rw [hread] at h
    cases fault <;> exact absurd h (by simp [Run.abort, bind, Run.bind, Run.tell, pure, Run.pure])
  | ok bytes =>
    rw [hread] at h
    obtain ⟨text, -, h⟩ := Run.bind_result_eq_ok.mp h
    cases hparse : Json.parse Limits.dump text with
    | error fault =>
      rw [hparse] at h
      cases fault <;> exact absurd h (by simp [Run.abort, bind, Run.bind, Run.tell, pure, Run.pure])
    | ok document =>
      rw [hparse] at h
      obtain ⟨found, hfound, h⟩ := Run.bind_result_eq_ok.mp h
      rw [Run.result_ofExcept] at hfound
      cases found with
      | none => exact absurd h (by simp [bind, Run.bind, Run.tell, pure, Run.pure])
      | some loaded =>
        obtain rfl : loaded = dump := Option.some.inj (Except.ok.inj h)
        exact ⟨_, isWritable_envelope (Json.isWritable_of_parse hparse), hydrate_of_ofJson? hfound⟩

end Dump

end AngularLint
