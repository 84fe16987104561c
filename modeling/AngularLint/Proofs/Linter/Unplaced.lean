import AngularLint.Proofs.Angular.Unplaced
import AngularLint.Proofs.Linter.Steady

/-!
# Verdicts do not depend on positions

Where a node stands is read from a dump for one reason, to tell it in a violation. This file says
that nothing else comes of it: two dumps that differ in positions alone give trees that differ in
ranges alone, the walks through them meet the same nodes in the same order, and the rules of the
tool find the same, but for the four numbers of each place and the ranges of nodes that are handed
along as data.

The messages are the same as well, and that is the one thing that is not a matter of look-ups. A
message may show any of its data, and a node is shown with its range. No message of the tool does
that: two of them have no slot at all (`fill_eq_of_noSlots`), and the third one has a slot for a
text.
-/

set_option autoImplicit false

namespace AngularLint

variable {σ : Type}

open Node

/-! ## Requests and violations -/

def unplacedData (data : List (Text × Value)) : List (Text × Value) :=
  data.map fun e => (e.1, e.2.unplaced)

/-- The request without ranges. -/
def Request.unplaced (r : Request) : Request :=
  ⟨r.message, r.anchor.unplaced, unplacedData r.data⟩

/-- The violation without the numbers of its place, and without the ranges of nodes in its data. -/
def Violation.unplaced (v : Violation) : Violation :=
  { v with location := .unknown v.location.file, data := unplacedData v.data }

/-- Violations of requests that are the same without ranges are the same without places, as long as
the messages are. -/
theorem Context.report_unplaced (c : Context σ) {r r' : Request} (h : r.unplaced = r'.unplaced)
    (hfill : ∀ template, c.rule.messages.lookup r.message = some template →
      Template.fill template r.data = Template.fill template r'.data) :
    (c.report r).map Violation.unplaced = (c.report r').map Violation.unplaced := by
  obtain ⟨hmessage, hanchor, hdata⟩ := Request.mk.inj h
  have hkind : r.anchor.node?.map (·.type) = r'.anchor.node?.map (·.type) := by
    have hnode := congrArg (fun v => v.node?.map (·.type)) hanchor
    simpa [Function.comp_def] using hnode
  rw [report, report, ← hmessage]
  cases hlookup : c.rule.messages.lookup r.message with
  | none => rfl
  | some template =>
    show Except.ok (Violation.unplaced _) = Except.ok (Violation.unplaced _)
    simp only [Violation.unplaced, Location.file_ofValue, hfill template hlookup, hkind, hdata]

/-- Is there no slot in the template? -/
def Template.noSlots (template : Text) : Bool :=
  (segments template.points).all fun
    | .point _ => true
    | .slot _ => false

theorem Template.fill_eq_of_noSlots {template : Text} (h : noSlots template = true)
    (data data' : List (Text × Value)) : fill template data = fill template data' := by
  rw [fill, fill]
  refine congrArg Text.join (List.map_congr_left fun segment hsegment => ?_)
  have hpoint := List.all_eq_true.mp h segment hsegment
  cases segment with
  | point c => rfl
  | slot content => exact absurd hpoint (by simp)

/-- A rule whose messages have no slots, and which looks into a call only, comes to the same at
calls that are the same without ranges. -/
theorem Outcome.alike_judge {c : Context σ} {judge : Value → Except Fault (Option Request)}
    (hjudge : ∀ call, judge call.unplaced = (judge call).map (Option.map Request.unplaced))
    (hmessages : ∀ m ∈ c.rule.messages, Template.noSlots m.2 = true) {call call' : Value}
    (h : call.unplaced = call'.unplaced) :
    (ofLookup (judge call)).Alike c Violation.unplaced (ofLookup (judge call')) := by
  apply alike_ofLookup Request.unplaced
  · rw [← hjudge, ← hjudge, h]
  · intro r r' _ _ hsame
    apply c.report_unplaced hsame
    intro template hlookup
    exact Template.fill_eq_of_noSlots (hmessages _ (mem_of_lookup hlookup)) _ _

/-! ## The rules of the tool -/

namespace TwoWayBinding

theorem declared?_unplaced (call : Value) :
    declared? call.unplaced = (declared? call).map (Option.map Value.unplaced) := by
  rw [declared?, declared?, Registration.isOf_unplaced, Registration.isOf_unplaced,
    Binding.ofComponent?_unplaced, Binding.ofDirective?_unplaced]
  split
  · rfl
  · split
    · rfl
    · rfl

theorem judge_unplaced (call : Value) :
    judge call.unplaced = (judge call).map (Option.map Request.unplaced) := by
  rw [judge, judge, declared?_unplaced, Registration.name?_unplaced, Value.unplaced_ofOption]
  cases declared? call with
  | error fault => rfl
  | ok declared =>
    show (Binding.firstTwoWay? (.ofOption (declared.map Value.unplaced)) >>= _) =
      Except.map _ (Binding.firstTwoWay? (.ofOption declared) >>= _)
    rw [Value.unplaced_ofOption, Binding.firstTwoWay?_unplaced]
    cases Binding.firstTwoWay? (.ofOption declared) with
    | error fault => rfl
    | ok binding =>
      show Except.ok (Option.map _ (Option.map _ _)) = Except.ok (Option.map _ (Option.map _ _))
      rw [Option.map_map, Option.map_map]
      rfl

theorem noSlots_messages :
    ∀ m ∈ (rule : Rule σ).messages, Template.noSlots m.2 = true := by
  intro m hm
  obtain rfl := List.mem_singleton.mp hm
  decide +kernel

end TwoWayBinding

namespace OnInit

theorem judge_unplaced (call : Value) :
    judge call.unplaced = (judge call).map (Option.map Request.unplaced) := by
  rw [judge, judge, Registration.isOf_unplaced, Registration.configuration?_unplaced,
    Registration.name?_unplaced, Value.unplaced_ofOption, Value.unplaced_ofOption]
  split
  · rfl
  · dsimp only
    rw [Value.propertyValue?_unplaced]
    cases (Value.ofOption (Registration.configuration? call)).propertyValue? "controller" with
    | error fault => rfl
    | ok controller =>
      show (Controller.hasHook (.ofOption (controller.map Value.unplaced)) >>= _) =
        Except.map _ (Controller.hasHook (.ofOption controller) >>= _)
      rw [Value.unplaced_ofOption, Controller.hasHook_unplaced]
      cases Controller.hasHook (.ofOption controller) with
      | error fault => rfl
      | ok found => cases found <;> rfl

theorem noSlots_messages :
    ∀ m ∈ (rule : Rule σ).messages, Template.noSlots m.2 = true := by
  intro m hm
  obtain rfl := List.mem_singleton.mp hm
  decide +kernel

end OnInit

namespace TestFilename

/-- What the rule finds: nothing where no test is declared. -/
def found (s : Surroundings) (visit : Visit) : Except Fault (Option Request) :=
  if isDeclaration (.ofOption ((Value.node visit.node).at? ["callee"])) then judge s visit
  else .ok none

theorem onCall_eq (s : Surroundings) (visit : Visit) :
    onCall s visit = .ofLookup (found s visit) := by
  rw [onCall, found]
  split
  · rfl
  · rfl

theorem isDeclaration_unplaced (callee : Value) :
    isDeclaration callee.unplaced = isDeclaration callee := by
  rw [isDeclaration, isDeclaration]
  simp only [Value.isNamed_unplaced]

theorem judge_unplaced (s : Surroundings) (visit : Visit) :
    judge s visit.unplaced = (judge s visit).map (Option.map Request.unplaced) := by
  have hroot : Value.ofOption (visit.unplaced.ancestors.head?.map .node) =
      (Value.ofOption (visit.ancestors.head?.map .node)).unplaced := by
    rw [← Value.unplaced_ofOption, Visit.unplaced, List.head?_map, Option.map_map, Option.map_map]
    rfl
  rw [judge, judge, hroot]
  cases suffixText (suffixOption s.options) with
  | error fault => rfl
  | ok suffix =>
    show (if _ then _ else _) = Except.map _ (if _ then _ else _)
    split
    · rfl
    · rfl

theorem found_unplaced (s : Surroundings) (visit : Visit) :
    found s visit.unplaced = (found s visit).map (Option.map Request.unplaced) := by
  have hcallee : Value.ofOption ((Value.node visit.unplaced.node).at? ["callee"]) =
      (Value.ofOption ((Value.node visit.node).at? ["callee"])).unplaced := by
    rw [← Value.unplaced_ofOption, ← Value.at?_unplaced _ rfl]
    rfl
  rw [found, found, hcallee, isDeclaration_unplaced, judge_unplaced]
  split
  · rfl
  · rfl

/-- The name that the file should have is all that the message shows. -/
theorem unplacedData_of_found {s : Surroundings} {visit : Visit} {r : Request}
    (h : found s visit = .ok (some r)) : unplacedData r.data = r.data := by
  rw [found] at h
  split at h
  · obtain ⟨suffix, -, hjudge⟩ := bind_eq_ok.mp h
    split at hjudge
    · exact absurd hjudge (by simp [pure, Except.pure])
    · rw [← Option.some.inj (Except.ok.inj hjudge)]
      rfl
  · exact absurd h (by simp)

end TestFilename

/-! ## Callbacks -/

theorem Registry.conventions_unplaced {convention : Convention}
    (hconvention : convention ∈ conventions) {c : Context σ} (hc : c.rule = convention.rule)
    (s : Surroundings) {visit visit' : Visit} (h : visit.unplaced = visit'.unplaced) :
    ∀ e ∈ convention.habits s, (e.2 visit).Alike c Violation.unplaced (e.2 visit') := by
  intro e he
  have hnode : (Value.node visit.node).unplaced = (Value.node visit'.node).unplaced :=
    congrArg (fun v : Visit => Value.node v.node) h
  simp only [conventions, List.mem_cons, List.not_mem_nil, or_false] at hconvention
  rcases hconvention with rfl | rfl | rfl
  all_goals obtain rfl := List.mem_singleton.mp he
  · -- The message has a slot, for the name that the file should have; there is no range in that.
    show Outcome.Alike c _ (TestFilename.onCall s visit) (TestFilename.onCall s visit')
    rw [TestFilename.onCall_eq, TestFilename.onCall_eq]
    apply Outcome.alike_ofLookup Request.unplaced
    · rw [← TestFilename.found_unplaced, ← TestFilename.found_unplaced, h]
    · intro r r' hr hr' hsame
      apply c.report_unplaced hsame
      intro template _
      rw [← TestFilename.unplacedData_of_found hr, ← TestFilename.unplacedData_of_found hr']
      exact congrArg (Template.fill template ·.data) hsame
  · apply Outcome.alike_judge TwoWayBinding.judge_unplaced
    · rw [hc]
      exact TwoWayBinding.noSlots_messages
    · exact hnode
  · apply Outcome.alike_judge OnInit.judge_unplaced
    · rw [hc]
      exact OnInit.noSlots_messages
    · exact hnode

/-! ## Whole dumps -/

/-- A walk through a tree, if there is one, does not see the ranges. -/
theorem Node.flatMap_visits_unplaced (tree : Option Node) :
    (tree.toList.flatMap visits).map Visit.unplaced =
      (tree.map unplaced).toList.flatMap visits := by
  cases tree with
  | none => rfl
  | some n =>
    rw [Option.toList_some, List.flatMap_singleton, Option.map_some, Option.toList_some,
      List.flatMap_singleton, visits_unplaced]

namespace Linter

theorem calls_unplaced {l : Linter σ} (hregistry : l.registry = .standard) (filename : Text)
    {tree tree' : Option Node} (h : tree.map unplaced = tree'.map unplaced) :
    List.Forall₂ (Call.Alike Eq Violation.unplaced) (l.calls tree filename)
      (l.calls tree' filename) := by
  have hvisits : List.Forall₂ (fun v v' : Visit => v.unplaced = v'.unplaced)
      (tree.toList.flatMap visits) (tree'.toList.flatMap visits) := by
    have hmaps : (tree.toList.flatMap visits).map Visit.unplaced =
        (tree'.toList.flatMap visits).map Visit.unplaced := by
      rw [flatMap_visits_unplaced, flatMap_visits_unplaced, h]
    rw [← List.forall₂_eq_eq_eq, List.forall₂_map_left_iff, List.forall₂_map_right_iff] at hmaps
    exact hmaps
  -- The kind of a node decides who is called, and it is the same without ranges.
  rw [calls, calls, hregistry]
  refine Call.schedule_alike_map ?_ ?_ hvisits
  · intro visit visit' hvisit
    rw [← type_unplaced, ← visit'.node.type_unplaced]
    exact congrArg (fun v : Visit => v.node.type) hvisit
  · intro visit visit' hvisit convention hconvention
    exact Registry.conventions_unplaced hconvention rfl _ hvisit

/-- **Dumps that differ in positions alone** are linted alike. -/
theorem verify_unplaced {raw raw' : Json} (hraw : raw.unplaced = raw'.unplaced)
    {file file' : Option Text} {tree tree' : Option Node} (h : hydrate file raw = .ok tree)
    (h' : hydrate file' raw' = .ok tree') :
    tree.map unplaced = tree'.map unplaced ∧
      (tree.toList.flatMap visits).map Visit.unplaced =
        (tree'.toList.flatMap visits).map Visit.unplaced ∧
      ∀ {σ : Type} (l : Linter σ), l.registry = .standard → ∀ filename, ∃ vs vs',
        (l.verify tree filename).1 = .ok vs ∧ (l.verify tree' filename).1 = .ok vs' ∧
          vs.map Violation.unplaced = vs'.map Violation.unplaced ∧
          (l.verify tree filename).2 = (l.verify tree' filename).2 := by
  have htrees : tree.map unplaced = tree'.map unplaced := by
    rw [map_unplaced_of_hydrate h, map_unplaced_of_hydrate h', hraw]
  refine ⟨htrees, ?_, ?_⟩
  · rw [flatMap_visits_unplaced, flatMap_visits_unplaced, htrees]
  · intro σ l hregistry filename
    exact verify_alike (show l.IsSteady Registry.conventions from hregistry)
      (calls_unplaced hregistry filename htrees)

/-- The object with further entries in front. -/
def placed (position : List (Text × Json)) : Json → Json
  | .obj o => .obj (position ++ o)
  | v => v

def programDump (statement : Json) : Json :=
  .obj [("type", .str "Program"), ("body", .arr [statement])]

/-- A program with a test in it. -/
def bareDump : Json := programDump (callOfDump (identifierDump "it") [])

/-- The same with positions, of which some are none. -/
def placedDump : Json :=
  placed [("loc", .obj [("start", .obj [("line", .int 3), ("column", .int 0)])])]
    (programDump (placed [("start", .int 12)]
      (callOfDump (placed [("range", .null), ("loc", .str "nowhere")] (identifierDump "it")) [])))

/-- The test is reported in line 3, or in no line at all. -/
theorem verify_placedDump :
    ∃ tree tree', hydrate (some "src/a.js") placedDump = .ok tree ∧
      hydrate none bareDump = .ok tree' ∧ tree.map unplaced = tree'.map unplaced ∧
      ∃ vs vs', ((start .standard [] ()).verify tree "a.js").1 = .ok vs ∧
        ((start .standard [] ()).verify tree' "a.js").1 = .ok vs' ∧
        vs.map Violation.unplaced = vs'.map Violation.unplaced ∧
        vs.map (·.location.startLine) = [3] ∧ vs'.map (·.location.startLine) = [0] := by
  obtain ⟨tree, h⟩ := not_fails_iff.mp
    (show ¬Fails (hydrate (some "src/a.js") placedDump) by decide +kernel)
  obtain ⟨tree', h'⟩ := not_fails_iff.mp (show ¬Fails (hydrate none bareDump) by decide +kernel)
  have hlines : (hydrate (some "src/a.js") placedDump).toOption.map (fun tree =>
      ((start .standard [] ()).verify tree "a.js").1.toOption.map
        (List.map (·.location.startLine))) = some (some [3]) := by
    decide +kernel
  have hlines' : (hydrate none bareDump).toOption.map (fun tree =>
      ((start .standard [] ()).verify tree "a.js").1.toOption.map
        (List.map (·.location.startLine))) = some (some [0]) := by
    decide +kernel
  have hraw : placedDump.unplaced = bareDump.unplaced := rfl
  obtain ⟨htrees, -, hverify⟩ := verify_unplaced hraw h h'
  obtain ⟨vs, vs', hfirst, hsecond, hsame, -⟩ := hverify (start .standard [] ()) rfl "a.js"
  rw [h, Except.toOption, Option.map_some, hfirst] at hlines
  rw [h', Except.toOption, Option.map_some, hsecond] at hlines'
  refine ⟨tree, tree', h, h', htrees, vs, vs', hfirst, hsecond, hsame, ?_, ?_⟩
  · exact Option.some.inj (Option.some.inj hlines)
  · exact Option.some.inj (Option.some.inj hlines')

end Linter

end AngularLint
