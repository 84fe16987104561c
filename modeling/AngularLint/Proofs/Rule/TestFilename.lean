import AngularLint.Proofs.Linter.Locality
import AngularLint.Proofs.Linter.Share
import AngularLint.Proofs.Linter.Unplaced
import AngularLint.Proofs.Linter.Validated
import AngularLint.Proofs.Rule.Substitution
import AngularLint.Proofs.Tree.Trail

/-!
# What is said about a misnamed test file

The rule for the names of test files says the same thing again at every call that declares a test.
It says it of the program, however deep the call lies, for the outermost node around a call is the
program (`Visit.head?_ancestors`). What it says shows the name that the file should have, whatever
that name holds, for the message has one slot and is filled once (`Template.fill_sentence`).

So the violations are copies of one, `misnamed`, and there are as many as there are positions in the
tree with a call that declares a test (**`filter_verify_eq_replicate`**). The other rules of a
linter may be any (`Proofs/Linter/Share.lean`).
-/

set_option autoImplicit false

namespace AngularLint

variable {σ : Type}

open Node

/-- Is it a call of a function that declares tests? -/
def Node.declaresTest : Node → Bool
  | .mk _ (.callExpression (some callee) _) =>
    let names : List Text := ["describe", "xdescribe", "fdescribe", "it", "xit", "fit", "expect"]
    callee.name?.any names.contains
  | _ => false

namespace TestFilename

/-! ## Calls -/

theorem isDeclaration_node (n : Node) :
    isDeclaration (.node n) = n.name?.any declarationNames.contains := by
  rw [isDeclaration]
  simp only [Value.isNamed_node]
  cases n.name? with
  | none => rfl
  | some name => exact List.contains_eq_any_beq.symm

/-- In the tree of a dump a call has the shape of one. -/
theorem exists_callExpression {n : Node} (hn : n.IsDumped) (hcall : n.type = "CallExpression") :
    ∃ range callee arguments, n = .mk range (.callExpression callee arguments) := by
  obtain ⟨file, o, hresult⟩ := hn
  obtain ⟨type, rfl⟩ := exists_declared hresult
  obtain rfl : type = "CallExpression" := (Shape.type_declared type o _ _ _).symm.trans hcall
  exact ⟨_, _, _, rfl⟩

theorem isDeclaration_callee {n : Node} (hn : n.IsDumped) (hcall : n.type = "CallExpression") :
    isDeclaration (.ofOption ((Value.node n).at? ["callee"])) = n.declaresTest := by
  obtain ⟨range, callee, arguments, rfl⟩ := exists_callExpression hn hcall
  cases callee with
  | none => rfl
  | some callee => exact isDeclaration_node callee

theorem type_of_declaresTest {n : Node} (h : n.declaresTest = true) :
    n.type = "CallExpression" := by
  unfold declaresTest at h
  split at h
  · rfl
  · exact absurd h (by simp)

/-! ## The violation -/

/-- What is said of a program in a file that should have another name. -/
def misnamed (severity : Severity) (filename suffix : Text) (root : Node) : Violation where
  rule := "consistent-test-filename"
  severity := severity
  message := "Test file should be named \"" ++ (expectedName filename suffix ++ "\"")
  location := (root.range.map (Location.ofRange filename)).getD (.unknown filename)
  messageId := "noConsistentNaming"
  kind := some "Program"
  data := [("expectedName", .plain (.str (expectedName filename suffix)))]
  category := "Jasmine best practices"

theorem fill_message (name : Text) :
    Template.fill "Test file should be named \"\x7b\x7b expectedName \x7d\x7d\""
        [("expectedName", .plain (.str name))] =
      "Test file should be named \"" ++ (name ++ "\"") := by
  let front : Text := "Test file should be named \""
  let content : Text := " expectedName "
  have htemplate : ("Test file should be named \"\x7b\x7b expectedName \x7d\x7d\"" : Text) =
      ⟨front.points ++ (Template.slotText content.points ++ [.char '"'])⟩ := by decide +kernel
  have hcontent : Template.IsSlotContent content.points := ⟨by decide, by decide⟩
  have hname : Template.Names content.points ("expectedName" : Text).points :=
    @Template.Names.trimmed [.char ' '] ("expectedName" : Text).points [.char ' '] (by decide)
      (by decide) (by decide) (by decide)
  have hvalue : Template.Stands [("expectedName", .plain (.str name))] "expectedName" name :=
    @Template.Stands.given _ _ (.plain (.str name)) rfl nofun
  rw [htemplate]
  exact Template.fill_sentence (by decide) hcontent (by decide) hname hvalue

theorem report_request (settings : Settings) (filename suffix : Text) {root : Node}
    (hroot : root.type = "Program") {visit : Visit}
    (hvisit : visit.ancestors.head? = some root) :
    (Listener.contextOf settings filename (rule : Rule σ)).report
        (request filename suffix visit) =
      .ok (misnamed (settings.settingFor (rule : Rule σ)).severity filename suffix root) := by
  have hrequest : request filename suffix visit =
      ⟨"noConsistentNaming", .node root,
        [("expectedName", .plain (.str (expectedName filename suffix)))]⟩ := by
    rw [request, hvisit]
    rfl
  rw [hrequest, Context.report]
  show Except.ok _ = _
  rw [misnamed, ← fill_message, ← hroot]
  rfl

/-- What the rule reports at a visit in the tree of a program. -/
theorem answer_of_suffix {settings : Settings} {filename suffix : Text}
    (hsuffix : suffixOption (settings.settingFor (rule : Rule σ)).options = .str suffix)
    {root : Node} (hroot : root.type = "Program") {visit : Visit} (hvisit : visit ∈ root.visits)
    (hn : visit.node.IsDumped) {callbacks : List (Text × Callback σ)} (m₀ m₁ m : σ) :
    let c := Listener.contextOf settings filename (rule : Rule σ)
    (rule : Rule σ).create c.setup m₀ = .done callbacks m₁ →
    ((⟨c, callbacks⟩ : Listener σ).answer visit m).1 =
      if visit.node.declaresTest = true ∧ ¬IsFound filename suffix then
        [misnamed (settings.settingFor (rule : Rule σ)).severity filename suffix root]
      else [] := by
  intro c hcreated
  obtain rfl : callbacks =
      [(("CallExpression" : Text), .ofHabit (onCall c.setup.toSurroundings))] := by
    cases hcreated
    rfl
  rw [Listener.answer]
  by_cases hcall : visit.node.type = "CallExpression"
  · rw [hcall]
    show (c.perform ((onCall c.setup.toSurroundings visit).work m) #[]).1.toList = _
    rw [onCall_of_suffix hsuffix, isDeclaration_callee hn hcall,
      show c.setup.toSurroundings.filename = filename from rfl]
    by_cases hreported : visit.node.declaresTest = true ∧ ¬IsFound filename suffix
    · have houtermost : visit.ancestors.head? = some root := by
        refine visit.head?_ancestors hvisit ?_
        rw [hcall, hroot]
        decide
      rw [if_pos hreported, if_pos hreported]
      show (c.perform (.report (request filename suffix visit) _) #[]).1.toList = _
      rw [Context.perform, report_request settings filename suffix hroot houtermost]
      rfl
    · rw [if_neg hreported, if_neg hreported]
      rfl
  · rw [if_neg fun h => hcall (type_of_declaresTest h.1), List.lookup_cons,
      beq_false_of_ne hcall]
    rfl

/-! ## A whole program -/

theorem flatMap_ite_singleton {α β : Type} (p : α → Bool) (b : β) (l : List α) :
    (l.flatMap fun a => if p a then [b] else []) = List.replicate (l.countP p) b := by
  induction l with
  | nil => rfl
  | cons a rest ih =>
    rw [List.flatMap_cons, ih]
    cases hp : p a with
    | true => rw [List.countP_cons_of_pos hp]; rfl
    | false => rw [List.countP_cons_of_neg (by simp [hp])]; rfl

/-- The setting that a linter has for the rule. -/
def settingIn (l : Linter σ) : Setting := l.settings.settingFor (rule : Rule σ)

/-- Is the rule at work in a linter, under a suffix? -/
structure AtWork (l : Linter σ) (suffix : Text) : Prop where
  distinct : (l.registry.map (·.id)).Nodup
  /-- No rule ends the run. -/
  goesOn : ∀ rule ∈ l.registry, rule.FailsOnlyWith Mishap.IsTold
  isMember : rule ∈ l.registry
  isOn : (settingIn l).severity ≠ .off
  asks : suffixOption (settingIn l).options = .str suffix

/-- **The share of the rule** in what a linter reports of a program is one violation for each visit
to a call that declares a test. -/
theorem AtWork.filter_verify {l : Linter σ} {suffix : Text} (h : AtWork l suffix)
    {file : Option Text} {raw : Json} {root : Node} (hroot : hydrate file raw = .ok (some root))
    (hprogram : root.type = "Program") (filename : Text) :
    (l.verify (some root) filename).1.map (List.filter (·.rule == (rule : Rule σ).id)) =
      .ok (List.replicate
        (if hasExpectedName filename suffix then 0
          else root.visits.countP fun visit => visit.node.declaresTest)
        (misnamed (settingIn l).severity filename suffix root)) := by
  let said := misnamed (settingIn l).severity filename suffix root
  have hvisits : (some root).toList.flatMap visits = root.visits := List.flatMap_singleton _ _
  have hshare : (l.verify (some root) filename).1.map
        (List.filter (·.rule == (rule : Rule σ).id)) =
      .ok (root.visits.flatMap fun visit =>
        if visit.node.declaresTest = true ∧ ¬IsFound filename suffix then [said] else []) := by
    rw [← hvisits]
    refine Linter.filter_verify h.distinct h.goesOn h.isMember h.isOn
      (fun setup m => ⟨_, _, rfl⟩) ?_
    intro visit hvisit callbacks m₀ m₁ c hcreated m
    have hn := isDumped_of_mem_visits hroot visit hvisit
    rw [hvisits] at hvisit
    exact answer_of_suffix h.asks hprogram hvisit hn m₀ m₁ m hcreated
  rw [hshare]
  refine congrArg Except.ok ?_
  cases hnamed : hasExpectedName filename suffix with
  | true =>
    refine List.flatMap_eq_nil_iff.mpr fun visit _ => if_neg fun hreported => ?_
    exact hreported.2 (hasExpectedName_iff.mp hnamed)
  | false =>
    have hmissing : ¬IsFound filename suffix := by
      rw [← hasExpectedName_iff, hnamed]
      exact Bool.false_ne_true
    simp only [hmissing, not_false_eq_true, and_true]
    exact flatMap_ite_singleton _ said root.visits

/-- **A misnamed test file** is told of its name once for each call in it that declares a test, and
each time the same is said, of the program. -/
theorem filter_verify_eq_replicate {l : Linter σ} {suffix : Text} (h : AtWork l suffix)
    {file : Option Text} {raw : Json} {root : Node} (hroot : hydrate file raw = .ok (some root))
    (hprogram : root.type = "Program") (filename : Text) :
    (l.verify (some root) filename).1.map (List.filter (·.rule == (rule : Rule σ).id)) =
      .ok (List.replicate
        (if hasExpectedName filename suffix then 0
          else {position | (root.nodeAt? position).any declaresTest = true}.ncard)
        (misnamed (settingIn l).severity filename suffix root)) := by
  rw [h.filter_verify hroot hprogram, ncard_positions_any]

open Linter

/-- A program with a test inside another. -/
def nestedDump : Json :=
  programDump (callOfDump (identifierDump "describe") [callOfDump (identifierDump "it") []])

/-- What becomes of it. -/
def nestedTests : Node :=
  .mk none (.program [some (.mk none (.callExpression
    (some (.mk none (.identifier "describe")))
    [some (.mk none (.callExpression (some (.mk none (.identifier "it"))) []))]))])

theorem ofDump_programDump (statement : Json) :
    ofDump none (programDump statement) =
      some (.mk none (.program [ofDump none statement])) := by
  rw [programDump, ofDump_obj]
  rfl

theorem hydrate_nestedDump : hydrate none nestedDump = .ok (some nestedTests) := by
  rw [hydrate_of_finiteLocations ?_]
  · rw [nestedDump, ofDump_programDump, ofDump_callOfDump, List.map_singleton, ofDump_callOfDump,
      ofDump_identifierDump, ofDump_identifierDump]
    rfl
  · refine Json.finiteLocations_of_not_within fun x => ?_
    simp [nestedDump, programDump, callOfDump, identifierDump, Json.within_float_obj,
      Json.within_float_arr, Json.not_within_float]

/-- A linter for which the names of test files are a matter of warnings. -/
def warningLinter : Linter Unit :=
  .start .standard [((rule : Rule Unit).id, ⟨.warning, []⟩)] ()

theorem atWork_warningLinter : AtWork warningLinter "spec" where
  distinct := by decide
  goesOn := Registry.failsOnlyWith_map Registry.conventions
  isMember := List.mem_cons_self
  isOn := by decide
  asks := rfl

/-- A name that looks like a slot is shown as it is. -/
theorem filter_verify_nestedTests :
    hydrate none nestedDump = .ok (some nestedTests) ∧ nestedTests.type = "Program" ∧
      AtWork warningLinter "spec" ∧
      (warningLinter.verify (some nestedTests) "\x7b\x7b expectedName \x7d\x7d.js").1.map
          (List.filter (·.rule == (rule : Rule Unit).id)) =
        .ok (List.replicate 2
          { rule := "consistent-test-filename"
            severity := .warning
            message :=
              "Test file should be named \"\x7b\x7b expectedName \x7d\x7d.spec.js\""
            location := ⟨"\x7b\x7b expectedName \x7d\x7d.js", 0, 0, 0, 0⟩
            messageId := "noConsistentNaming"
            kind := some "Program"
            data := [("expectedName",
              .plain (.str "\x7b\x7b expectedName \x7d\x7d.spec.js"))]
            category := "Jasmine best practices" }) := by
  refine ⟨hydrate_nestedDump, rfl, atWork_warningLinter, ?_⟩
  have hverify := filter_verify_eq_replicate atWork_warningLinter hydrate_nestedDump rfl
    "\x7b\x7b expectedName \x7d\x7d.js"
  have hmisnamed : hasExpectedName "\x7b\x7b expectedName \x7d\x7d.js" "spec" = false := by
    decide
  have hcount : nestedTests.visits.countP (fun visit => visit.node.declaresTest) = 2 := by
    decide +kernel
  have hname : expectedName "\x7b\x7b expectedName \x7d\x7d.js" "spec" =
      "\x7b\x7b expectedName \x7d\x7d.spec.js" := by
    decide +kernel
  have hmessage : ("Test file should be named \"" : Text) ++
      ("\x7b\x7b expectedName \x7d\x7d.spec.js" ++ "\"") =
        "Test file should be named \"\x7b\x7b expectedName \x7d\x7d.spec.js\"" := by
    decide +kernel
  rw [hmisnamed, ncard_positions_any, hcount, misnamed, hname, hmessage] at hverify
  exact hverify

end TestFilename

end AngularLint
