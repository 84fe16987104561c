import AngularLint.Proofs.Rule.TestFilename

/-!
# What comes of following the advice

A misnamed test file is told the name that it should have. The two sides of this do not look at a
name in the same way: the name to have is put together around the last dot, and whether a file has
it is a matter of how its name ends. So a file can be given the name that it was told, and be told
again.

`IsScript` says for which names this does not happen. What carries the argument is that a name has
one last dot (`splitAtLastDot_append`). In the name that was told, what stands behind the last dot
is what stood behind it before, and what stands in front of the suffix is the old stem, whatever is
in the suffix (`hasExpectedName_expectedName_of_split`).
-/

set_option autoImplicit false

namespace AngularLint.TestFilename

open Node

/-! ## The last dot -/

theorem bne_dot_of_mem_reverse {behind : List CodePoint} (h : dot ∉ behind) :
    ∀ c ∈ behind.reverse, (c != dot) = true := by
  intro c hc
  rw [bne_iff_ne]
  rintro rfl
  exact h (List.mem_reverse.mp hc)

theorem splitAtLastDot_append {before behind : List CodePoint} (h : dot ∉ behind) :
    splitAtLastDot (before ++ dot :: behind) = (before, behind) := by
  have hbehind : ((before ++ dot :: behind).reverse.takeWhile (· != dot)).reverse = behind := by
    rw [List.reverse_append, List.reverse_cons, List.append_assoc,
      List.takeWhile_append_of_pos (bne_dot_of_mem_reverse h), List.singleton_append,
      List.takeWhile_cons_of_neg (by simp), List.append_nil, List.reverse_reverse]
  have hlength : (before ++ dot :: behind).length - behind.length - 1 = before.length := by
    rw [List.length_append, List.length_cons]
    omega
  rw [splitAtLastDot, hbehind, hlength, List.take_left]

theorem splitAtLastDot_of_not_mem {name : List CodePoint} (h : dot ∉ name) :
    splitAtLastDot name = ([], name) := by
  have hbehind : (name.reverse.takeWhile (· != dot)).reverse = name := by
    rw [List.takeWhile_eq_self_iff.mpr (bne_dot_of_mem_reverse h), List.reverse_reverse]
  rw [splitAtLastDot, hbehind, Nat.sub_self, Nat.zero_sub, List.take_zero]

theorem exists_last_dot {name : List CodePoint} (h : dot ∈ name) :
    ∃ before behind, name = before ++ dot :: behind ∧ dot ∉ behind := by
  obtain ⟨front, back, hname, hfront⟩ := List.eq_append_cons_of_mem (List.mem_reverse.mpr h)
  refine ⟨back.reverse, front.reverse, ?_, fun hmem => hfront (List.mem_reverse.mp hmem)⟩
  rw [← name.reverse_reverse, hname, List.reverse_append, List.reverse_cons, List.append_assoc]
  rfl

/-! ## The name that was told -/

theorem points_expectedName {filename suffix : Text} {before behind : List CodePoint}
    (h : splitAtLastDot filename.points = (before, behind)) :
    (expectedName filename suffix).points = (before ++ dot :: suffix.points) ++ dot :: behind := by
  have hpoints : (expectedName filename suffix).points =
      (splitAtLastDot filename.points).1 ++ [dot] ++ suffix.points ++ [dot] ++
        (splitAtLastDot filename.points).2 := rfl
  rw [hpoints, h]
  simp

theorem hasExpectedName_expectedName_of_split {filename suffix : Text}
    {before behind : List CodePoint} (h : splitAtLastDot filename.points = (before, behind))
    (hbehind : dot ∉ behind) :
    hasExpectedName (expectedName filename suffix) suffix = true ↔
      (behind = ("js" : Text).points ∨ behind = ("js\n" : Text).points) ∧
        before.getLast?.any (· != newline) = true := by
  have hending (rest : List CodePoint) : ending suffix ++ rest =
      dot :: suffix.points ++ dot :: (("js" : Text).points ++ rest) := by
    rw [ending, show extension.points = dot :: ("js" : Text).points from rfl, List.append_assoc]
    rfl
  rw [hasExpectedName_eq_true_iff, points_expectedName h]
  constructor
  · rintro ⟨stem, rest, hname, hrest, hlast⟩
    have hdot : dot ∉ ("js" : Text).points ++ rest := by
      rcases hrest with rfl | rfl <;> decide
    -- Both sides show the last dot of the same name.
    rw [hending, ← List.append_assoc] at hname
    have hsplit := congrArg splitAtLastDot hname
    rw [splitAtLastDot_append hbehind, splitAtLastDot_append hdot] at hsplit
    obtain ⟨hstem, rfl⟩ := Prod.mk.inj hsplit
    rw [List.append_cancel_right hstem]
    refine ⟨?_, hlast⟩
    rcases hrest with rfl | rfl
    · exact .inl rfl
    · exact .inr rfl
  · rintro ⟨rfl | rfl, hlast⟩
    · exact ⟨before, [], by rw [hending, ← List.append_assoc]; rfl, .inl rfl, hlast⟩
    · exact ⟨before, [newline], by rw [hending, ← List.append_assoc]; rfl, .inr rfl, hlast⟩

/-- Is it the name of a script? There is a stem on the line of the last dot, and behind that dot
there is `js`; a line feed may follow. -/
def IsScript (filename : Text) : Prop :=
  ∃ stem behind, filename.points = stem ++ dot :: behind ∧ dot ∉ behind ∧
    (behind = ("js" : Text).points ∨ behind = ("js\n" : Text).points) ∧
    stem ≠ [] ∧ stem.getLast? ≠ some newline

theorem any_bne_newline_iff {stem : List CodePoint} :
    stem.getLast?.any (· != newline) = true ↔ stem ≠ [] ∧ stem.getLast? ≠ some newline := by
  cases h : stem.getLast? with
  | none => simp [List.getLast?_eq_none_iff.mp h]
  | some last =>
    have hne : stem ≠ [] := by
      rintro rfl
      exact absurd h (by simp)
    simp [hne]

/-- **Which names the advice is good for.** -/
theorem hasExpectedName_expectedName_iff {filename suffix : Text} :
    hasExpectedName (expectedName filename suffix) suffix = true ↔ IsScript filename := by
  by_cases hdot : dot ∈ filename.points
  · obtain ⟨before, behind, hname, hbehind⟩ := exists_last_dot hdot
    have hsplit : splitAtLastDot filename.points = (before, behind) := by
      rw [hname, splitAtLastDot_append hbehind]
    rw [hasExpectedName_expectedName_of_split hsplit hbehind, any_bne_newline_iff]
    constructor
    · rintro ⟨hscript, hstem⟩
      exact ⟨before, behind, hname, hbehind, hscript, hstem⟩
    · rintro ⟨stem, behind', hname', hbehind', hscript, hstem⟩
      rw [hname', splitAtLastDot_append hbehind'] at hsplit
      obtain ⟨rfl, rfl⟩ := Prod.mk.inj hsplit
      exact ⟨hscript, hstem⟩
  · rw [hasExpectedName_expectedName_of_split (splitAtLastDot_of_not_mem hdot) hdot]
    refine iff_of_false (fun h => absurd h.2 (by simp)) ?_
    rintro ⟨stem, behind, hname, -⟩
    rw [hname] at hdot
    exact hdot (List.mem_append_right stem List.mem_cons_self)

/-! ## Whole programs -/

variable {σ : Type}

theorem AtWork.filter_verify_eq_nil_iff {l : Linter σ} {suffix : Text} (h : AtWork l suffix)
    {file : Option Text} {raw : Json} {root : Node} (hroot : hydrate file raw = .ok (some root))
    (hprogram : root.type = "Program") {filename : Text} :
    (l.verify (some root) filename).1.map (List.filter (·.rule == (rule : Rule σ).id)) = .ok [] ↔
      hasExpectedName filename suffix = true ∨
        ∀ visit ∈ root.visits, visit.node.declaresTest = false := by
  rw [h.filter_verify hroot hprogram, Except.ok.injEq, List.replicate_eq_nil_iff]
  cases hasExpectedName filename suffix with
  | true => simp
  | false => simp [List.countP_eq_zero]

/-- **Following the advice** helps for the names of scripts, whatever the suffix, and for no others:
under the name that it was told, a program with a test in it is told again. -/
theorem filter_verify_expectedName_iff (filename suffix : Text) :
    (hasExpectedName (expectedName filename suffix) suffix = true ↔ IsScript filename) ∧
      ∀ {σ : Type} {l : Linter σ} {file : Option Text} {raw : Json} {root : Node},
        AtWork l suffix → hydrate file raw = .ok (some root) → root.type = "Program" →
          ((l.verify (some root) (expectedName filename suffix)).1.map
              (List.filter (·.rule == (rule : Rule σ).id)) = .ok [] ↔
            IsScript filename ∨ ∀ visit ∈ root.visits, visit.node.declaresTest = false) := by
  refine ⟨hasExpectedName_expectedName_iff, fun h hroot hprogram => ?_⟩
  rw [h.filter_verify_eq_nil_iff hroot hprogram, hasExpectedName_expectedName_iff]

/-- Of two files with tests, one is silent under its new name. The other one has no stem. -/
theorem filter_verify_expectedName_nestedTests :
    hydrate none nestedDump = .ok (some nestedTests) ∧ AtWork warningLinter "spec" ∧
      IsScript "a.b.js" ∧ ¬IsScript ".js" ∧
      (warningLinter.verify (some nestedTests) (expectedName "a.b.js" "spec")).1.map
        (List.filter (·.rule == (rule : Rule Unit).id)) = .ok [] ∧
      (warningLinter.verify (some nestedTests) (expectedName ".js" "spec")).1.map
        (List.filter (·.rule == (rule : Rule Unit).id)) ≠ .ok [] := by
  obtain ⟨hgood, hsilent⟩ := filter_verify_expectedName_iff "a.b.js" "spec"
  obtain ⟨hbad, htold⟩ := filter_verify_expectedName_iff ".js" "spec"
  have hscript : IsScript "a.b.js" := hgood.mp (by decide)
  have hnone : ¬IsScript ".js" := fun h => absurd (hbad.mpr h) (by decide)
  have hdeclares : ∃ visit ∈ nestedTests.visits, visit.node.declaresTest = true := by
    rw [← List.countP_pos_iff]
    decide +kernel
  refine ⟨hydrate_nestedDump, atWork_warningLinter, hscript, hnone,
    (hsilent atWork_warningLinter hydrate_nestedDump rfl).mpr (.inl hscript), fun hempty => ?_⟩
  rcases (htold atWork_warningLinter hydrate_nestedDump rfl).mp hempty with h | hquiet
  · exact hnone h
  · obtain ⟨visit, hvisit, htest⟩ := hdeclares
    exact absurd (hquiet visit hvisit) (by simp [htest])

end AngularLint.TestFilename
