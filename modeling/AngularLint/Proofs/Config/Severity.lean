import AngularLint.Config.Setting
import AngularLint.Proofs.Except

/-!
# Which values are severities

A severity is written as a truth value, as a number or as a word. `Datum.Names` lists the ways to
write each of the three; numbers are compared as numbers, whole or not, and words in lower case. The
tables of the program name exactly these (`ofDatum?_eq_some_iff`). A floating-point number goes
through a search and not a look-up, and finds no other entry since it equals one integer at most.
-/

set_option autoImplicit false

namespace AngularLint

/-- Is the scalar a number, and this one? Truth values are no numbers here. -/
def Scalar.IsNumber (n : Int) : Scalar → Prop
  | .int m => m = n
  | .float x => intIsFloat n x = true
  | _ => False

/-- The severity that a value names. The words are read in lower case. -/
inductive Datum.Names : Datum → Severity → Prop
  | no : Names (.scalar (.bool false)) .off
  | yes : Names (.scalar (.bool true)) .error
  | zero {s : Scalar} (isZero : s.IsNumber 0) : Names (.scalar s) .off
  | one {s : Scalar} (isOne : s.IsNumber 1) : Names (.scalar s) .warning
  | two {s : Scalar} (isTwo : s.IsNumber 2) : Names (.scalar s) .error
  | off {word : Text} (lower : word.lower = "off") : Names (.scalar (.text word)) .off
  | warn {word : Text} (lower : word.lower = "warn") : Names (.scalar (.text word)) .warning
  | warning {word : Text} (lower : word.lower = "warning") : Names (.scalar (.text word)) .warning
  | error {word : Text} (lower : word.lower = "error") : Names (.scalar (.text word)) .error

namespace Severity

theorem eq_of_intIsFloat {m n : Int} {x : Float} (hm : Scalar.intIsFloat m x = true)
    (hn : Scalar.intIsFloat n x = true) : m = n := by
  simp only [Scalar.intIsFloat, Bool.and_eq_true, beq_iff_eq] at hm hn
  rw [← hm.1.2, hn.1.2]

theorem ofWord?_eq_some_iff {word : Text} {severity : Severity} :
    ofWord? word = some severity ↔ (Datum.scalar (.text word)).Names severity := by
  rw [ofWord?]
  constructor
  · intro h
    split at h
    · obtain rfl := Option.some.inj h
      exact .off (Text.string?_eq_some_iff.mp ‹_›)
    · obtain rfl := Option.some.inj h
      exact .warn (Text.string?_eq_some_iff.mp ‹_›)
    · obtain rfl := Option.some.inj h
      exact .warning (Text.string?_eq_some_iff.mp ‹_›)
    · obtain rfl := Option.some.inj h
      exact .error (Text.string?_eq_some_iff.mp ‹_›)
    · exact absurd h (by simp)
  · intro h
    cases h with
    | zero isZero => exact isZero.elim
    | one isOne => exact isOne.elim
    | two isTwo => exact isTwo.elim
    | off lower =>
      rw [Text.string?_eq_some_iff.mpr lower]
      rfl
    | warn lower =>
      rw [Text.string?_eq_some_iff.mpr lower]
      rfl
    | warning lower =>
      rw [Text.string?_eq_some_iff.mpr lower]
      rfl
    | error lower =>
      rw [Text.string?_eq_some_iff.mpr lower]
      rfl

theorem lookup_byNumber {n : Int} {severity : Severity} :
    byNumber.lookup n = some severity ↔
      n = 0 ∧ severity = off ∨ n = 1 ∧ severity = warning ∨ n = 2 ∧ severity = error := by
  simp only [byNumber, List.lookup_cons, List.lookup_nil]
  grind

/-- A number that is known by a test stands at most once in the table. -/
theorem find?_byNumber {isNumber : Int → Bool}
    (hunique : ∀ m n, isNumber m = true → isNumber n = true → m = n) {severity : Severity} :
    (byNumber.find? fun e => isNumber e.1).map (·.2) = some severity ↔
      isNumber 0 = true ∧ severity = off ∨ isNumber 1 = true ∧ severity = warning ∨
        isNumber 2 = true ∧ severity = error := by
  have h01 := hunique 0 1
  have h02 := hunique 0 2
  have h12 := hunique 1 2
  simp only [byNumber, List.find?_cons, List.find?_nil]
  grind

theorem names_number_iff {s : Scalar} (hbool : ∀ b, s ≠ .bool b) (htext : ∀ word, s ≠ .text word)
    {severity : Severity} :
    (Datum.scalar s).Names severity ↔
      s.IsNumber 0 ∧ severity = off ∨ s.IsNumber 1 ∧ severity = warning ∨
        s.IsNumber 2 ∧ severity = error := by
  constructor
  · intro h
    cases h with
    | no => exact absurd rfl (hbool false)
    | yes => exact absurd rfl (hbool true)
    | zero isZero => exact .inl ⟨isZero, rfl⟩
    | one isOne => exact .inr (.inl ⟨isOne, rfl⟩)
    | two isTwo => exact .inr (.inr ⟨isTwo, rfl⟩)
    | off lower => exact absurd rfl (htext _)
    | warn lower => exact absurd rfl (htext _)
    | warning lower => exact absurd rfl (htext _)
    | error lower => exact absurd rfl (htext _)
  · rintro (⟨isZero, rfl⟩ | ⟨isOne, rfl⟩ | ⟨isTwo, rfl⟩)
    · exact .zero isZero
    · exact .one isOne
    · exact .two isTwo

/-- **Which values are severities.** -/
theorem ofDatum?_eq_some_iff {v : Datum} {severity : Severity} :
    ofDatum? v = some severity ↔ v.Names severity := by
  cases v with
  | container n => exact iff_of_false (by simp [ofDatum?]) nofun
  | scalar s =>
    cases s with
    | bool b =>
      constructor
      · intro h
        obtain rfl := Option.some.inj h
        cases b with
        | false => exact .no
        | true => exact .yes
      · intro h
        cases h with
        | no => rfl
        | yes => rfl
        | zero isZero => exact isZero.elim
        | one isOne => exact isOne.elim
        | two isTwo => exact isTwo.elim
    | text word => exact ofWord?_eq_some_iff
    | int n =>
      rw [names_number_iff (by simp) (by simp)]
      exact lookup_byNumber
    | float x =>
      rw [names_number_iff (by simp) (by simp)]
      exact find?_byNumber fun m n => eq_of_intIsFloat
    | _ =>
      rw [names_number_iff (by simp) (by simp)]
      simp [ofDatum?, ofScalar?, Scalar.IsNumber]

end Severity

end AngularLint
