import AngularLint.Rule.TestFilename

/-!
# The names of test files as a search

Whether a file is named for its tests is a matter of how its name ends, whatever the suffix is made
of. It can be put as a search as well, for a pattern whose text is put together around the suffix
(`patternText`). There, a character with a meaning of its own stands for itself only where it is
escaped, and a suffix may hold any of them.

`Piece` says what a pattern is made of, `Matches` and `Occurs` what it is to find one, and `read?`
which text stands for which pieces. What carries the file is `read?_escape`: an escaped text reads
as itself, code point by code point, in front of whatever follows. So the search comes to the test
of the ending (**`hasExpectedName_iff`**), for every suffix.
-/

set_option autoImplicit false

namespace AngularLint.TestFilename

/-! ## Patterns -/

/-- A piece of a pattern. -/
inductive Piece where
  /-- One or more code points, all of one line. -/
  | line
  | exactly (c : CodePoint)
  /-- The end of the text, or of its last line. -/
  | finish
deriving DecidableEq

/-- Do pieces match, one behind the other, at the start of a text? -/
inductive Matches : List Piece → List CodePoint → Prop
  | nil (s : List CodePoint) : Matches [] s
  | line {run s : List CodePoint} {rest : List Piece} (nonempty : run ≠ [])
      (oneLine : newline ∉ run) (others : Matches rest s) : Matches (.line :: rest) (run ++ s)
  | exactly {c : CodePoint} {s : List CodePoint} {rest : List Piece} (others : Matches rest s) :
      Matches (.exactly c :: rest) (c :: s)
  | finish {s : List CodePoint} {rest : List Piece} (atEnd : s = [] ∨ s = [newline])
      (others : Matches rest s) : Matches (.finish :: rest) s

/-- Do pieces match somewhere in a text? -/
def Occurs (pieces : List Piece) (s : List CodePoint) : Prop :=
  ∃ before after, s = before ++ after ∧ Matches pieces after

theorem matches_exactly_iff {word s : List CodePoint} {rest : List Piece} :
    Matches (word.map .exactly ++ rest) s ↔ ∃ after, s = word ++ after ∧ Matches rest after := by
  induction word generalizing s with
  | nil => simp
  | cons c word ih =>
    rw [List.map_cons, List.cons_append]
    constructor
    · intro h
      cases h with
      | exactly others =>
        obtain ⟨after, rfl, hafter⟩ := ih.mp others
        exact ⟨after, rfl, hafter⟩
    · rintro ⟨after, rfl, hafter⟩
      exact .exactly (ih.mpr ⟨after, rfl, hafter⟩)

/-! ## Texts of patterns -/

def escapeMark : CodePoint := .char '\\'

/-- The characters that are escaped, which are all that have a meaning of their own and some that
have none. -/
def escapedChars : List Char := "()[]\x7b\x7d?*+-|^$\\.&~# \t\n\x0b\x0c\r".toList

def isEscaped : CodePoint → Bool := CodePoint.isChar fun c => escapedChars.contains c

/-- Puts a mark in front of whatever may have a meaning of its own. -/
def escape (s : List CodePoint) : List CodePoint :=
  s.flatMap fun c => if isEscaped c then [escapeMark, c] else [c]

def specialChars : List Char := "()[]\x7b\x7d?*+|^$\\.".toList

def isSpecial : CodePoint → Bool := CodePoint.isChar fun c => specialChars.contains c

/-- Behind a mark, letters and digits have meanings of their own. -/
def isAlphanum : CodePoint → Bool := CodePoint.isChar Char.isAlphanum

/-- The pieces that a text stands for. Texts that hold more than runs, ends and single code points
are not read. -/
def read? : List CodePoint → Option (List Piece)
  | [] => some []
  | .char '.' :: .char '+' :: rest => (read? rest).map (.line :: ·)
  | .char '$' :: rest => (read? rest).map (.finish :: ·)
  | .char '\\' :: c :: rest => if isAlphanum c then none else (read? rest).map (.exactly c :: ·)
  | c :: rest => if isSpecial c then none else (read? rest).map (.exactly c :: ·)

/-- A mark takes what stands behind it as it is, unless it is a letter or a digit. -/
theorem read?_escapeMark {c : CodePoint} (h : isAlphanum c = false) (rest : List CodePoint) :
    read? (escapeMark :: c :: rest) = (read? rest).map (.exactly c :: ·) := by
  rw [escapeMark, read?, h]
  rfl

theorem read?_of_not_special {c : CodePoint} (h : isSpecial c = false) (rest : List CodePoint) :
    read? (c :: rest) = (read? rest).map (.exactly c :: ·) := by
  rw [read?.eq_def]
  split
  · rename_i hnil
    exact absurd hnil (by simp)
  · rename_i hdot
    obtain ⟨rfl, -⟩ := List.cons.inj hdot
    exact absurd h (by decide)
  · rename_i hdollar
    obtain ⟨rfl, -⟩ := List.cons.inj hdollar
    exact absurd h (by decide)
  · rename_i hmark
    obtain ⟨rfl, -⟩ := List.cons.inj hmark
    exact absurd h (by decide)
  · rename_i hother
    obtain ⟨rfl, rfl⟩ := List.cons.inj hother
    exact if_neg (by rw [h]; exact Bool.false_ne_true)

theorem isAlphanum_of_isEscaped {c : CodePoint} (h : isEscaped c = true) :
    isAlphanum c = false := by
  have hchars : escapedChars.all (fun c => !c.isAlphanum) = true := by decide
  cases c with
  | half offset => rfl
  | char c =>
    have hplain := List.all_eq_true.mp hchars c (List.contains_iff_mem.mp h)
    exact (Bool.not_eq_eq_eq_not.mp hplain)

theorem isSpecial_of_not_isEscaped {c : CodePoint} (h : isEscaped c = false) :
    isSpecial c = false := by
  have hchars : specialChars.all escapedChars.contains = true := by decide
  cases c with
  | half offset => rfl
  | char c =>
    refine Bool.eq_false_iff.mpr fun hspecial => ?_
    have hescaped := List.all_eq_true.mp hchars c (List.contains_iff_mem.mp hspecial)
    exact absurd hescaped (Bool.eq_false_iff.mp h)

/-- **An escaped text stands for itself**, whatever follows it. -/
theorem read?_escape (s rest : List CodePoint) :
    read? (escape s ++ rest) = (read? rest).map (s.map .exactly ++ ·) := by
  induction s with
  | nil => exact Option.map_id'.symm
  | cons c s ih =>
    have hstep : read? (escape (c :: s) ++ rest) =
        (read? (escape s ++ rest)).map (.exactly c :: ·) := by
      rw [escape, List.flatMap_cons]
      cases hescaped : isEscaped c with
      | true => exact read?_escapeMark (isAlphanum_of_isEscaped hescaped) _
      | false => exact read?_of_not_special (isSpecial_of_not_isEscaped hescaped) _
    rw [hstep, ih, Option.map_map]
    rfl

/-! ## The pattern for the names of test files -/

/-- The text of the pattern for a suffix. -/
def patternText (suffix : Text) : List CodePoint :=
  (".+\\." : Text).points ++ (escape suffix.points ++ ("\\.js$" : Text).points)

theorem read?_patternText (suffix : Text) :
    read? (patternText suffix) =
      some (.line :: ((ending suffix).map .exactly ++ [.finish])) := by
  have hstart (rest : List CodePoint) : read? ((".+\\." : Text).points ++ rest) =
      (read? rest).map fun pieces => .line :: .exactly dot :: pieces := by
    show read? (.char '.' :: .char '+' :: escapeMark :: dot :: rest) = _
    rw [read?, read?_escapeMark (by decide), Option.map_map]
    rfl
  have hfinish : read? ("\\.js$" : Text).points =
      some (extension.points.map .exactly ++ [.finish]) := by
    decide
  rw [patternText, hstart, read?_escape, hfinish]
  simp [ending]

theorem endsAsExpected_iff {suffix : Text} {name : List CodePoint} :
    endsAsExpected suffix name = true ↔
      ∃ stem, name = stem ++ ending suffix ∧ stem.getLast?.any (· != newline) = true := by
  rw [endsAsExpected, Bool.and_eq_true, beq_iff_eq]
  constructor
  · rintro ⟨hname, hlast⟩
    exact ⟨_, hname.symm, hlast⟩
  · rintro ⟨stem, rfl, hlast⟩
    have hstem : (stem ++ ending suffix).take
        ((stem ++ ending suffix).length - (ending suffix).length) = stem := by
      simp
    rw [hstem]
    exact ⟨rfl, hlast⟩

/-- What stands before the last code point of a stem does not matter. -/
theorem any_getLast?_iff {stem : List CodePoint} :
    stem.getLast?.any (· != newline) = true ↔
      ∃ before run, stem = before ++ run ∧ run ≠ [] ∧ newline ∉ run := by
  constructor
  · intro h
    rcases List.eq_nil_or_concat stem with rfl | ⟨before, last, rfl⟩
    · exact absurd h (by simp)
    · refine ⟨before, [last], List.concat_eq_append, by simp, ?_⟩
      rw [List.concat_eq_append, List.getLast?_concat, Option.any_some, bne_iff_ne] at h
      exact fun hmem => h (List.mem_singleton.mp hmem).symm
  · rintro ⟨before, run, rfl, hrun, hline⟩
    rcases List.eq_nil_or_concat run with rfl | ⟨start, last, rfl⟩
    · exact absurd rfl hrun
    · rw [List.concat_eq_append] at hline ⊢
      rw [← List.append_assoc, List.getLast?_concat, Option.any_some, bne_iff_ne]
      rintro rfl
      exact hline (List.mem_append_right _ (List.mem_singleton_self _))

theorem any_dropFinalNewline?_iff {p : List CodePoint → Bool} {name : List CodePoint} :
    (dropFinalNewline? name).any p = true ↔
      ∃ before, name = before ++ [newline] ∧ p before = true := by
  rcases List.eq_nil_or_concat name with rfl | ⟨before, last, rfl⟩
  · exact iff_of_false (by simp [dropFinalNewline?]) (by simp)
  · rw [List.concat_eq_append, dropFinalNewline?, List.getLast?_concat, List.dropLast_concat]
    by_cases hlast : last = newline
    · subst hlast
      simp
    · simp [hlast]

theorem hasExpectedName_eq_true_iff {filename suffix : Text} :
    hasExpectedName filename suffix = true ↔
      ∃ stem rest, filename.points = stem ++ (ending suffix ++ rest) ∧
        (rest = [] ∨ rest = [newline]) ∧ stem.getLast?.any (· != newline) = true := by
  rw [hasExpectedName, Bool.or_eq_true, any_dropFinalNewline?_iff]
  simp only [endsAsExpected_iff]
  constructor
  · rintro (⟨stem, hname, hlast⟩ | ⟨before, hname, stem, rfl, hlast⟩)
    · exact ⟨stem, [], by rw [hname, List.append_nil], .inl rfl, hlast⟩
    · exact ⟨stem, [newline], by rw [hname, List.append_assoc], .inr rfl, hlast⟩
  · rintro ⟨stem, rest, hname, rfl | rfl, hlast⟩
    · exact .inl ⟨stem, by rw [hname, List.append_nil], hlast⟩
    · exact .inr ⟨stem ++ ending suffix, by rw [hname, List.append_assoc], stem, rfl, hlast⟩

/-- Is a name found in the search for a suffix? -/
def IsFound (filename suffix : Text) : Prop :=
  ∃ pieces, read? (patternText suffix) = some pieces ∧ Occurs pieces filename.points

/-- **The test of the ending is a search**, which takes the suffix as it is. -/
theorem hasExpectedName_iff {filename suffix : Text} :
    hasExpectedName filename suffix = true ↔ IsFound filename suffix := by
  rw [hasExpectedName_eq_true_iff, IsFound, read?_patternText]
  simp only [any_getLast?_iff, Option.some.injEq, exists_eq_left']
  constructor
  · rintro ⟨stem, rest, hname, hrest, before, run, rfl, hrun, hline⟩
    refine ⟨before, run ++ (ending suffix ++ rest), by rw [hname, List.append_assoc], ?_⟩
    exact .line hrun hline (matches_exactly_iff.mpr ⟨rest, rfl, .finish hrest (.nil rest)⟩)
  · rintro ⟨before, after, hname, hmatches⟩
    cases hmatches with
    | line hrun hline others =>
      obtain ⟨rest, rfl, hfinish⟩ := matches_exactly_iff.mp others
      cases hfinish with
      | finish hrest _ =>
        exact ⟨before ++ _, rest, by rw [hname, List.append_assoc], hrest, before, _, rfl, hrun,
          hline⟩

instance (filename suffix : Text) : Decidable (IsFound filename suffix) :=
  decidable_of_iff _ hasExpectedName_iff

end AngularLint.TestFilename
