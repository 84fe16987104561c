import AngularLint.Text.CodePoint

/-!
# Texts

A text is a list of code points. Most texts are lists of characters; those that the program itself
writes are string literals, which become texts where a text is asked for.
-/

set_option autoImplicit false

namespace AngularLint

/-- A text. -/
structure Text where
  points : List CodePoint
deriving DecidableEq

namespace Text

def ofChars (s : List Char) : Text := ⟨s.map .char⟩

def ofString (s : String) : Text := ofChars s.toList

instance : Coe String Text := ⟨ofString⟩

instance : Inhabited Text := ⟨⟨[]⟩⟩

/-- One text behind another. -/
protected def append (a b : Text) : Text := ⟨a.points ++ b.points⟩

instance : Append Text := ⟨Text.append⟩

@[simp] theorem points_append (a b : Text) : (a ++ b).points = a.points ++ b.points := rfl

def isEmpty (t : Text) : Bool := t.points.isEmpty

def length (t : Text) : Nat := t.points.length

/-- The characters of a text that holds nothing else. -/
def chars? (t : Text) : Option (List Char) := t.points.mapM CodePoint.char?

/-- The text as a string, if it holds nothing but characters. -/
def string? (t : Text) : Option String := t.chars?.map String.ofList

theorem chars?_ofChars (s : List Char) : (ofChars s).chars? = some s := by
  rw [chars?, ofChars]
  induction s with
  | nil => rfl
  | cons c s ih => simp only [List.map_cons, List.mapM_cons, CodePoint.char?, ih]; rfl

theorem eq_ofChars_of_chars? {t : Text} {s : List Char} (h : t.chars? = some s) :
    t = ofChars s := by
  obtain ⟨points⟩ := t
  unfold chars? at h
  rw [ofChars, Text.mk.injEq]
  induction points generalizing s with
  | nil => cases h; rfl
  | cons p points ih =>
    rw [List.mapM_cons, Option.bind_eq_bind, Option.bind_eq_some_iff] at h
    obtain ⟨c, hc, h⟩ := h
    rw [Option.bind_eq_bind, Option.bind_eq_some_iff] at h
    obtain ⟨cs, hcs, h⟩ := h
    cases h
    cases p with
    | char c' => cases hc; rw [ih hcs, List.map_cons]
    | half offset => exact absurd hc (by simp [CodePoint.char?])

/-- A text reads as one string, the one that it is the text of. -/
theorem string?_eq_some_iff {t : Text} {s : String} : t.string? = some s ↔ t = ofString s := by
  rw [string?, Option.map_eq_some_iff]
  constructor
  · rintro ⟨cs, hcs, rfl⟩
    rw [ofString, String.toList_ofList, eq_ofChars_of_chars? hcs]
  · rintro rfl
    exact ⟨s.toList, chars?_ofChars _, String.ofList_toList⟩

def contains (c : Char) (t : Text) : Bool := t.points.contains (.char c)

def join (ts : List Text) : Text := ⟨ts.flatMap points⟩

/-- Texts one behind another, with a text between any two of them. -/
def intercalate (between : Text) (ts : List Text) : Text :=
  ⟨between.points.intercalate (ts.map points)⟩

/-- The order of the codes of the first code points in which two lists differ; a list comes before
every list that it begins. -/
def lessOrEqual : List CodePoint → List CodePoint → Bool
  | [], _ => true
  | _ :: _, [] => false
  | a :: as, b :: bs => a.toNat < b.toNat || (a == b && lessOrEqual as bs)

/-- Does the text come before the other in the order of codes, or equal it? -/
def le (a b : Text) : Bool := lessOrEqual a.points b.points

end Text

end AngularLint
