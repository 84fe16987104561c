import AngularLint.Text.Ranges

/-!
# White space

Two classes of blanks. `isBlank` is the wide one: the white space of Unicode 14 and the four
separators U+001C to U+001F; names in templates are trimmed by it. `isAsciiBlank` is the narrow one
that surrounds a numeral.
-/

set_option autoImplicit false

namespace AngularLint.Text

def blankRanges : Ranges :=
  [(0x09, 0x0D), (0x1C, 0x20), (0x85, 0x85), (0xA0, 0xA0), (0x1680, 0x1680), (0x2000, 0x200A),
   (0x2028, 0x2029), (0x202F, 0x202F), (0x205F, 0x205F), (0x3000, 0x3000)]

def isBlank (c : Char) : Bool := blankRanges.has c.toNat

/-- Tab, line feed, vertical tab, form feed, carriage return and space. -/
def isAsciiBlank (c : Char) : Bool := (9 ≤ c.toNat && c.toNat ≤ 13) || c.toNat == 32

/-- What is left of a list without the blanks at its start. -/
def trimLeft {α : Type} (blank : α → Bool) (s : List α) : List α := s.dropWhile blank

/-- What is left of a list without the blanks at either end. -/
def trim {α : Type} (blank : α → Bool) (s : List α) : List α :=
  (trimLeft blank (trimLeft blank s).reverse).reverse

end AngularLint.Text
