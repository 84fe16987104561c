/-!
# Tables of code points

A property of characters is carried as a table: closed runs of code points, ascending and apart.
This module holds the look-up; the tables themselves stand in a module each, named for the property.
-/

set_option autoImplicit false

namespace AngularLint.Text

/-- Closed runs of code points. Every table of this library lists them in ascending order. -/
abbrev Ranges := List (Nat × Nat)

/-- Is the code point in one of the runs? The search ends at the first run that begins after it,
which is why the order of the table matters. -/
def Ranges.has : Ranges → Nat → Bool
  | [], _ => false
  | (lo, hi) :: rest, n =>
    if n < lo then false
    else if n ≤ hi then true
    else Ranges.has rest n

end AngularLint.Text
