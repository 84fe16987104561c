/-!
# Line ends

Files are read with every line end as a line feed. Positions in a text are counted in characters
from its start, lines and columns from one.
-/

set_option autoImplicit false

namespace AngularLint.Text

/-- Every line end as one line feed: carriage return with line feed, and a carriage return alone. -/
def unifyLineEnds : List Char → List Char
  | [] => []
  | '\r' :: '\n' :: rest => '\n' :: unifyLineEnds rest
  | '\r' :: rest => '\n' :: unifyLineEnds rest
  | c :: rest => c :: unifyLineEnds rest

/-- The line on which the text after `before` stands. -/
def lineAfter (before : List Char) : Nat := before.count '\n' + 1

/-- The column at which the text after `before` stands. -/
def columnAfter (before : List Char) : Nat := (before.reverse.takeWhile (· != '\n')).length + 1

end AngularLint.Text
