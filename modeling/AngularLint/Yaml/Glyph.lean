import AngularLint.Yaml.Series

/-!
# Texts with positions

What a character of a text means often depends on where it stands. Here every character carries its
index, line and column, counted from zero, and the text ends with an end mark of its own, so that
the place of the end is known as well. What has not been read yet is then simply the rest of a list.

Of a text that something cuts off there is no end mark. A scanner that needs a character from behind
the cut cannot go on, whatever else it would have found, and it does need the one right behind what
it reads. So an empty list is no end, but a cut.

A byte order mark takes no column. Line ends are the line feed, the next-line control and the two
separators U+2028 and U+2029.
-/

set_option autoImplicit false

namespace AngularLint.Yaml

/-- What keeps a scanner from going on. -/
inductive Obstacle where
  | stop (s : Stop)
  /-- The text is cut off, and what comes next is not known. -/
  | cut

def byteOrderMark : Char := Char.ofNat 0xFEFF

/-- The end mark, which stands in no text. -/
def endMark : Char := '\x00'

/-- Does the character separate lines by its own rules, and stay what it is in a folded text? -/
def isSeparator (c : Char) : Bool := c.toNat == 0x2028 || c.toNat == 0x2029

def isBreak (c : Char) : Bool := c == '\n' || c == '\r' || c.toNat == 0x85 || isSeparator c

def isBreakOrEnd (c : Char) : Bool := c == endMark || isBreak c

/-- Is the character a space, or the end of a line or of the text? -/
def isSpaceOrEnd (c : Char) : Bool := c == ' ' || isBreakOrEnd c

/-- Is the character a space or a tab, or the end of a line or of the text? -/
def isBlankOrEnd (c : Char) : Bool := c == '\t' || isSpaceOrEnd c

/-- Is the character a letter or digit of ASCII, a hyphen or an underscore? -/
def isNameChar (c : Char) : Bool := c.isAlphanum || c == '-' || c == '_'

/-- A character and where it stands. -/
structure Glyph where
  char : Char
  index : Nat
  line : Nat
  column : Nat
  /-- The number of characters from here on, with the end mark. -/
  left : Nat

/-- What has not been read of a text. Its last element is the end mark, unless the text is cut
off. -/
abbrev Glyphs := List Glyph

namespace Glyphs

/-- The characters of a text from a place on, with their places; the end mark follows if the text is
`whole`. -/
def place (whole : Bool) (left index line column : Nat) : List Char → Glyphs
  | [] => if whole then [⟨endMark, index, line, column, left⟩] else []
  | c :: rest =>
    ⟨c, index, line, column, left⟩ ::
      (if isBreak c then place whole (left - 1) (index + 1) (line + 1) 0 rest
      else if c == byteOrderMark then place whole (left - 1) (index + 1) line column rest
      else place whole (left - 1) (index + 1) line (column + 1) rest)

def ofText (text : Series Char) : Glyphs :=
  place text.stop.isNone (text.items.length + 1) 0 0 0 text.items

def next (s : Glyphs) : Except Obstacle Char :=
  match s with
  | [] => .error .cut
  | g :: _ => .ok g.char

/-- The next character, where one is known. -/
def peek (s : Glyphs) : Char := (s.head?.map (·.char)).getD endMark

def index (s : Glyphs) : Nat := (s.head?.map (·.index)).getD 0

def line (s : Glyphs) : Nat := (s.head?.map (·.line)).getD 0

def column (s : Glyphs) : Nat := (s.head?.map (·.column)).getD 0

def left (s : Glyphs) : Nat := (s.head?.map (·.left)).getD 0

/-- The next three characters, fewer at the end of the text. -/
def nextThree (s : Glyphs) : Except Obstacle (List Char) :=
  let chars := (s.take 3).map (·.char)
  if chars.length == 3 || chars.contains endMark then .ok chars else .error .cut

/-- Does a line with three of the character and nothing behind them start here? -/
def isRule (c : Char) (s : Glyphs) : Except Obstacle Bool := do
  if (← nextThree s) == [c, c, c] then return isBlankOrEnd (← next (s.drop 3))
  else return false

def isDocumentRule (s : Glyphs) : Except Obstacle Bool := do
  return (← isRule '-' s) || (← isRule '.' s)

/-- The characters up to the first without the property, and what stands behind them. -/
def span (p : Char → Bool) (s : Glyphs) : List Char × Glyphs :=
  ((s.takeWhile fun g => p g.char).map (·.char), s.dropWhile fun g => p g.char)

/-- What stands behind the characters with the property. -/
def skip (p : Char → Bool) (s : Glyphs) : Glyphs := s.dropWhile fun g => p g.char

/-- Reads the end of a line, if it stands here: the character that it counts as, and the rest. -/
def lineBreak? (s : Glyphs) : Option (Char × Glyphs) :=
  match s with
  | [] => none
  | g :: rest =>
    if !isBreak g.char then none
    else if isSeparator g.char then some (g.char, rest)
    else some ('\n', rest)

/-- What stands behind the end of a line, if it stands here. -/
def skipBreak (s : Glyphs) : Glyphs := (lineBreak? s).elim s (·.2)

end Glyphs

/-- What a scanner has read, and what it has left. -/
abbrev Scan (α : Type) := α × Glyphs

/-- Stops, as the characters make no token. -/
def reject {α : Type} : Except Obstacle α := .error (.stop (.fault .token))

/-- Stops, as the run ends. -/
def abandon {α : Type} (a : Abort) : Except Obstacle α := .error (.stop (.abort a))

def require (condition : Bool) : Except Obstacle Unit := if condition then .ok () else reject

/-- Repeats a step as long as it asks for it. A step has to read something to be repeated. -/
def repeatScan {σ : Type} (step : σ → Glyphs → Except Obstacle (σ × Bool × Glyphs))
    (state : σ) (s : Glyphs) : Except Obstacle (Scan σ) :=
  match step state s with
  | .error obstacle => .error obstacle
  | .ok (state, again, rest) =>
    if _h : again ∧ rest.left < s.left then repeatScan step state rest
    else .ok (state, rest)
termination_by s.left
decreasing_by exact _h.2

end AngularLint.Yaml
