import AngularLint.Text.Basic
import AngularLint.Text.Digit
import AngularLint.Text.Printable

/-!
# Quoted texts

How a text is shown inside a message: between single quotes, or between double quotes where it
holds a single quote and no double one. What is not printable is escaped by its code.
-/

set_option autoImplicit false

namespace AngularLint.Text

/-- The quote that needs the fewer escapes: single, unless only single ones occur in the text. -/
def quoteFor (t : Text) : Char := if t.contains '\x27' && !t.contains '"' then '"' else '\x27'

/-- The escape of a code, in the shortest of the three widths. -/
def escapeByCode (n : Nat) : List Char :=
  if n < 0x100 then '\\' :: 'x' :: hex 2 n
  else if n < 0x10000 then '\\' :: 'u' :: hex 4 n
  else '\\' :: 'U' :: hex 8 n

def quoteChar (q : Char) (c : Char) : List Char :=
  if c == q || c == '\\' then ['\\', c]
  else if c == '\n' then ['\\', 'n']
  else if c == '\r' then ['\\', 'r']
  else if c == '\t' then ['\\', 't']
  else if isPrintable c then [c]
  else escapeByCode c.toNat

/-- One code point of a quoted text. Half a surrogate pair is not printable. -/
def quotePoint (q : Char) : CodePoint → List Char
  | .char c => quoteChar q c
  | .half offset => escapeByCode (CodePoint.half offset).toNat

def quotedChars (t : Text) : List Char :=
  let q := t.quoteFor
  q :: t.points.flatMap (quotePoint q) ++ [q]

def quote (t : Text) : Text := ofChars t.quotedChars

/-- A code point outside of quotes, where half a surrogate pair is escaped all the same. -/
def printedPoint : CodePoint → List Char
  | .char c => [c]
  | .half offset => escapeByCode (CodePoint.half offset).toNat

def printed (t : Text) : String := String.ofList (t.points.flatMap printedPoint)

/-- One byte of a quoted byte sequence: outside printable ASCII it is escaped by its value. -/
def quoteByte (q : Char) (b : UInt8) : List Char :=
  if b.toNat < 0x80 then quoteChar q (Char.ofNat b.toNat) else '\\' :: 'x' :: hex 2 b.toNat

/-- A byte sequence between quotes, marked by a leading letter. -/
def quoteBytes (bytes : List UInt8) : Text :=
  let q := (ofChars (bytes.map fun b => Char.ofNat b.toNat)).quoteFor
  ofChars ('b' :: q :: bytes.flatMap (quoteByte q) ++ [q])

end AngularLint.Text
