/-!
# Code points

Escapes can write one half of a surrogate pair without the other. Such a half is no character, but
it is part of the text, and stays what it is wherever the text goes.
-/

set_option autoImplicit false

namespace AngularLint

/-- A code point of a text: a character, or one half of a surrogate pair that stands alone. -/
inductive CodePoint where
  | char (c : Char)
  | half (offset : Fin 0x800)
deriving DecidableEq

namespace CodePoint

/-- The code of the first half of a surrogate pair that there is. -/
def firstHalf : Nat := 0xD800

def toNat : CodePoint → Nat
  | char c => c.toNat
  | half offset => firstHalf + offset.val

/-- The code point with the code; nothing beyond the last character. -/
def ofNat? (n : Nat) : Option CodePoint :=
  if h : firstHalf ≤ n ∧ n < firstHalf + 0x800 then some (half ⟨n - firstHalf, by omega⟩)
  else if n.isValidChar then some (char (Char.ofNat n))
  else none

/-- The character itself, if the code point is one. -/
def char? : CodePoint → Option Char
  | char c => some c
  | half _ => none

def isChar (p : Char → Bool) (c : CodePoint) : Bool := c.char?.any p

end CodePoint

end AngularLint
