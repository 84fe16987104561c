import AngularLint.Decimal.Shortest
import AngularLint.Text.Integer

/-!
# Numerals for floating-point values

Two readers: one for the scientific numerals of a data format, whose grammar the caller has
checked, and one for free text. Both round to the nearest value, and exactly: the quotient that a
numeral stands for is divided out in natural numbers, and its remainder decides.
-/

set_option autoImplicit false

namespace AngularLint.Decimal

open AngularLint.Text

def infinity : Float := 1.0 / 0.0

def nan : Float := 0.0 / 0.0

/-! ## Rounding -/

def minExponent : Int := -1074

def infinityBits : Nat := 0x7FF * Nat.pow 2 52

/-- The quotient rounded to a whole number; a half goes to the even neighbour. -/
def roundQuotient (num den : Nat) : Nat :=
  let low := num / den
  match compare (2 * (num % den)) den with
  | .lt => low
  | .gt => low + 1
  | .eq => low + low % 2

/-- The quotient in units of `2 ^ exponent`, rounded. -/
def mantissaAt (num den : Nat) (exponent : Int) : Nat :=
  roundQuotient (num * Nat.pow 2 (-exponent).toNat) (den * Nat.pow 2 exponent.toNat)

/-- The exponent for which the quotient has 53 binary digits before the point, or the least exponent
if that is larger. The logarithms tell it up to one. -/
def exponentOf (num den : Nat) : Int :=
  let guess : Int := (num.log2 : Int) - den.log2 - 53
  let exponent :=
    if num * Nat.pow 2 (-guess).toNat < Nat.pow 2 53 * (den * Nat.pow 2 guess.toNat) then guess
    else guess + 1
  max exponent minExponent

/-- The value nearest to a quotient of positive numbers. A mantissa that is rounded up to one more
binary digit carries over into the exponent field, and a value beyond all others into infinity. -/
def ofQuotient (num den : Nat) : Float :=
  let exponent := exponentOf num den
  let bits := (exponent - minExponent).toNat * Nat.pow 2 52 + mantissaAt num den exponent
  Float.ofBits (UInt64.ofNat (min bits infinityBits))

/-- The value nearest to `digits * 10 ^ exponent`. An exponent far outside the range of the format
is decided without computing the power. -/
def nearest (digits : Nat) (exponent : Int) : Float :=
  let count := (Nat.toDigits 10 digits).length
  if digits == 0 then 0.0
  else if 400 < exponent + count then infinity
  else if exponent + count < -400 then 0.0
  else ofQuotient (digits * Nat.pow 10 exponent.toNat) (Nat.pow 10 (-exponent).toNat)

example : nearest 1 (-1) = 0.1 := by decide +kernel
example : nearest 9007199254740993 0 = 9007199254740992.0 := by decide +kernel

/-! ## Scientific numerals -/

/-- The parts of a scientific numeral, without its sign. -/
structure Scientific where
  whole : List Nat
  fraction : List Nat
  exponent : Int

def Scientific.value (s : Scientific) : Float :=
  nearest (valueOf 10 (s.whole ++ s.fraction)) (s.exponent - s.fraction.length)

/-! ## Free text -/

/-- The digits of a part of a numeral, which may be empty. -/
def digitPart? (s : List Char) : Option (List Nat) :=
  if s.isEmpty then some [] else groupedDigits? 10 s

/-- Splits a list at the first element with the property, which is dropped. -/
def cutAt (p : Char → Bool) (s : List Char) : List Char × Option (List Char) :=
  match s.dropWhile fun c => !p c with
  | [] => (s, none)
  | _ :: rest => (s.takeWhile fun c => !p c, some rest)

/-- Reads the part of a numeral behind its exponent mark. -/
def exponentPart? (s : List Char) : Option Int := do
  let (negative, s) := splitSign s
  let digits ← groupedDigits? 10 s
  let n : Int := valueOf 10 digits
  return if negative then -n else n

/-- Reads a numeral without its sign: a name of infinity or of the undefined value, or digits with
a point and an exponent, each of them optional, but at least one digit. -/
def magnitude? (s : List Char) : Option Float :=
  let lower := String.ofList (s.map Char.toLower)
  if lower == "inf" || lower == "infinity" then some infinity
  else if lower == "nan" then some nan
  else do
    let (base, exponent) := cutAt (fun c => c == 'e' || c == 'E') s
    let (whole, fraction) := cutAt (· == '.') base
    let whole ← digitPart? whole
    let fraction ← digitPart? (fraction.getD [])
    let exponent ← match exponent with
      | none => some 0
      | some e => exponentPart? e
    if whole.isEmpty && fraction.isEmpty then none
    else return (⟨whole, fraction, exponent⟩ : Scientific).value

/-- Reads a numeral from free text, with blanks around it and a sign. -/
def read? (text : Text) : Option Float := do
  let (negative, chars) := splitSign text.numeralChars
  let x ← magnitude? chars
  return if negative then -x else x

end AngularLint.Decimal
