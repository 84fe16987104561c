import AngularLint.Decimal.Shortest

/-!
# The text of a floating-point value

Positional for values from a ten-thousandth to ten quadrillions, with at least one digit behind the
point; otherwise scientific, with a signed exponent of at least two digits.
-/

set_option autoImplicit false

namespace AngularLint.Decimal

/-- The texts of the values that are not finite. -/
structure Specials where
  nan : String
  infinity : String

/-- An exponent, with its sign and at least two digits. -/
def exponentText (e : Int) : String :=
  let digits := toString e.natAbs
  (if e < 0 then "-" else "+") ++ (if digits.length < 2 then "0" else "") ++ digits

/-- Lays out a selected decimal. `lead` is the exponent of its first digit. -/
def Dec.layout (d : Dec) : String :=
  let digits := (Nat.toDigits 10 d.digits)
  let lead := d.exponent + digits.length - 1
  let text (s : List Char) : String := String.ofList s
  if lead < -4 ∨ 16 ≤ lead then
    let fraction := match digits.drop 1 with
      | [] => ""
      | rest => "." ++ text rest
    text (digits.take 1) ++ fraction ++ "e" ++ exponentText lead
  else if lead < 0 then
    "0." ++ text (List.replicate (-lead - 1).toNat '0') ++ text digits
  else
    let whole := (lead + 1).toNat
    if digits.length ≤ whole then
      text digits ++ text (List.replicate (whole - digits.length) '0') ++ ".0"
    else text (digits.take whole) ++ "." ++ text (digits.drop whole)

/-- The text of a floating-point value; a negative zero keeps its sign. -/
def render (specials : Specials) (x : Float) : String :=
  let sign := if isNegative x then "-" else ""
  if isFinite x then sign ++ (Binary.ofFloat x).shortest.layout
  else if isInfinite x then sign ++ specials.infinity
  else specials.nan

def shown : Specials := ⟨"nan", "inf"⟩

example : render shown 0.1 = "0.1" := by decide +kernel
example : render shown 1e16 = "1e+16" := by decide +kernel
example : render shown (-0.0) = "-0.0" := by decide +kernel

end AngularLint.Decimal
