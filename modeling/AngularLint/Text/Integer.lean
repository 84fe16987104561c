import AngularLint.Text.Blank
import AngularLint.Text.Digit
import AngularLint.Text.Quoted

/-!
# Numerals for integers

A numeral may be surrounded by blanks and carry one sign. Its digits come from any script, and one
underscore may stand between two of them. In the bases two, eight and sixteen a letter after a
leading zero may name the base.
-/

set_option autoImplicit false

namespace AngularLint.Text

def maxDecimalDigits : Nat := 4300

/-- Why a text is no numeral, or an integer has none. -/
inductive IntegerFault where
  | malformed (base : Nat) (text : Text)
  | tooLong (digits : Nat)
  /-- An integer needs more digits than a numeral may have. -/
  | tooLarge

/-- The wording of a fault. A long text is shown by the first 200 characters of its quoted form. -/
def IntegerFault.message : IntegerFault → String
  | .malformed base text =>
    s!"invalid literal for int() with base {base}: {String.ofList (text.quotedChars.take 200)}"
  | .tooLong digits =>
    s!"Exceeds the limit ({maxDecimalDigits} digits) for integer string conversion: value has {digits} digits; use sys.set_int_max_str_digits() to increase the limit"
  | .tooLarge =>
    s!"Exceeds the limit ({maxDecimalDigits} digits) for integer string conversion; use sys.set_int_max_str_digits() to increase the limit"

/-- The ASCII character that stands for `c` in a numeral: blanks and digits from beyond ASCII count
as the blank and as their value, and nothing else does. -/
def plainNumeralChar (c : Char) : Char :=
  if c.toNat < 127 then c
  else if isBlank c then ' '
  else match digit? c with
    | some d => Char.ofNat (48 + d)
    | none => '?'

/-- The ASCII character that stands for a code point in a numeral. -/
def plainNumeralPoint : CodePoint → Char
  | .char c => plainNumeralChar c
  | .half _ => '?'

/-- The characters of a numeral, without the blanks around it. -/
def numeralChars (text : Text) : List Char :=
  trim isAsciiBlank (text.points.map plainNumeralPoint)

/-- The digits at the start of a numeral, and what follows them. A single underscore may stand
between two digits; where one stands elsewhere, or where no digit stands, there are none.
`lastDigit` says that the character before was a digit. -/
def digitRun? (base : Nat) (lastDigit : Bool) : List Char → Option (List Nat × List Char)
  | [] => if lastDigit then some ([], []) else none
  | c :: rest =>
    match (asciiDigit? c).filter (· < base) with
    | some d => (digitRun? base true rest).map fun r => (d :: r.1, r.2)
    | none =>
      if !lastDigit then none
      else if c == '_' then digitRun? base false rest
      else some ([], c :: rest)

def groupedDigits? (base : Nat) (s : List Char) : Option (List Nat) :=
  match digitRun? base false s with
  | some (digits, []) => some digits
  | _ => none

/-- Splits a sign from a numeral; `true` stands for minus. -/
def splitSign : List Char → Bool × List Char
  | '-' :: rest => (true, rest)
  | '+' :: rest => (false, rest)
  | s => (false, s)

/-- Does the letter, in either case, name the base? -/
def namesBase (base : Nat) (c : Char) : Bool :=
  match base with
  | 2 => c == 'b' || c == 'B'
  | 8 => c == 'o' || c == 'O'
  | 16 => c == 'x' || c == 'X'
  | _ => false

/-- Drops a zero and a letter that name the base, with one underscore behind them. -/
def dropBaseName (base : Nat) : List Char → List Char
  | '0' :: c :: rest =>
    if namesBase base c then (match rest with | '_' :: rest => rest | _ => rest)
    else '0' :: c :: rest
  | s => s

/-- Reads a numeral in the given base. Too many decimal digits are refused before anything behind
them is looked at. -/
def readInteger (base : Nat) (text : Text) : Except IntegerFault Int :=
  let (negative, chars) := splitSign text.numeralChars
  match digitRun? base false (dropBaseName base chars) with
  | none => .error (.malformed base text)
  | some (digits, rest) =>
    if base == 10 && maxDecimalDigits < digits.length then .error (.tooLong digits.length)
    else if !rest.isEmpty then .error (.malformed base text)
    else
      let n := valueOf base digits
      .ok (if negative then -n else n)

def writeInteger (n : Int) : Except IntegerFault String :=
  if n.natAbs < Nat.pow 10 maxDecimalDigits then .ok (toString n) else .error .tooLarge

end AngularLint.Text
