import AngularLint.Decimal.Reading
import AngularLint.Document.Scalar
import AngularLint.Text.Base64
import AngularLint.Text.Lower
import AngularLint.Yaml.Glyph

/-!
# Values of scalars

The value that a text has as a scalar of a type. A text that carries a type explicitly need not suit
it, and then most types end the run.
-/

set_option autoImplicit false

namespace AngularLint.Yaml.ScalarValue

/-- Ends the run, as a text is no scalar of its type. -/
def unsuited {α : Type} (f : ScalarFault) : Except Stop α := .error (.abort (.scalar f))

def splitOn (c : CodePoint) : List CodePoint → List (List CodePoint)
  | [] => [[]]
  | d :: rest =>
    if d == c then [] :: splitOn c rest
    else match splitOn c rest with
      | [] => [[d]]
      | part :: parts => (d :: part) :: parts

def bool (text : Text) : Except Stop Scalar :=
  let word := text.lower
  match word.string? with
  | some "yes" => .ok (.bool true)
  | some "true" => .ok (.bool true)
  | some "on" => .ok (.bool true)
  | some "no" => .ok (.bool false)
  | some "false" => .ok (.bool false)
  | some "off" => .ok (.bool false)
  | _ => unsuited (.notTruth word)

/-! ## Numbers -/

def ungrouped (text : Text) : Text := ⟨text.points.filter (· != .char '_')⟩

/-- The sign of a numeral, and the numeral behind it; `true` stands for minus. -/
def signed (text : Text) : Except Stop (Bool × List CodePoint) :=
  match text.points with
  | [] => unsuited .noDigits
  | .char '-' :: rest => .ok (true, rest)
  | .char '+' :: rest => .ok (false, rest)
  | rest => .ok (false, rest)

def inBase (base : Nat) (s : List CodePoint) : Except Stop Int :=
  match Text.readInteger base ⟨s⟩ with
  | .ok n => .ok n
  | .error fault => unsuited (.integer fault)

def ofSixtieths (digits : List Int) : Int := digits.foldl (fun n d => n * 60 + d) 0

def colon : CodePoint := .char ':'

/-- An integer without its sign: the start of the numeral names its base. -/
def magnitude (s : List CodePoint) : Except Stop Int :=
  match s with
  | [] => unsuited .noDigits
  | [.char '0'] => .ok 0
  | .char '0' :: .char 'b' :: rest => inBase 2 rest
  | .char '0' :: .char 'x' :: rest => inBase 16 rest
  | .char '0' :: rest => inBase 8 (.char '0' :: rest)
  | s => do
    if s.contains colon then
      let digits ← (splitOn colon s).mapM (inBase 10)
      return ofSixtieths digits
    else inBase 10 s

def int (text : Text) : Except Stop Scalar := do
  let (negative, rest) ← signed (ungrouped text)
  let n ← magnitude rest
  return .int (if negative then -n else n)

def floatOf (s : List CodePoint) : Except Stop Float :=
  match Decimal.read? ⟨s⟩ with
  | some x => .ok x
  | none => unsuited (.notFloat ⟨s⟩)

/-- The names of infinity and of the undefined value. -/
def specialNames : Text × Text := (".inf", ".nan")

/-- A natural number as a floating-point value, unless it is beyond all of them. -/
def weight? (n : Nat) : Option Float := (some (Decimal.nearest n 0)).filter Decimal.isFinite

/-- Adds up digits in base sixty, the last first, where `base` is the weight of the first of
them. -/
def sumSixtieths (base : Nat) (sum : Float) : List Float → Except Stop Float
  | [] => .ok sum
  | d :: rest =>
    match weight? base with
    | some weight => sumSixtieths (base * 60) (sum + d * weight) rest
    | none => unsuited .tooLarge

/-- A floating-point value. All undefined values with the name of their own are one value; any other
is told apart by its source. -/
def float (source : Nat) (text : Text) : Except Stop Scalar := do
  let (negative, rest) ← signed (ungrouped text).lower
  if rest == specialNames.2.points then return .float Decimal.nan
  let x ← if rest == specialNames.1.points then pure Decimal.infinity
    else if rest.contains colon then do
      let digits ← (splitOn colon rest).mapM floatOf
      sumSixtieths 1 0.0 digits.reverse
    else floatOf rest
  return if x.isNaN then .undefined source else .float (if negative then -x else x)

/-! ## Bytes and times -/

/-- Bytes, written in base 64. -/
def binary (text : Text) : Except Stop Scalar :=
  match (text.chars?.filter fun s => s.all fun c => c.toNat < 0x80).bind Text.decodeBase64? with
  | some bytes => .ok (.bytes bytes)
  | none => refuse .value

def number (digits : List Char) : Nat := Text.valueOf 10 (digits.filterMap Text.asciiDigit?)

/-- Splits off between `least` and `most` digits. -/
def digits? (least most : Nat) (s : List Char) : Option (Nat × List Char) :=
  let digits := (s.take most).takeWhile Char.isDigit
  if digits.length < least then none else some (number digits, s.drop digits.length)

def char? (c : Char) : List Char → Option (List Char)
  | d :: rest => if c == d then some rest else none
  | [] => none

/-- The text behind a separator of date and time: a letter, or blanks. -/
def behindDate? (s : List Char) : Option (List Char) :=
  let blank (c : Char) : Bool := c == ' ' || c == '\t'
  match s with
  | c :: rest =>
    if c == 'T' || c == 't' then some rest
    else if blank c then some (rest.dropWhile blank)
    else none
  | [] => none

/-- A fraction of a second in microseconds, of which only the first six digits count. -/
def fraction (s : List Char) : Nat × List Char :=
  match s with
  | '.' :: rest =>
    let digits := rest.takeWhile Char.isDigit
    let six := digits.take 6
    (number (six ++ List.replicate (6 - six.length) '0'), rest.drop digits.length)
  | s => (0, s)

/-- The offset of a zone in minutes, behind blanks. -/
def zone? (s : List Char) : Option (Option Int × List Char) :=
  match s.dropWhile fun c => c == ' ' || c == '\t' with
  | 'Z' :: rest => some (some 0, rest)
  | c :: rest =>
    if c == '+' || c == '-' then do
      let (hours, rest) ← digits? 1 2 rest
      let minutesRead := (char? ':' rest).bind (digits? 2 2)
      let (minutes, rest) := minutesRead.getD (0, rest)
      let offset : Int := hours * 60 + minutes
      return (some (if c == '-' then -offset else offset), rest)
    else none
  | [] => none

/-- What a text says about a time: a date, and possibly a time of day with a zone. -/
def timestamp? (s : List Char) : Option (Date × Option (Clock × Option Int)) := do
  let atEnd (s : List Char) : Bool := s.isEmpty || s == ['\n']
  let (year, s) ← digits? 4 4 s
  let (month, s) ← (char? '-' s).bind (digits? 1 2)
  let (day, s) ← (char? '-' s).bind (digits? 1 2)
  let date : Date := ⟨year, month, day⟩
  if atEnd s then return (date, none)
  let (hour, s) ← (behindDate? s).bind (digits? 1 2)
  let (minute, s) ← (char? ':' s).bind (digits? 2 2)
  let (second, s) ← (char? ':' s).bind (digits? 2 2)
  let (micro, s) := fraction s
  let clock : Clock := ⟨hour, minute, second, micro⟩
  match zone? s with
  | some (offset, rest) => if atEnd rest then return (date, some (clock, offset)) else none
  | none => if atEnd s then return (date, some (clock, none)) else none

def timestamp (text : Text) : Except Stop Scalar :=
  let checked {α : Type} (make : α → Scalar) : Except CalendarFault α → Except Stop Scalar
    | .ok a => .ok (make a)
    | .error fault => unsuited (.calendar fault)
  match text.chars?.bind timestamp? with
  | none => unsuited .notTimestamp
  | some (date, none) => checked Scalar.date date.check
  | some (date, some (clock, offset)) => checked Scalar.moment (Moment.mk date clock offset).check

end AngularLint.Yaml.ScalarValue
