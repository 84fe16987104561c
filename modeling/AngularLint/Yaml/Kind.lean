import AngularLint.Text.Basic

/-!
# Types of nodes

The types that a node may have, their full names, and the rules by which a plain scalar takes its
type from its text. Each rule is a small grammar; what they share is written once.
-/

set_option autoImplicit false

namespace AngularLint.Yaml

/-- A type. -/
inductive Kind where
  | null
  | bool
  | int
  | float
  | binary
  | timestamp
  | orderedMap
  | pairs
  | set
  | text
  | sequence
  | mapping
  /-- The key under which a mapping takes over the entries of others. -/
  | merge
  /-- The key under which a mapping that stands for a scalar has it. -/
  | value
  | unknown
deriving DecidableEq

namespace Kind

/-- The types by their names behind `tag:yaml.org,2002:`. -/
def byName : List (String × Kind) :=
  [("null", .null), ("bool", .bool), ("int", .int), ("float", .float), ("binary", .binary),
    ("timestamp", .timestamp), ("omap", .orderedMap), ("pairs", .pairs), ("set", .set),
    ("str", .text), ("seq", .sequence), ("map", .mapping), ("merge", .merge), ("value", .value)]

def nameStart : String := "tag:yaml.org,2002:"

def ofName (name : String) : Kind :=
  ((byName.find? fun e => nameStart ++ e.1 == name).map (·.2)).getD .unknown

/-! ## Patterns

A pattern maps what is left of a text to all that may be left behind a match. -/

abbrev Pattern := List Char → List (List Char)

namespace Pattern

def one (p : Char → Bool) : Pattern
  | c :: rest => if p c then [rest] else []
  | [] => []

def exact (text : String) : Pattern := fun s =>
  if s.take text.length == text.toList then [s.drop text.length] else []

/-- As many characters with the property as there are. -/
def run (p : Char → Bool) : Pattern := fun s => [s.dropWhile p]

def andThen (p q : Pattern) : Pattern := fun s => (p s).flatMap q

def or (p q : Pattern) : Pattern := fun s => p s ++ q s

def optional (p : Pattern) : Pattern := fun s => p s ++ [s]

/-- A pattern at least once, where every match takes at least one character. -/
def many (p : Pattern) : Nat → Pattern
  | 0 => fun _ => []
  | n + 1 => fun s => (p s).flatMap fun rest => rest :: many p n rest

def all (ps : List Pattern) : Pattern := ps.foldr andThen fun s => [s]

def any (ps : List Pattern) : Pattern := ps.foldr or fun _ => []

/-- Does the whole text match, a line feed at its end aside? -/
def accepts (p : Pattern) (s : List Char) : Bool :=
  (p s).any fun rest => rest.isEmpty || rest == ['\n']

end Pattern

open Pattern

def digit : Pattern := one Char.isDigit

def nonzero : Pattern := one fun c => c.isDigit && c != '0'

/-- Digits and underscores, or nothing. -/
def digits : Pattern := run fun c => c.isDigit || c == '_'

def sign : Pattern := optional (one fun c => c == '+' || c == '-')

/-- A colon and a number below sixty, at least once. -/
def sixtieths (n : Nat) : Pattern :=
  many (all [exact ":", optional (one fun c => '0' ≤ c && c ≤ '5'), digit]) n

def isSixteenth (c : Char) : Bool := c.isDigit || ('a' ≤ c && c ≤ 'f') || ('A' ≤ c && c ≤ 'F')

def some1 (p : Char → Bool) : Pattern := all [one p, run p]

/-- The words for truth values, in the cases in which they count. -/
def truthWords : List String :=
  ["yes", "Yes", "YES", "no", "No", "NO", "true", "True", "TRUE", "false", "False", "FALSE", "on",
    "On", "ON", "off", "Off", "OFF"]

def nullWords : List String := ["", "~", "null", "Null", "NULL"]

/-- An exponent of ten, with its sign. -/
def exponent : Pattern :=
  optional (all [one fun c => c == 'e' || c == 'E', one fun c => c == '+' || c == '-',
    some1 Char.isDigit])

/-- Floating-point values: with a point, in sixtieths with a point, infinite, or undefined. -/
def floatPattern (n : Nat) : Pattern :=
  any
    [all [sign, digit, digits, exact ".", digits, exponent],
      all [exact ".", digit, digits, exponent],
      all [sign, digit, digits, sixtieths n, exact ".", digits],
      all [sign, any [exact ".inf", exact ".Inf", exact ".INF"]],
      any [exact ".nan", exact ".NaN", exact ".NAN"]]

/-- Integers: in base two, eight, ten and sixteen, and in sixtieths. -/
def intPattern (n : Nat) : Pattern :=
  any
    [all [sign, exact "0b", some1 fun c => c == '0' || c == '1' || c == '_'],
      all [sign, exact "0", some1 fun c => ('0' ≤ c && c ≤ '7') || c == '_'],
      all [sign, any [exact "0", all [nonzero, digits]]],
      all [sign, exact "0x", some1 fun c => isSixteenth c || c == '_'],
      all [sign, nonzero, digits, sixtieths n]]

def upToTwo : Pattern := all [digit, optional digit]

/-- A date with a time, and possibly with a zone. -/
def momentPattern : Pattern :=
  all
    [digit, digit, digit, digit, exact "-", upToTwo, exact "-", upToTwo,
      any [one fun c => c == 'T' || c == 't', some1 fun c => c == ' ' || c == '\t'],
      upToTwo, exact ":", digit, digit, exact ":", digit, digit,
      optional (all [exact ".", run Char.isDigit]),
      optional (all [run fun c => c == ' ' || c == '\t',
        any [exact "Z",
          all [one fun c => c == '+' || c == '-', upToTwo,
            optional (all [exact ":", digit, digit])]]])]

def datePattern : Pattern :=
  all [digit, digit, digit, digit, exact "-", digit, digit, exact "-", digit, digit]

def oneOf (texts : List String) : Pattern := any (texts.map exact)

/-- The type that a plain scalar takes from its characters. The rules are tried in order. A line
feed alone is no empty text. -/
def ofChars (s : List Char) : Kind :=
  let n := s.length
  if (oneOf truthWords).accepts s then .bool
  else if (floatPattern n).accepts s then .float
  else if (intPattern n).accepts s then .int
  else if (exact "<<").accepts s then .merge
  else if (oneOf nullWords).accepts s && s != ['\n'] then .null
  else if datePattern.accepts s || momentPattern.accepts s then .timestamp
  else if (exact "=").accepts s then .value
  else if (oneOf ["!", "&", "*"]).accepts s then .unknown
  else .text

/-- The type that a plain scalar takes from its text. No rule is about anything but characters. -/
def ofText (text : Text) : Kind := (text.chars?.map ofChars).getD .text

end Kind

end AngularLint.Yaml
