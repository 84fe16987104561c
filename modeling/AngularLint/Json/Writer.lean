import AngularLint.Json.Basic
import AngularLint.Text.Integer

/-!
# Writing JSON

Every item and entry stands on a line of its own, indented by two blanks for each container around
it; an empty container stands on one line. Texts are written in ASCII, with characters beyond it as
code escapes of their 16-bit units. What has an integer without a numeral in it cannot be written
(`isWritable`).
-/

set_option autoImplicit false

namespace AngularLint.Json

def unitEscape (n : Nat) : List Char := '\\' :: 'u' :: Text.hex 4 n

def writeChar (c : Char) : List Char :=
  let n := c.toNat
  if c == '"' then ['\\', '"']
  else if c == '\\' then ['\\', '\\']
  else if c == '\n' then ['\\', 'n']
  else if c == '\r' then ['\\', 'r']
  else if c == '\t' then ['\\', 't']
  else if n == 8 then ['\\', 'b']
  else if n == 12 then ['\\', 'f']
  else if 0x20 ≤ n ∧ n < 0x7F then [c]
  else if n < 0x10000 then unitEscape n
  else unitEscape (0xD800 + (n - 0x10000) / 0x400) ++ unitEscape (0xDC00 + (n - 0x10000) % 0x400)

def writePoint : CodePoint → List Char
  | .char c => writeChar c
  | .half offset => unitEscape (CodePoint.half offset).toNat

def writeText (t : Text) : String :=
  String.ofList ('"' :: t.points.flatMap writePoint ++ ['"'])

def writtenSpecials : Decimal.Specials := ⟨"NaN", "Infinity"⟩

/-- The start of a line inside `level` containers. -/
def lineStart (level : Nat) : String := "\n" ++ String.ofList (List.replicate (2 * level) ' ')

def writeLines (level : Nat) (opening closing : String) (lines : List String) : String :=
  if lines.isEmpty then opening ++ closing
  else
    opening ++ lineStart (level + 1) ++ String.intercalate ("," ++ lineStart (level + 1)) lines ++
      lineStart level ++ closing

mutual

/-- A value inside `level` containers. -/
def writeAt (level : Nat) : Json → String
  | null => "null"
  | bool b => if b then "true" else "false"
  | int n => toString n
  | float x => Decimal.render writtenSpecials x
  | str s => writeText s
  | arr items => writeLines level "[" "]" (writeItems (level + 1) items)
  | obj entries => writeLines level "\x7b" "\x7d" (writeEntries (level + 1) entries)

def writeItems (level : Nat) : List Json → List String
  | [] => []
  | v :: rest => writeAt level v :: writeItems level rest

def writeEntries (level : Nat) : List (Text × Json) → List String
  | [] => []
  | (k, v) :: rest => (writeText k ++ ": " ++ writeAt level v) :: writeEntries level rest

end

def write (value : Json) : String := writeAt 0 value

mutual

/-- Has every integer in the value a numeral? -/
def isWritable : Json → Bool
  | int n => (Text.writeInteger n).isOk
  | arr items => areWritable items
  | obj entries => entriesAreWritable entries
  | _ => true

def areWritable : List Json → Bool
  | [] => true
  | v :: rest => isWritable v && areWritable rest

def entriesAreWritable : List (Text × Json) → Bool
  | [] => true
  | (_, v) :: rest => isWritable v && entriesAreWritable rest

end

end AngularLint.Json
