import AngularLint.Text.Integer
import AngularLint.Yaml.Token
import AngularLint.Yaml.Token.Scalar

/-!
# Anchors, types and directives in a text

The names that nodes carry besides their content, and the lines that say how documents are to be
read.
-/

set_option autoImplicit false

namespace AngularLint.Yaml.Property

open Glyphs

/-- The characters that may follow the name of an anchor, besides a blank and the end. -/
def anchorFollowers : List Char := ['?', ':', ',', ']', '}', '%', '@', Char.ofNat 0x60]

/-- The name of an anchor or of a reference to one, behind its mark. -/
def anchorName (s : Glyphs) : Except Obstacle (Scan String) := do
  let (name, rest) := span isNameChar s
  let after ← next rest
  require !name.isEmpty
  require (isBlankOrEnd after || anchorFollowers.contains after)
  return (String.ofList name, rest)

/-! ## Types -/

/-- The handle of a type: a name between exclamation marks, or a single one. -/
def handle (s : Glyphs) : Except Obstacle (Scan String) := do
  require ((← next s) == '!')
  if (← next (s.drop 1)) == ' ' then return ("!", s.drop 1)
  let (name, rest) := span isNameChar (s.drop 1)
  require ((← next rest) == '!')
  return (String.ofList ('!' :: name ++ ['!']), rest.drop 1)

/-- The characters besides letters and digits that a type may be written with; a percent sign is one
of them and begins an escape. -/
def typeChars : List Char :=
  ['-', ';', '/', '?', ':', '@', '&', '=', '+', '$', ',', '_', '.', '!', '~', '*', '\x27', '(',
    ')', '[', ']', '%']

/-- May the character stand in a type, and is it no escape? -/
def isTypeChar (c : Char) : Bool := c != '%' && (c.isAlphanum || typeChars.contains c)

def escapedBytes (s : Glyphs) : Except Obstacle (Scan (List UInt8)) := do
  let (bytes, rest) ← repeatScan (fun bytes s => do
    if (← next s) != '%' then return (bytes, false, s)
    let (n, rest) ← Scalar.code 2 (s.drop 1)
    return (UInt8.ofNat n :: bytes, true, rest)) [] s
  return (bytes.reverse, rest)

/-- The text of a type, in which escapes stand for the bytes of characters. -/
def typeText (s : Glyphs) : Except Obstacle (Scan String) := do
  let (pieces, rest) ← repeatScan (fun pieces s => do
    let (chars, rest) := span isTypeChar s
    if !chars.isEmpty then return (chars :: pieces, true, rest)
    if (← next s) != '%' then return (pieces, false, s)
    let (bytes, rest) ← escapedBytes s
    match Text.decodeWhole bytes with
    | .ok chars => return (chars :: pieces, true, rest)
    | .error _ => reject) [] s
  require !pieces.isEmpty
  return (String.ofList pieces.reverse.flatten, rest)

/-- Is there an exclamation mark before the next space or line end? -/
def hasSecondMark (s : Glyphs) : Except Obstacle Bool := do
  return (← next (skip (fun c => !isSpaceOrEnd c && c != '!') s)) == '!'

/-- A type, from its mark on. -/
def type (s : Glyphs) : Except Obstacle (Scan Token) := do
  let c ← next (s.drop 1)
  let (token, rest) ←
    if c == '<' then do
      let (text, rest) ← typeText (s.drop 2)
      require ((← next rest) == '>')
      pure (Token.type none text, rest.drop 1)
    else if isBlankOrEnd c then pure (Token.type none "!", s.drop 1)
    else if ← hasSecondMark (s.drop 1) then do
      let (handle, rest) ← handle s
      let (text, rest) ← typeText rest
      pure (Token.type (some handle) text, rest)
    else do
      let (text, rest) ← typeText (s.drop 1)
      pure (Token.type (some "!") text, rest)
  require (isSpaceOrEnd (← next rest))
  return (token, rest)

/-! ## Directives -/

def number (s : Glyphs) : Except Obstacle (Scan Int) := do
  let (digits, rest) := span Char.isDigit s
  let _ ← next rest
  require !digits.isEmpty
  match Text.readInteger 10 (String.ofList digits) with
  | .ok n => return (n, rest)
  | .error fault => abandon (.integer fault)

def version (s : Glyphs) : Except Obstacle (Scan Directive) := do
  let (major, rest) ← number (skip (· == ' ') s)
  require ((← next rest) == '.')
  let (minor, rest) ← number (rest.drop 1)
  require (isSpaceOrEnd (← next rest))
  return (.version major minor, rest)

def handleMeaning (s : Glyphs) : Except Obstacle (Scan Directive) := do
  let (name, rest) ← handle (skip (· == ' ') s)
  require ((← next rest) == ' ')
  let (text, rest) ← typeText (skip (· == ' ') rest)
  require (isSpaceOrEnd (← next rest))
  return (.handle name text, rest)

/-- A directive, from its mark on, with the line that it stands on. -/
def directive (s : Glyphs) : Except Obstacle (Scan Directive) := do
  let (name, rest) := span isNameChar (s.drop 1)
  let after ← next rest
  require !name.isEmpty
  require (isSpaceOrEnd after)
  let (directive, rest) ← match String.ofList name with
    | "YAML" => version rest
    | "TAG" => handleMeaning rest
    | _ => pure (.unknown, skip (fun c => !isBreakOrEnd c) rest)
  return (directive, ← Scalar.ignoredLine rest)

end AngularLint.Yaml.Property
