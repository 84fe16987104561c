import AngularLint.Text.Basic
import AngularLint.Text.Digit
import AngularLint.Yaml.Glyph

/-!
# Scalars in a text

The three ways to write a text: plain, in quotes, and as a block of lines. In all of them the ends
of lines are folded, each by its own rules; what a single line feed becomes a space by, two of them
become one line feed by.
-/

set_option autoImplicit false

namespace AngularLint.Yaml.Scalar

open Glyphs

/-- What the end of a line and the empty lines behind it become in a folded text: a space for a
single line feed; else what they are, without the first line feed. -/
def folded (first : Char) (breaks : List Char) : List Char :=
  if first != '\n' then first :: breaks
  else if breaks.isEmpty then [' ']
  else breaks

/-! ## Plain scalars -/

/-- The characters that have a meaning of their own inside brackets. -/
def isFlowChar (c : Char) : Bool := c == ',' || c == '[' || c == ']' || c == '{' || c == '}'

/-- Does a plain scalar end before the character, given the one behind it? Without that one the
scalar goes on, into the cut. -/
def endsPlain (inFlow : Bool) (c : Char) (next : Option Char) : Bool :=
  let separates (next : Char) : Bool := isBlankOrEnd next || (inFlow && isFlowChar next)
  isBlankOrEnd c || (c == ':' && next.any separates) || (inFlow && (isFlowChar c || c == '?'))

/-- The characters of a plain scalar up to the next blank. -/
def plainWord (inFlow : Bool) : Glyphs → List Char × Glyphs
  | [] => ([], [])
  | g :: rest =>
    if endsPlain inFlow g.char (rest.head?.map (·.char)) then ([], g :: rest)
    else
      let (word, rest) := plainWord inFlow rest
      (g.char :: word, rest)

/-- The empty lines inside a plain scalar, and whether a line that separates documents follows. -/
def plainBreaks : Glyphs → Except Obstacle (List Char × Bool × Glyphs)
  | [] => .ok ([], false, [])
  | g :: rest =>
    if g.char == ' ' then plainBreaks rest
    else match lineBreak? [g] with
      | none => .ok ([], false, g :: rest)
      | some (c, _) => do
        if ← isDocumentRule rest then return ([c], true, rest)
        else
          let (breaks, ruled, rest) ← plainBreaks rest
          return (c :: breaks, ruled, rest)

/-- What stands between two words of a plain scalar. -/
structure PlainGap where
  text : List Char
  /-- Is there the end of a line in it? -/
  broken : Bool

/-- The gap behind a word. It has no text where the scalar cannot go on behind it. -/
def plainGap (s : Glyphs) : Except Obstacle (Scan PlainGap) := do
  let (spaces, rest) := span (· == ' ') s
  match lineBreak? rest with
  | none => return (⟨spaces, false⟩, rest)
  | some (first, rest) =>
    if ← isDocumentRule rest then return (⟨[], true⟩, rest)
    else
      let (breaks, ruled, rest) ← plainBreaks rest
      return (⟨if ruled then [] else folded first breaks, true⟩, rest)

/-- A plain scalar that is being read: its text in pieces, the last first; the gap behind it. -/
structure PlainPart where
  pieces : List (List Char)
  gap : PlainGap

/-- One word of a plain scalar, with the gap behind it. Behind the first word, a word on a line of
its own has to be indented by at least `indent`. -/
def plainStep (inFlow : Bool) (indent : Int) (part : PlainPart) (s : Glyphs) :
    Except Obstacle (PlainPart × Bool × Glyphs) := do
  if peek s == '#' then return (part, false, s)
  let (word, rest) := plainWord inFlow s
  if word.isEmpty then return (part, false, s)
  let (gap, rest) ← plainGap rest
  let ends := gap.text.isEmpty || peek rest == '#' || (!inFlow && (column rest : Int) < indent)
  return (⟨word :: part.gap.text :: part.pieces, gap⟩, !ends, rest)

/-- A plain scalar, and whether the end of a line was read behind it. -/
def plain (inFlow : Bool) (indent : Int) (s : Glyphs) : Except Obstacle (Scan (Text × Bool)) := do
  let (part, rest) ← repeatScan (plainStep inFlow indent) ⟨[], ⟨[], false⟩⟩ s
  return ((.ofChars part.pieces.reverse.flatten, part.gap.broken), rest)

/-! ## Quoted scalars -/

/-- The characters that a backslash and one character stand for, by code point. -/
def escapes : List (Char × Nat) :=
  [('0', 0x00), ('a', 0x07), ('b', 0x08), ('t', 0x09), ('\t', 0x09), ('n', 0x0A), ('v', 0x0B),
    ('f', 0x0C), ('r', 0x0D), ('e', 0x1B), (' ', 0x20), ('"', 0x22), ('\\', 0x5C), ('/', 0x2F),
    ('N', 0x85), ('_', 0xA0), ('L', 0x2028), ('P', 0x2029)]

/-- The number of digits behind a backslash and a letter. -/
def codeWidths : List (Char × Nat) := [('x', 2), ('u', 4), ('U', 8)]

/-- A number of exactly `width` sixteenth digits. -/
def code (width : Nat) (s : Glyphs) : Except Obstacle (Scan Nat) := do
  let known := s.take width
  let digits := known.filterMap fun g => Text.hexDigit? g.char
  require (digits.length == known.length)
  if digits.length < width then .error .cut
  return (Text.valueOf 16 digits, s.drop width)

def pointOfCode (n : Nat) : Except Obstacle CodePoint :=
  match CodePoint.ofNat? n with
  | some c => .ok c
  | none => abandon (.noCharacter n)

/-- The empty lines inside a quoted scalar, with the blanks that begin each line dropped. A line
that separates documents may not start there. -/
def quotedBreaks (s : Glyphs) : Except Obstacle (Scan (List Char)) := do
  let (breaks, rest) ← repeatScan (fun breaks s => do
    require !(← isDocumentRule s)
    let rest := skip (fun c => c == ' ' || c == '\t') s
    match lineBreak? rest with
    | some (c, rest) => return (c :: breaks, true, rest)
    | none => return (breaks, false, rest)) [] s
  return (breaks.reverse, rest)

/-- An escape, behind its backslash: the text that it stands for. -/
def escape (s : Glyphs) : Except Obstacle (Scan Text) := do
  let c ← next s
  match escapes.lookup c, codeWidths.lookup c with
  | some n, _ => return (.ofChars [Char.ofNat n], s.drop 1)
  | none, some width =>
    let (n, rest) ← code width (s.drop 1)
    return (⟨[← pointOfCode n]⟩, rest)
  | none, none =>
    match lineBreak? s with
    | some (_, rest) =>
      let (breaks, rest) ← quotedBreaks rest
      return (.ofChars breaks, rest)
    | none => reject

/-- The blanks inside a quoted scalar, and the ends of lines among them. -/
def quotedGap (s : Glyphs) : Except Obstacle (Scan (List Char)) := do
  let (blanks, rest) := span (fun c => c == ' ' || c == '\t') s
  match lineBreak? rest with
  | some (first, rest) =>
    let (breaks, rest) ← quotedBreaks rest
    return (folded first breaks, rest)
  | none =>
    require ((← next rest) != endMark)
    return (blanks, rest)

/-- May the character stand for itself in any quoted scalar? -/
def isQuotedChar (c : Char) : Bool := c != '\x27' && c != '"' && c != '\\' && !isBlankOrEnd c

/-- One part of a quoted scalar: characters that stand for themselves, an escape, or a gap. -/
def quotedStep (quote : Char) (pieces : List Text) (s : Glyphs) :
    Except Obstacle (List Text × Bool × Glyphs) := do
  let double := quote == '"'
  let (chars, rest) := span isQuotedChar s
  if !chars.isEmpty then return (.ofChars chars :: pieces, true, rest)
  let c ← next s
  if c == quote then
    if !double && (← next (s.drop 1)) == quote then
      return (.ofChars [c] :: pieces, true, s.drop 2)
    else return (pieces, false, s)
  else if double && c == '\\' then
    let (text, rest) ← escape (s.drop 1)
    return (text :: pieces, true, rest)
  else if c == '\x27' || c == '"' || c == '\\' then
    return (.ofChars [c] :: pieces, true, s.drop 1)
  else
    let (chars, rest) ← quotedGap s
    return (.ofChars chars :: pieces, true, rest)

/-- A quoted scalar, from its quote on. -/
def quoted (s : Glyphs) : Except Obstacle (Scan Text) := do
  let (pieces, rest) ← repeatScan (quotedStep (peek s)) [] (s.drop 1)
  return (Text.join pieces.reverse, rest.drop 1)

/-! ## Blocks of lines -/

/-- What becomes of the ends of lines at the end of a block. -/
inductive Chomping where
  | strip
  | clip
  | keep
deriving DecidableEq

def chomping? (c : Char) : Option Chomping :=
  if c == '+' then some .keep else if c == '-' then some .strip else none

/-- The indentation of a block that a character gives, if it is a digit; zero is refused. -/
def increment? (c : Char) : Except Obstacle (Option Nat) :=
  match Text.asciiDigit? c with
  | some d =>
    if d == 0 then reject
    else if d < 10 then .ok (some d)
    else .ok none
  | none => .ok none

/-- The marks at the head of a block, in either order. -/
def header (s : Glyphs) : Except Obstacle (Scan (Chomping × Option Nat)) := do
  let c ← next s
  let read ← match chomping? c with
    | some chomping => do
      let increment ← increment? (← next (s.drop 1))
      pure ((chomping, increment), s.drop (if increment.isSome then 2 else 1))
    | none => do
      match ← increment? c with
      | some n =>
        match chomping? (← next (s.drop 1)) with
        | some chomping => pure ((chomping, some n), s.drop 2)
        | none => pure ((.clip, some n), s.drop 1)
      | none => pure ((.clip, none), s)
  require (isSpaceOrEnd (← next read.2))
  return read

/-- The rest of a line that may hold a comment and nothing else. -/
def ignoredLine (s : Glyphs) : Except Obstacle Glyphs := do
  let rest := skip (· == ' ') s
  let rest := if peek rest == '#' then skip (fun c => !isBreakOrEnd c) rest else rest
  require (isBreakOrEnd (← next rest))
  return skipBreak rest

/-- The empty lines at the start of a block, and the furthest column that spaces lead to in them or
in the line behind them. -/
def leadingBreaks (furthest : Nat) : Glyphs → List Char × Nat × Glyphs
  | [] => ([], furthest, [])
  | g :: rest =>
    if g.char == ' ' then leadingBreaks (max furthest (column rest)) rest
    else match lineBreak? [g] with
      | none => ([], furthest, g :: rest)
      | some (c, _) =>
        let (breaks, furthest, rest) := leadingBreaks furthest rest
        (c :: breaks, furthest, rest)

/-- The empty lines inside a block; of the spaces that begin a line, those up to the indentation are
dropped. -/
def blockBreaks (indent : Nat) : Glyphs → List Char × Glyphs
  | [] => ([], [])
  | g :: rest =>
    if g.char == ' ' && g.column < indent then blockBreaks indent rest
    else match lineBreak? [g] with
      | none => ([], g :: rest)
      | some (c, _) =>
        let (breaks, rest) := blockBreaks indent rest
        (c :: breaks, rest)

/-- A block that is being read: its text in pieces, the last first; the end of its last line, and
the empty lines behind that. -/
structure BlockPart where
  pieces : List (List Char)
  lineEnd : List Char
  breaks : List Char

def isBlockLine (indent : Nat) (s : Glyphs) : Bool := column s == indent && peek s != endMark

/-- What joins two lines of a block. Lines that begin with a blank are not folded. -/
def joint (fold : Bool) (lineEnd breaks : List Char) (before after : Char) : List Char :=
  let blank (c : Char) : Bool := c == ' ' || c == '\t'
  if fold && lineEnd == ['\n'] && !blank before && !blank after then
    (if breaks.isEmpty then [' '] else [])
  else lineEnd

/-- One line of a block, and the empty lines behind it. -/
def blockStep (fold : Bool) (indent : Nat) (part : BlockPart) (s : Glyphs) :
    Except Obstacle (BlockPart × Bool × Glyphs) :=
  if !isBlockLine indent s then .ok (part, false, s)
  else
    let (chars, rest) := span (fun c => !isBreakOrEnd c) s
    let lineEnd := ((lineBreak? rest).map (·.1)).toList
    let (breaks, rest) := blockBreaks indent (skipBreak rest)
    let pieces := chars :: part.breaks :: part.pieces
    if isBlockLine indent rest then
      .ok (⟨joint fold lineEnd breaks (peek s) (peek rest) :: pieces, lineEnd, breaks⟩, true, rest)
    else .ok (⟨pieces, lineEnd, breaks⟩, false, rest)

/-- A block, from its mark on, inside a block with the given indentation. -/
def block (outer : Int) (s : Glyphs) : Except Obstacle (Scan Text) := do
  let fold := peek s == '>'
  let ((chomping, increment), rest) ← header (s.drop 1)
  let rest ← ignoredLine rest
  let least := (max (outer + 1) 1).toNat
  let (indent, breaks, rest) := match increment with
    | some n =>
      let indent := least + n - 1
      let (breaks, rest) := blockBreaks indent rest
      (indent, breaks, rest)
    | none =>
      let (breaks, furthest, rest) := leadingBreaks 0 rest
      (max least furthest, breaks, rest)
  let (part, rest) ← repeatScan (blockStep fold indent) ⟨[], [], breaks⟩ rest
  let text := part.pieces.reverse.flatten ++
    (if chomping == .strip then [] else part.lineEnd) ++
    (if chomping == .keep then part.breaks else [])
  return (.ofChars text, rest)

end AngularLint.Yaml.Scalar
