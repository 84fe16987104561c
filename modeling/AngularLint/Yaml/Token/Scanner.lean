import AngularLint.Yaml.Token.Property

/-!
# From a text to tokens

The scanner goes through a text once and writes down its tokens. It keeps the indentations of the
blocks that are open and the number of brackets that are. A key of a mapping is known for one only
at the colon behind it; until then its place among the tokens is kept as a candidate, and the token
that marks a key is put there later. There is at most one candidate inside each bracket, it has to
be on the line of its colon, and it may not be longer than 1024 characters.
-/

set_option autoImplicit false

namespace AngularLint.Yaml

open Glyphs

/-- A place where a key may have begun. -/
structure KeyCandidate where
  /-- The number of brackets around it. -/
  level : Int
  /-- The number of tokens before it. -/
  tokens : Nat
  /-- Nothing but a key may stand there. -/
  required : Bool
  index : Nat
  line : Nat
  column : Nat

/-- Tokens that have been written down, the last first, and their number. -/
structure Written where
  newest : List Token
  size : Nat

namespace Written

def push (w : Written) (t : Token) : Written := ⟨t :: w.newest, w.size + 1⟩

/-- Writes down a token behind the first `place` ones. -/
def insert (w : Written) (place : Nat) (t : Token) : Written :=
  ⟨w.newest.insertIdx (w.size - place) t, w.size + 1⟩

def toList (w : Written) : List Token := w.newest.reverse

end Written

/-- Where the scanning of a text stands. -/
structure Scanner where
  rest : Glyphs
  tokens : Written
  /-- The number of open brackets. A bracket too many that closes counts as well. -/
  level : Int
  /-- The column of the innermost block; less than zero outside of all blocks. -/
  indent : Int
  /-- The columns of the blocks around it. -/
  outer : List Int
  /-- May a key begin here? -/
  keyAllowed : Bool
  candidates : List KeyCandidate
  finished : Bool

namespace Scanner

def start (text : Series Char) : Scanner :=
  ⟨.ofText text, ⟨[], 0⟩, 0, -1, [], true, [], false⟩

def inBlock (s : Scanner) : Bool := s.level == 0

def push (t : Token) (s : Scanner) : Scanner := { s with tokens := s.tokens.push t }

/-- Goes on behind `n` characters. -/
def advance (n : Nat) (s : Scanner) : Scanner := { s with rest := s.rest.drop n }

def allowKey (allowed : Bool) (s : Scanner) : Scanner := { s with keyAllowed := allowed }

/-! ## Blocks -/

/-- Closes the blocks that are indented further than the column. -/
def closeBlocks (column : Int) (tokens : Written) (indent : Int) :
    List Int → Written × Int × List Int
  | [] => (tokens, indent, [])
  | o :: outer =>
    if column < indent then closeBlocks column (tokens.push .blockEnd) o outer
    else (tokens, indent, o :: outer)

/-- Closes the blocks that the next token, in the column, cannot belong to. Inside brackets
indentation means nothing. -/
def unwind (column : Int) (s : Scanner) : Scanner :=
  if s.inBlock then
    let (tokens, indent, outer) := closeBlocks column s.tokens s.indent s.outer
    { s with tokens, indent, outer }
  else s

/-- Opens a block in a column that is further in than the innermost block; the token that begins it
goes before the tokens from `place` on. -/
def openBlock (column : Int) (place : Nat) (t : Token) (s : Scanner) : Scanner :=
  if s.indent < column then
    { s with
      tokens := s.tokens.insert place t
      indent := column
      outer := s.indent :: s.outer }
  else s

/-! ## Candidates for keys -/

/-- Can the colon of a key that begins at the candidate still come? -/
def isFresh (s : Scanner) (k : KeyCandidate) : Bool :=
  k.line == line s.rest && index s.rest - k.index ≤ 1024

/-- Drops candidates. One that has to be a key may not be dropped. -/
def dropCandidates (drop : KeyCandidate → Bool) (s : Scanner) : Except Obstacle Scanner := do
  require !(s.candidates.any fun k => drop k && k.required)
  return { s with candidates := s.candidates.filter fun k => !drop k }

/-- Drops the candidates whose colon can no longer come. -/
def dropStale (s : Scanner) : Except Obstacle Scanner := s.dropCandidates fun k => !s.isFresh k

/-- Drops the candidate inside the innermost bracket. -/
def dropCurrent (s : Scanner) : Except Obstacle Scanner :=
  s.dropCandidates fun k => k.level == s.level

/-- Makes the next token a candidate, if a key may begin there. -/
def saveCandidate (s : Scanner) : Except Obstacle Scanner := do
  if !s.keyAllowed then return s
  let column := column s.rest
  let candidate : KeyCandidate :=
    ⟨s.level, s.tokens.size, s.inBlock && s.indent == column, index s.rest, line s.rest, column⟩
  let s ← s.dropCurrent
  return { s with candidates := candidate :: s.candidates }

/-! ## Tokens -/

/-- Skips blanks, comments and line ends. Outside brackets a key may begin on a new line. -/
def skipGap (s : Scanner) : Except Obstacle Scanner := do
  let rest := if index s.rest == 0 && peek s.rest == byteOrderMark then s.rest.drop 1 else s.rest
  let (allowed, rest) ← repeatScan (fun allowed rest =>
    let rest := skip (· == ' ') rest
    let rest := if peek rest == '#' then skip (fun c => !isBreakOrEnd c) rest else rest
    match lineBreak? rest with
    | some (_, rest) => .ok (allowed || s.inBlock, true, rest)
    | none => .ok (allowed, false, rest)) s.keyAllowed rest
  return { s with rest, keyAllowed := allowed }

def fetchEnd (s : Scanner) : Except Obstacle Scanner := do
  let s ← (s.unwind (-1)).dropCurrent
  return { s.push .streamEnd with keyAllowed := false, candidates := [], finished := true }

def fetchDirective (s : Scanner) : Except Obstacle Scanner := do
  let s ← (s.unwind (-1)).dropCurrent
  let (directive, rest) ← Property.directive s.rest
  return { s.push (.directive directive) with rest, keyAllowed := false }

def fetchRule (t : Token) (s : Scanner) : Except Obstacle Scanner := do
  let s ← (s.unwind (-1)).dropCurrent
  return ((s.push t).allowKey false).advance 3

def fetchOpening (t : Token) (s : Scanner) : Except Obstacle Scanner := do
  let s ← s.saveCandidate
  return (({ s with level := s.level + 1 }.push t).allowKey true).advance 1

def fetchClosing (t : Token) (s : Scanner) : Except Obstacle Scanner := do
  let s ← s.dropCurrent
  return (({ s with level := s.level - 1 }.push t).allowKey false).advance 1

def fetchComma (s : Scanner) : Except Obstacle Scanner := do
  let s ← s.dropCurrent
  return ((s.push .flowEntry).allowKey true).advance 1

def fetchEntry (s : Scanner) : Except Obstacle Scanner := do
  require (!s.inBlock || s.keyAllowed)
  let s := if s.inBlock then s.openBlock (column s.rest) s.tokens.size .blockSequenceStart else s
  let s ← s.dropCurrent
  return ((s.push .blockEntry).allowKey true).advance 1

def fetchKey (s : Scanner) : Except Obstacle Scanner := do
  require (!s.inBlock || s.keyAllowed)
  let s := if s.inBlock then s.openBlock (column s.rest) s.tokens.size .blockMappingStart else s
  let s ← s.dropCurrent
  return ((s.push .key).allowKey s.inBlock).advance 1

/-- Makes a candidate the key that it is, at its colon. -/
def confirmKey (k : KeyCandidate) (s : Scanner) : Scanner :=
  let s := { s with
    candidates := s.candidates.filter fun c => c.level != s.level
    tokens := s.tokens.insert k.tokens .key }
  let s := if s.inBlock then s.openBlock k.column k.tokens .blockMappingStart else s
  s.allowKey false

def fetchValue (s : Scanner) : Except Obstacle Scanner := do
  let s ← match s.candidates.find? fun k => k.level == s.level with
    | some k => pure (s.confirmKey k)
    | none => do
      require (!s.inBlock || s.keyAllowed)
      let s :=
        if s.inBlock then s.openBlock (column s.rest) s.tokens.size .blockMappingStart else s
      (s.allowKey s.inBlock).dropCurrent
  return (s.push .value).advance 1

/-- Reads a part of a node that a key may begin with. -/
def fetchPart (read : Glyphs → Except Obstacle (Scan Token)) (s : Scanner) :
    Except Obstacle Scanner := do
  let s ← s.saveCandidate
  let (token, rest) ← read s.rest
  return { s.push token with rest, keyAllowed := false }

/-- Reads the name of an anchor, behind its mark. -/
def readName (token : String → Token) (s : Glyphs) : Except Obstacle (Scan Token) := do
  let (name, rest) ← Property.anchorName (s.drop 1)
  return (token name, rest)

def readQuoted (s : Glyphs) : Except Obstacle (Scan Token) := do
  let (text, rest) ← Scalar.quoted s
  return (.scalar false text, rest)

def fetchBlockScalar (s : Scanner) : Except Obstacle Scanner := do
  let s ← s.dropCurrent
  let (text, rest) ← Scalar.block s.indent s.rest
  return { s.push (.scalar false text) with rest, keyAllowed := true }

/-- Reads a plain scalar. A key may begin behind it if it is the last on its line. -/
def fetchPlain (s : Scanner) : Except Obstacle Scanner := do
  let s ← s.saveCandidate
  let ((text, broken), rest) ← Scalar.plain (!s.inBlock) (s.indent + 1) s.rest
  return { s.push (.scalar true text) with rest, keyAllowed := broken }

def indicators : List Char :=
  ['-', '?', ':', ',', '[', ']', '{', '}', '#', '&', '*', '!', '|', '>', '\x27', '"', '%', '@',
    Char.ofNat 0x60]

/-- Does a line with three of the next character separate documents here? -/
def beginsRule (c : Char) (s : Glyphs) : Except Obstacle Bool :=
  if column s == 0 && peek s == c then isRule c s else .ok false

/-- Is the next character the mark of an entry, a key or a value? The mark of an entry needs a blank
behind it; outside of brackets, so do the others. -/
def isMark (inBlock : Bool) (s : Glyphs) : Except Obstacle Bool := do
  let c := peek s
  if c == '-' || (inBlock && (c == '?' || c == ':')) then return isBlankOrEnd (← next (s.drop 1))
  else return c == '?' || c == ':'

def beginsPlain (inBlock : Bool) (s : Glyphs) : Except Obstacle Bool := do
  let c := peek s
  if !isBlankOrEnd c && !indicators.contains c then return true
  else
    let mayBegin := c == '-' || (inBlock && (c == '?' || c == ':'))
    return !isBlankOrEnd (← next (s.drop 1)) && mayBegin

def fetchHere (s : Scanner) : Except Obstacle Scanner := do
  let c ← next s.rest
  if c == endMark then s.fetchEnd
  else if c == '%' && column s.rest == 0 then s.fetchDirective
  else if ← beginsRule '-' s.rest then s.fetchRule .documentStart
  else if ← beginsRule '.' s.rest then s.fetchRule .documentEnd
  else if c == '[' then s.fetchOpening .flowSequenceStart
  else if c == '{' then s.fetchOpening .flowMappingStart
  else if c == ']' then s.fetchClosing .flowSequenceEnd
  else if c == '}' then s.fetchClosing .flowMappingEnd
  else if c == ',' then s.fetchComma
  else if ← isMark s.inBlock s.rest then
    if c == '-' then s.fetchEntry else if c == '?' then s.fetchKey else s.fetchValue
  else if c == '*' then s.fetchPart (readName .reference)
  else if c == '&' then s.fetchPart (readName .anchor)
  else if c == '!' then s.fetchPart Property.type
  else if (c == '|' || c == '>') && s.inBlock then s.fetchBlockScalar
  else if c == '\x27' || c == '"' then s.fetchPart readQuoted
  else if ← beginsPlain s.inBlock s.rest then s.fetchPlain
  else reject

/-- Reads the next token, and looks at the character behind it. -/
def fetch (s : Scanner) : Except Obstacle Scanner := do
  let s ← s.dropStale
  let s ← s.skipGap
  let _ ← next s.rest
  let s ← s.dropStale
  let s ← (s.unwind (column s.rest)).fetchHere
  let _ ← next s.rest
  return s

/-- The tokens whose places are certain: those before the first candidate whose colon can still
come, as the mark of a key may have to go before all others. -/
def settled (s : Scanner) : List Token :=
  let places := (s.candidates.filter s.isFresh).map (·.tokens)
  s.tokens.toList.take (places.foldl min s.tokens.size)

/-- Reads tokens up to the end of the text, or up to where it is cut off for the given reason. Where
something stops the reading, only the settled tokens have been given. -/
def run (cut : Stop) (s : Scanner) : Series Token :=
  if s.finished then ⟨s.tokens.toList, none⟩
  else match s.fetch with
    | .error .cut => ⟨s.settled, some cut⟩
    | .error (.stop stop) => ⟨s.settled, some stop⟩
    | .ok after =>
      if after.finished then ⟨after.tokens.toList, none⟩
      else if _h : after.rest.left < s.rest.left then after.run cut
      else ⟨after.tokens.toList, some (.fault .token)⟩
termination_by s.rest.left

end Scanner

def Token.ofText (text : Series Char) : Series Token :=
  (Scanner.start text).run (text.stop.getD (.fault .token))

end AngularLint.Yaml
