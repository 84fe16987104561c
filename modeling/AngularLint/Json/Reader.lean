import AngularLint.Decimal.Reading
import AngularLint.Json.Basic
import AngularLint.Json.Fault

/-!
# Reading JSON

The reader goes through the text once, with the containers that stand open on a stack of its own.
`Place.step` says what each place of a text may hold. Its scanners return what they have not read,
which is shorter than what they were given; that is the measure by which the reader ends.

Beside the grammar, the names of infinity and of the undefined value are read as numbers.
-/

set_option autoImplicit false

namespace AngularLint.Json

open AngularLint.Text

/-- The characters that may stand between the parts of a text. -/
def isGap (c : Char) : Bool := c == ' ' || c == '\t' || c == '\n' || c == '\r'

def skipGap (s : List Char) : List Char := s.dropWhile isGap

theorem length_skipGap_le (s : List Char) : (skipGap s).length ≤ s.length :=
  (List.dropWhile_suffix _).length_le

/-! ## Strings -/

/-- Where the scanner of a string stands. -/
inductive StringState where
  | text
  /-- Behind a backslash. -/
  | escape
  /-- Inside a code escape: its value so far, and the digits still to come. -/
  | code (value missing : Nat)

/-- A fault inside a string; the number counts the characters from its place to the end. -/
inductive StringFault where
  | unterminated
  | malformed (cause : Cause) (remaining : Nat)

/-- The code points before the current one, where a first half of a pair waits for its second. A
half that waits in vain stands alone. -/
def settle (high : Option CodePoint) (done : List CodePoint) : List CodePoint := high.toList ++ done

def isHighHalf (n : Nat) : Bool := 0xD800 ≤ n && n < 0xDC00

def isLowHalf (n : Nat) : Bool := 0xDC00 ≤ n && n < 0xE000

def joinHalves (high low : Nat) : Char :=
  Char.ofNat (0x10000 + (high - 0xD800) * 0x400 + (low - 0xDC00))

/-- Takes a finished code escape: the code points done, and the first half that now waits. -/
def takeCode (high : Option CodePoint) (n : Nat) (done : List CodePoint) :
    List CodePoint × Option CodePoint :=
  match high, isLowHalf n with
  | some h, true => (.char (joinHalves h.toNat n) :: done, none)
  | _, _ =>
    if isHighHalf n then (settle high done, CodePoint.ofNat? n)
    else ((CodePoint.ofNat? n).toList ++ settle high done, none)

/-- The character that a letter behind a backslash stands for. -/
def simpleEscape? : Char → Option Char
  | '"' => some '"'
  | '\\' => some '\\'
  | '/' => some '/'
  | 'b' => some (Char.ofNat 8)
  | 'f' => some (Char.ofNat 12)
  | 'n' => some '\n'
  | 'r' => some '\r'
  | 't' => some '\t'
  | _ => none

/-- Scans a string behind its opening quote. The code points are collected in reverse. A code escape
must be followed by another character, be it only the closing quote. -/
def scanString (done : List CodePoint) (high : Option CodePoint) :
    StringState → List Char → Except StringFault (List CodePoint × List Char)
  | .code _ missing, [] => .error (.malformed .codeEscape (5 - missing))
  | _, [] => .error .unterminated
  | .text, c :: rest =>
    if c == '"' then .ok (settle high done, rest)
    else if c == '\\' then scanString done high .escape rest
    else if c.toNat < 0x20 then .error (.malformed .controlCharacter (rest.length + 1))
    else scanString (.char c :: settle high done) none .text rest
  | .escape, c :: rest =>
    if c == 'u' then scanString done high (.code 0 4) rest
    else match simpleEscape? c with
      | some e => scanString (.char e :: settle high done) none .text rest
      | none => .error (.malformed .escape (rest.length + 2))
  | .code value missing, c :: rest =>
    match hexDigit? c with
    | none => .error (.malformed .codeEscape (rest.length + 6 - missing))
    | some d =>
      if missing ≤ 1 then
        if rest.isEmpty then .error (.malformed .codeEscape 5)
        else
          let (done, high) := takeCode high (value * 16 + d) done
          scanString done high .text rest
      else scanString done high (.code (value * 16 + d) (missing - 1)) rest

theorem length_le_of_scanString {done t : List CodePoint} {high : Option CodePoint}
    {state : StringState} {s rest : List Char} (h : scanString done high state s = .ok (t, rest)) :
    rest.length ≤ s.length := by
  fun_induction scanString done high state s <;> simp_all <;> omega

/-! ## Numbers -/

/-- The leading decimal digits of a text and what follows them. -/
def spanDigits (s : List Char) : List Char × List Char :=
  (s.takeWhile Char.isDigit, s.dropWhile Char.isDigit)

theorem length_spanDigits (s : List Char) :
    (spanDigits s).1.length + (spanDigits s).2.length = s.length := by
  rw [← List.length_append, spanDigits, List.takeWhile_append_dropWhile]

theorem length_spanDigits_le (s : List Char) : (spanDigits s).2.length ≤ s.length := by
  have := length_spanDigits s
  omega

def digitValues (s : List Char) : List Nat := s.map fun c => c.toNat - 48

/-- The fraction of a number: a point with at least one digit behind it. -/
def scanFraction : List Char → Option (List Char) × List Char
  | '.' :: rest =>
    match spanDigits rest with
    | ([], _) => (none, '.' :: rest)
    | (digits, rest) => (some digits, rest)
  | s => (none, s)

theorem length_scanFraction_le (s : List Char) : (scanFraction s).2.length ≤ s.length := by
  unfold scanFraction
  split
  · rename_i rest
    have := length_spanDigits_le rest
    split <;> grind
  · simp

/-- The exponent of a number: its mark, a sign, and at least one digit. -/
def scanExponent : List Char → Option Int × List Char
  | [] => (none, [])
  | c :: rest =>
    if c == 'e' || c == 'E' then
      let (negative, rest') := splitSign rest
      match spanDigits rest' with
      | ([], _) => (none, c :: rest)
      | (digits, rest) =>
        let n : Int := valueOf 10 (digitValues digits)
        (some (if negative then -n else n), rest)
    else (none, c :: rest)

theorem length_splitSign_le (s : List Char) : (splitSign s).2.length ≤ s.length := by
  unfold splitSign
  split <;> simp

theorem length_scanExponent_le (s : List Char) : (scanExponent s).2.length ≤ s.length := by
  unfold scanExponent
  split
  · simp
  · rename_i c rest
    have h₁ := length_splitSign_le rest
    have h₂ := length_spanDigits_le (splitSign rest).2
    split
    · dsimp only
      split <;> grind
    · simp

/-- The digits before the point: a zero stands alone. -/
def scanWhole : List Char → Option (List Char × List Char)
  | '0' :: rest => some (['0'], rest)
  | s =>
    match spanDigits s with
    | ([], _) => none
    | (digits, rest) => some (digits, rest)

theorem length_lt_of_scanWhole {s digits rest : List Char}
    (h : scanWhole s = some (digits, rest)) : rest.length < s.length := by
  unfold scanWhole at h
  split at h
  · simp at h; simp [← h.2]
  · have hlen := length_spanDigits s
    split at h
    · simp at h
    · rename_i ds r hne hs
      simp only [Option.some.injEq, Prod.mk.injEq] at h
      rw [hs] at hlen
      have hpos : 0 < ds.length := by
        cases ds with
        | nil => exact absurd rfl hne
        | cons _ _ => simp
      rw [← h.2]
      simp only at hlen
      omega

def splitMinus : List Char → Bool × List Char
  | '-' :: rest => (true, rest)
  | s => (false, s)

theorem length_splitMinus_le (s : List Char) : (splitMinus s).2.length ≤ s.length := by
  unfold splitMinus
  split <;> simp

/-- A number: an integer, unless a fraction or an exponent follows the whole part. -/
def scanNumber (s : List Char) : Option (Except IntegerFault Json × List Char) :=
  let (negative, unsigned) := splitMinus s
  match scanWhole unsigned with
  | none => none
  | some (whole, rest) =>
    let (fraction, rest) := scanFraction rest
    let (exponent, rest) := scanExponent rest
    if fraction.isNone && exponent.isNone then
      if maxDecimalDigits < whole.length then some (.error (.tooLong whole.length), rest)
      else
        let n : Int := valueOf 10 (digitValues whole)
        some (.ok (.int (if negative then -n else n)), rest)
    else
      let x := (⟨digitValues whole, digitValues (fraction.getD []), exponent.getD 0⟩ :
        Decimal.Scientific).value
      some (.ok (.float (if negative then -x else x)), rest)

theorem length_lt_of_scanNumber {s rest : List Char} {v : Except IntegerFault Json}
    (h : scanNumber s = some (v, rest)) : rest.length < s.length := by
  unfold scanNumber at h
  have hs := length_splitMinus_le s
  dsimp only at h
  split at h
  · simp at h
  · rename_i whole r hw
    have h₁ := length_lt_of_scanWhole hw
    have h₂ := length_scanFraction_le r
    have h₃ := length_scanExponent_le (scanFraction r).2
    split at h
    · split at h <;> (simp only [Option.some.injEq, Prod.mk.injEq] at h; rw [← h.2]; omega)
    · simp only [Option.some.injEq, Prod.mk.injEq] at h; rw [← h.2]; omega

def words : List (List Char × Json) :=
  [("null".toList, .null), ("true".toList, .bool true), ("false".toList, .bool false),
   ("NaN".toList, .float Decimal.nan), ("Infinity".toList, .float Decimal.infinity),
   ("-Infinity".toList, .float (-Decimal.infinity))]

/-- A word at the start of a text, with what follows it. -/
def scanWord (s : List Char) : Option (Json × List Char) :=
  (words.find? fun w => w.1.isPrefixOf s).map fun w => (w.2, s.drop w.1.length)

theorem length_lt_of_scanWord {s rest : List Char} {v : Json}
    (h : scanWord s = some (v, rest)) : rest.length < s.length := by
  simp only [scanWord, Option.map_eq_some_iff, Prod.mk.injEq] at h
  obtain ⟨w, hw, -, rfl⟩ := h
  have hp := List.find?_some hw
  have hle := (List.isPrefixOf_iff_prefix.mp hp).length_le
  have hpos : 0 < w.1.length := by
    have hm := List.mem_of_find?_eq_some hw
    simp only [words, List.mem_cons, List.not_mem_nil, or_false] at hm
    rcases hm with rfl | rfl | rfl | rfl | rfl | rfl <;> decide
  simp only [List.length_drop]
  omega

/-! ## The reader -/

/-- A container that stands open, with what it holds so far, in reverse. -/
inductive Open where
  | array (items : List Json)
  /-- An object whose next entry has this key. -/
  | object (entries : List (Text × Json)) (key : Text)

/-- What the reader expects at its place. -/
inductive Expect where
  | value
  /-- A value, or the end of the array just begun. -/
  | firstItem
  /-- A key, or the end of the object just begun. -/
  | firstKey
  /-- A key of the object with these entries. -/
  | key (entries : List (Text × Json))
  /-- The colon behind the key of the object with these entries. -/
  | colon (entries : List (Text × Json)) (key : Text)
  /-- Whatever may follow this value. -/
  | after (value : Json)

/-- Closes an object: of two entries with one key the first keeps its place and the last its value.
The entries come in reverse. -/
def closeObject (entries : List (Text × Json)) : Json :=
  .obj (entries.reverse.foldl (fun done e => insert e.1 e.2 done) [])

/-- Why the reader stops: a cause and the number of characters left, or another fault. -/
inductive Stop where
  | here (cause : Cause) (remaining : Nat)
  | fault (f : Fault)

/-- Scans a key or a string value behind its opening quote. -/
def readString (rest : List Char) : Except Stop (Text × List Char) :=
  match scanString [] none .text rest with
  | .ok (done, rest) => .ok (⟨done.reverse⟩, rest)
  | .error .unterminated => .error (.here .stringEnd (rest.length + 1))
  | .error (.malformed cause remaining) => .error (.here cause remaining)

theorem length_le_of_readString {s rest : List Char} {t : Text}
    (h : readString s = .ok (t, rest)) : rest.length ≤ s.length := by
  unfold readString at h
  split at h
  · rename_i hs
    simp only [Except.ok.injEq, Prod.mk.injEq] at h
    exact h.2 ▸ length_le_of_scanString hs
  · simp at h
  · simp at h

/-- A value that is no container, at the start of a text. -/
def readScalar (s : List Char) : Except Stop (Json × List Char) :=
  match s with
  | '"' :: rest => (readString rest).map fun r => (.str r.1, r.2)
  | s =>
    match scanWord s with
    | some found => .ok found
    | none =>
      match scanNumber s with
      | some (.ok value, rest) => .ok (value, rest)
      | some (.error fault, _) => .error (.fault (.integer fault))
      | none => .error (.here .value s.length)

theorem length_lt_of_readScalar {s rest : List Char} {v : Json}
    (h : readScalar s = .ok (v, rest)) : rest.length < s.length := by
  unfold readScalar at h
  split at h
  · rename_i r
    cases hr : readString r with
    | error e => simp [hr, Except.map] at h
    | ok p =>
      obtain ⟨t, after⟩ := p
      simp only [hr, Except.map, Except.ok.injEq, Prod.mk.injEq] at h
      have := length_le_of_readString hr
      simp only [List.length_cons, ← h.2]
      omega
  · split at h
    · rename_i hw
      simp only [Except.ok.injEq] at h
      exact length_lt_of_scanWord (h ▸ hw)
    · split at h
      · rename_i hn
        simp only [Except.ok.injEq, Prod.mk.injEq] at h
        exact h.2 ▸ length_lt_of_scanNumber hn
      · simp at h
      · simp at h

/-- A place in a text: what is read, what may come, and what is left. -/
structure Place where
  /-- How many more containers may be opened inside one another. -/
  depth : Nat
  opened : List Open
  expect : Expect
  rest : List Char

/-- What a step comes to. -/
inductive Progress where
  | on (place : Place)
  | done (value : Json) (rest : List Char)

/-- Opens a container, or reads a value that is none. -/
def beginValue (depth : Nat) (opened : List Open) (s : List Char) : Except Stop Progress :=
  match s, depth with
  | '[' :: _, 0 => .error (.fault .tooDeep)
  | '{' :: _, 0 => .error (.fault .tooDeep)
  | '[' :: rest, depth + 1 => .ok (.on ⟨depth, .array [] :: opened, .firstItem, skipGap rest⟩)
  | '{' :: rest, depth + 1 => .ok (.on ⟨depth, opened, .firstKey, skipGap rest⟩)
  | s, depth => (readScalar s).map fun r => .on ⟨depth, opened, .after r.1, r.2⟩

def beginEntry (depth : Nat) (opened : List Open) (entries : List (Text × Json))
    (s : List Char) : Except Stop Progress :=
  match s with
  | '"' :: rest => (readString rest).map fun r => .on ⟨depth, opened, .colon entries r.1, r.2⟩
  | rest => .error (.here .propertyName rest.length)

/-- What may follow a value: the end of the text, or a comma or the end of its container. -/
def endValue (depth : Nat) (opened : List Open) (value : Json) (s : List Char) :
    Except Stop Progress :=
  match opened with
  | [] => .ok (.done value s)
  | .array items :: outer =>
    match skipGap s with
    | ',' :: rest => .ok (.on ⟨depth, .array (value :: items) :: outer, .value, skipGap rest⟩)
    | ']' :: rest => .ok (.on ⟨depth + 1, outer, .after (.arr (value :: items).reverse), rest⟩)
    | rest => .error (.here .comma rest.length)
  | .object entries key :: outer =>
    match skipGap s with
    | ',' :: rest => .ok (.on ⟨depth, outer, .key ((key, value) :: entries), skipGap rest⟩)
    | '}' :: rest =>
      .ok (.on ⟨depth + 1, outer, .after (closeObject ((key, value) :: entries)), rest⟩)
    | rest => .error (.here .comma rest.length)

/-- One step: what a place may hold, and where the reader stands behind it. -/
def Place.step (p : Place) : Except Stop Progress :=
  match p.expect with
  | .value => beginValue p.depth p.opened p.rest
  | .firstItem =>
    match p.rest with
    | ']' :: rest => .ok (.on ⟨p.depth + 1, p.opened.drop 1, .after (.arr []), rest⟩)
    | rest => beginValue p.depth p.opened rest
  | .firstKey =>
    match p.rest with
    | '}' :: rest => .ok (.on ⟨p.depth + 1, p.opened, .after (.obj []), rest⟩)
    | rest => beginEntry p.depth p.opened [] rest
  | .key entries => beginEntry p.depth p.opened entries p.rest
  | .colon entries key =>
    match skipGap p.rest with
    | ':' :: rest => .ok (.on ⟨p.depth, .object entries key :: p.opened, .value, skipGap rest⟩)
    | rest => .error (.here .colon rest.length)
  | .after value => endValue p.depth p.opened value p.rest

/-! A step that goes on has read at least one character. -/

theorem length_lt_of_beginValue {depth : Nat} {opened : List Open} {s : List Char} {q : Place}
    (h : beginValue depth opened s = .ok (.on q)) : q.rest.length < s.length := by
  unfold beginValue at h
  split at h
  · simp at h
  · simp at h
  · rename_i rest _
    simp only [Except.ok.injEq, Progress.on.injEq] at h
    have := length_skipGap_le rest
    simp only [← h, List.length_cons]; omega
  · rename_i rest _
    simp only [Except.ok.injEq, Progress.on.injEq] at h
    have := length_skipGap_le rest
    simp only [← h, List.length_cons]; omega
  · cases hr : readScalar s with
    | error e => simp [hr, Except.map] at h
    | ok r =>
      obtain ⟨v, after⟩ := r
      simp only [hr, Except.map, Except.ok.injEq, Progress.on.injEq] at h
      exact h ▸ length_lt_of_readScalar hr

theorem length_lt_of_beginEntry {depth : Nat} {opened : List Open} {entries : List (Text × Json)}
    {s : List Char} {q : Place} (h : beginEntry depth opened entries s = .ok (.on q)) :
    q.rest.length < s.length := by
  unfold beginEntry at h
  split at h
  · rename_i rest
    cases hr : readString rest with
    | error e => simp [hr, Except.map] at h
    | ok r =>
      obtain ⟨t, after⟩ := r
      simp only [hr, Except.map, Except.ok.injEq, Progress.on.injEq] at h
      have := length_le_of_readString hr
      simp only [← h, List.length_cons]; omega
  · simp at h

theorem length_lt_of_skipGap_eq {s rest : List Char} {c : Char} (h : skipGap s = c :: rest) :
    rest.length < s.length := by
  have := length_skipGap_le s
  rw [h, List.length_cons] at this
  omega

theorem length_lt_of_endValue {depth : Nat} {opened : List Open} {value : Json} {s : List Char}
    {q : Place} (h : endValue depth opened value s = .ok (.on q)) :
    q.rest.length < s.length := by
  unfold endValue at h
  split at h
  · simp at h
  · split at h
    · rename_i rest hg
      have h₁ := length_lt_of_skipGap_eq hg
      have h₂ := length_skipGap_le rest
      simp only [Except.ok.injEq, Progress.on.injEq] at h
      simp only [← h]; omega
    · rename_i rest hg
      simp only [Except.ok.injEq, Progress.on.injEq] at h
      exact h ▸ length_lt_of_skipGap_eq hg
    · simp at h
  · split at h
    · rename_i rest hg
      have h₁ := length_lt_of_skipGap_eq hg
      have h₂ := length_skipGap_le rest
      simp only [Except.ok.injEq, Progress.on.injEq] at h
      simp only [← h]; omega
    · rename_i rest hg
      simp only [Except.ok.injEq, Progress.on.injEq] at h
      exact h ▸ length_lt_of_skipGap_eq hg
    · simp at h

theorem Place.length_lt_of_step {p q : Place} (h : p.step = .ok (.on q)) :
    q.rest.length < p.rest.length := by
  unfold Place.step at h
  split at h
  · exact length_lt_of_beginValue h
  · split at h
    · rename_i hp
      simp only [Except.ok.injEq, Progress.on.injEq] at h
      simp [← h, hp]
    · exact length_lt_of_beginValue h
  · split at h
    · rename_i hp
      simp only [Except.ok.injEq, Progress.on.injEq] at h
      simp [← h, hp]
    · exact length_lt_of_beginEntry h
  · exact length_lt_of_beginEntry h
  · split at h
    · rename_i rest hg
      have h₁ := length_lt_of_skipGap_eq hg
      have h₂ := length_skipGap_le rest
      simp only [Except.ok.injEq, Progress.on.injEq] at h
      simp only [← h]; omega
    · simp at h
  · exact length_lt_of_endValue h

/-- Reads the value that begins before or at a place. -/
def Place.run (p : Place) : Except Stop (Json × List Char) :=
  match _h : p.step with
  | .error stop => .error stop
  | .ok (.done value rest) => .ok (value, rest)
  | .ok (.on q) => q.run
termination_by p.rest.length
decreasing_by exact Place.length_lt_of_step _h

/-- Reads a text that holds one value, with at most `depth` containers inside one another. -/
def parse (depth : Nat) (text : List Char) : Except Fault Json :=
  let fail (cause : Cause) (remaining : Nat) : Except Fault Json :=
    .error (.at text cause (text.length - remaining))
  if text.head? == some (Char.ofNat 0xFEFF) then fail .byteOrderMark text.length
  else
    match (⟨depth, [], .value, skipGap text⟩ : Place).run with
    | .error (.here cause remaining) => fail cause remaining
    | .error (.fault f) => .error f
    | .ok (value, rest) =>
      match skipGap rest with
      | [] => .ok value
      | rest => fail .extraData rest.length

end AngularLint.Json
