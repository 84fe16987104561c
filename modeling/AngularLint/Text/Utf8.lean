import AngularLint.Text.Basic
import AngularLint.Text.Digit
import AngularLint.Total

/-!
# UTF-8

Bytes to characters, and the first place where the bytes are no UTF-8; characters to bytes, and the
first code point that is no character.
-/

set_option autoImplicit false

namespace AngularLint.Text

/-- What is wrong with a sequence of bytes. -/
inductive Utf8Reason where
  | start
  | continuation
  | truncated

def Utf8Reason.message : Utf8Reason → String
  | .start => "invalid start byte"
  | .continuation => "invalid continuation byte"
  | .truncated => "unexpected end of data"

/-- The bytes from `position` on, `length` of them, are no UTF-8; `first` is the first of them. -/
structure Utf8Fault where
  first : UInt8
  position : Nat
  length : Nat
  reason : Utf8Reason

/-- The wording of a fault; a single byte is shown with its value. -/
def Utf8Fault.message (f : Utf8Fault) : String :=
  let place :=
    if f.length == 1 then
      s!"byte 0x{String.ofList (hex 2 f.first.toNat)} in position {f.position}"
    else s!"bytes in position {f.position}-{f.position + f.length - 1}"
  s!"'utf-8' codec can't decode {place}: {f.reason.message}"

/-- What stands at the start of a byte sequence. -/
inductive Utf8Head where
  /-- A character, written in `length` bytes. -/
  | char (c : Char) (length : Nat)
  /-- The first bytes of a character; the rest is missing. -/
  | cut
  /-- `length` bytes that begin no character. -/
  | bad (length : Nat) (reason : Utf8Reason)

def isContinuation (b : UInt8) : Bool := 0x80 ≤ b && b < 0xC0

def payload (b : UInt8) : Nat := b.toNat % 0x40

/-- May `second` follow the lead byte `lead`? Overlong forms, surrogates and code points beyond
U+10FFFF are excluded here, since the second byte gives each of them away. -/
def admitsSecond (lead second : UInt8) : Bool :=
  isContinuation second &&
    !(lead == 0xE0 && second < 0xA0) && !(lead == 0xED && 0xA0 ≤ second) &&
    !(lead == 0xF0 && second < 0x90) && !(lead == 0xF4 && 0x90 ≤ second)

/-- The character at the start of a non-empty byte sequence. -/
def utf8Head (lead : UInt8) (rest : List UInt8) : Utf8Head :=
  if lead < 0x80 then .char (Char.ofNat lead.toNat) 1
  else if lead < 0xC2 then .bad 1 .start
  else if lead < 0xE0 then
    match rest with
    | [] => .cut
    | b :: _ =>
      if isContinuation b then .char (Char.ofNat (lead.toNat % 0x20 * 0x40 + payload b)) 2
      else .bad 1 .continuation
  else if lead < 0xF0 then
    match rest with
    | [] => .cut
    | b :: rest =>
      if !admitsSecond lead b then .bad 1 .continuation
      else match rest with
        | [] => .cut
        | c :: _ =>
          if isContinuation c then
            .char (Char.ofNat ((lead.toNat % 0x10 * 0x40 + payload b) * 0x40 + payload c)) 3
          else .bad 2 .continuation
  else if lead < 0xF5 then
    match rest with
    | [] => .cut
    | b :: rest =>
      if !admitsSecond lead b then .bad 1 .continuation
      else match rest with
        | [] => .cut
        | c :: rest =>
          if !isContinuation c then .bad 2 .continuation
          else match rest with
            | [] => .cut
            | d :: _ =>
              if isContinuation d then
                .char (Char.ofNat (((lead.toNat % 8 * 0x40 + payload b) * 0x40 + payload c) * 0x40
                  + payload d)) 4
              else .bad 3 .continuation
  else .bad 1 .start

/-- Decodes one piece of bytes, `position` bytes into it. The characters are collected in
reverse; what the end of the piece cuts in two is returned undecoded. A cut surrogate counts as
cut, although no byte could complete it. -/
def decodePiece (position : Nat) (done : List Char) :
    List UInt8 → Except Utf8Fault (List Char × List UInt8)
  | [] => .ok (done, [])
  | lead :: rest =>
    match utf8Head lead rest with
    | .char c length => decodePiece (position + length) (c :: done) (rest.drop (length - 1))
    | .cut => .ok (done, lead :: rest)
    | .bad length reason =>
      if lead == 0xED && rest.length == 1 && rest.all isContinuation then .ok (done, lead :: rest)
      else .error ⟨lead, position, length, reason⟩
termination_by bytes => bytes.length
decreasing_by simp only [List.length_cons, List.length_drop]; omega

/-- What is cut in two by the end of the last piece is a fault. -/
def decodeEnd : List UInt8 → Except Utf8Fault Unit
  | [] => .ok ()
  | lead :: rest =>
    match utf8Head lead rest with
    | .bad length reason => .error ⟨lead, 0, length, reason⟩
    | _ => .error ⟨lead, 0, rest.length + 1, .truncated⟩

/-- Decodes bytes that are all at hand; a fault is placed from the first byte. -/
def decodeWhole (bytes : List UInt8) : Except Utf8Fault (List Char) := do
  let (done, held) ← decodePiece 0 [] bytes
  match decodeEnd held with
  | .ok () => return done.reverse
  | .error fault => .error { fault with position := bytes.length - held.length }

/-! ## Encoding -/

def isHalf : CodePoint → Bool
  | .char _ => false
  | .half _ => true

/-- Does the code point stand for a byte that is part of no character, as names of files may hold
them? The upper halves from U+DC80 to U+DCFF do. -/
def isLooseByte (c : CodePoint) : Bool := isHalf c && 0xDC80 ≤ c.toNat && c.toNat < 0xDD00

/-- Why the name of a file cannot be written: of the code points from `position` on, `length` are
halves, the first of which stands for no byte. -/
structure EncodeFault where
  first : CodePoint
  position : Nat
  length : Nat

/-- The wording of a fault; a single half is shown by its code. -/
def EncodeFault.message (f : EncodeFault) : String :=
  let place :=
    if f.length == 1 then
      s!"character '\\u{String.ofList (hex 4 f.first.toNat)}' in position {f.position}"
    else s!"characters in position {f.position}-{f.position + f.length - 1}"
  s!"'utf-8' codec can't encode {place}: surrogates not allowed"

/-- The first fault of code points that stand behind `position` others. -/
def encodeFault? (position : Nat) : List CodePoint → Option EncodeFault
  | [] => none
  | c :: rest =>
    if isHalf c && !isLooseByte c then
      some ⟨c, position, ((c :: rest).takeWhile isHalf).length⟩
    else encodeFault? (position + 1) rest

def sizeOfPoint : CodePoint → Nat
  | .char c => c.utf8Size
  | .half _ => 1

def encodedSize (t : Text) : Nat := total (t.points.map sizeOfPoint)

def encodeUtf8 (s : String) : List UInt8 := s.toUTF8.toList

end AngularLint.Text
