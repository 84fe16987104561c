import AngularLint.Text.Lines
import AngularLint.Text.Utf8

/-!
# Texts from streams of bytes

A long text is read in blocks of characters, and its bytes are decoded in pieces, as many as a block
needs. The first block that needs a piece meets the fault in it, and is then not read at all. A
sequence of bytes that the end of a piece cuts in two is held back for the next piece, and so is a
carriage return, which may be the first half of a line end. Places are counted from the first byte
that is not yet decoded.
-/

set_option autoImplicit false

namespace AngularLint.Text

/-- What has been decoded of a stream and not been read. -/
structure Decoder where
  /-- The characters, with unified line ends. -/
  ready : List Char
  /-- The bytes that are held back. -/
  held : List UInt8
  /-- Is a carriage return held back? -/
  carriage : Bool
  /-- The number of bytes that a character took in the last piece. -/
  bytesPerChar : Float

namespace Decoder

def start : Decoder := ⟨[], [], false, 0⟩

/-- The least number of bytes that are decoded at once. -/
def leastPiece : Nat := 8192

/-- The number of bytes to be decoded for `wanted` characters, which are taken to be as long as
those of the last piece. -/
def pieceSize (wanted : Nat) (d : Decoder) : Nat :=
  let bytesPerChar := if d.bytesPerChar < 1 then 1 else d.bytesPerChar
  max leastPiece (bytesPerChar * Float.ofNat wanted).toUInt64.toNat

def decode (piece : List UInt8) (d : Decoder) : Except Utf8Fault Decoder := do
  let (done, held) ← decodePiece 0 [] (d.held ++ piece)
  let chars := if d.carriage then '\r' :: done.reverse else done.reverse
  let carriage := chars.getLast? == some '\r'
  let chars := unifyLineEnds (if carriage then chars.dropLast else chars)
  let bytesPerChar :=
    if chars.isEmpty then 0 else Float.ofNat piece.length / Float.ofNat chars.length
  return ⟨d.ready ++ chars, held, carriage, bytesPerChar⟩

/-- Ends the stream: what has been held back is a fault, or the last line end. -/
def finish (d : Decoder) : Except Utf8Fault Decoder := do
  decodeEnd d.held
  return ⟨d.ready ++ (if d.carriage then ['\n'] else []), [], false, 0⟩

/-- Decodes the bytes that follow until `wanted` characters are ready, or the stream ends. -/
def fill (wanted : Nat) (d : Decoder) (bytes : List UInt8) :
    Except Utf8Fault (Decoder × List UInt8) :=
  if wanted ≤ d.ready.length then .ok (d, bytes)
  else match bytes with
    | [] => d.finish.map fun d => (d, [])
    | b :: rest =>
      let more := d.pieceSize (wanted - d.ready.length) - 1
      match d.decode (b :: rest.take more) with
      | .error fault => .error fault
      | .ok d => fill wanted d (rest.drop more)
termination_by bytes.length
decreasing_by simp only [List.length_cons, List.length_drop]; omega

/-- Blocks of at most `size` characters, at most `count` of them, and the fault that keeps the next
one from being read. -/
def blocks (size : Nat) : Nat → Decoder → List UInt8 → List (List Char) × Option Utf8Fault
  | 0, _, _ => ([], none)
  | count + 1, d, bytes =>
    match d.fill size bytes with
    | .error fault => ([], some fault)
    | .ok (d, bytes) =>
      if d.ready.isEmpty then ([], none)
      else
        let (later, fault) := blocks size count { d with ready := d.ready.drop size } bytes
        (d.ready.take size :: later, fault)

end Decoder

/-- The blocks of a stream of bytes, and the fault that keeps the next one from being read. Each
block takes up a byte, so there are no more blocks than bytes. -/
def blocks (size : Nat) (bytes : List UInt8) : List (List Char) × Option Utf8Fault :=
  Decoder.blocks size (bytes.length + 1) .start bytes

end AngularLint.Text
