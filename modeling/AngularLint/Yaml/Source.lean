import AngularLint.Text.Ranges
import AngularLint.Text.Stream
import AngularLint.Yaml.Series

/-!
# From bytes to characters

A text is read block by block, where what has been read is not enough. A block with a character that
no text may hold stops the reading when the block is reached, and so do bytes that are no UTF-8.
What comes before that block is read all the same, and its own faults come first.
-/

set_option autoImplicit false

namespace AngularLint.Yaml

def textRanges : Text.Ranges :=
  [(0x09, 0x0A), (0x0D, 0x0D), (0x20, 0x7E), (0x85, 0x85), (0xA0, 0xD7FF), (0xE000, 0xFFFD),
    (0x10000, 0x10FFFF)]

def isText (c : Char) : Bool := textRanges.has c.toNat

namespace Source

def blockSize : Nat := 4096

/-- The characters of blocks, up to the first block with a character that may not stand there. -/
def ofBlocks (stop : Option Stop) : List (List Char) → Series Char
  | [] => ⟨[], stop⟩
  | block :: rest =>
    if block.all isText then
      let later := ofBlocks stop rest
      ⟨block ++ later.items, later.stop⟩
    else ⟨[], some (.fault .character)⟩

/-- The characters of bytes. The first two blocks are read together. -/
def ofBytes (bytes : List UInt8) : Series Char :=
  let (blocks, fault) := Text.blocks blockSize bytes
  let stop := fault.map fun f => Stop.abort (.undecodable f)
  match blocks with
  | first :: second :: rest => ofBlocks stop ((first ++ second) :: rest)
  | blocks => if stop.isSome then ⟨[], stop⟩ else ofBlocks none blocks

end Source

end AngularLint.Yaml
