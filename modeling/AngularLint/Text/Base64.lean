/-!
# Base 64

Bytes written with 64 characters, four for every three bytes. The reader passes over characters that
are none of them, and stops at the padding that completes a group of four.
-/

set_option autoImplicit false

namespace AngularLint.Text

def base64Digit? (c : Char) : Option Nat :=
  if 'A' ≤ c ∧ c ≤ 'Z' then some (c.toNat - 65)
  else if 'a' ≤ c ∧ c ≤ 'z' then some (c.toNat - 71)
  else if '0' ≤ c ∧ c ≤ '9' then some (c.toNat + 4)
  else if c == '+' then some 62
  else if c == '/' then some 63
  else none

/-- A group of four that is being read. -/
structure Base64Group where
  /-- The number of its characters that have been read. -/
  read : Nat
  /-- The bits that have not yet become bytes. -/
  bits : Nat
  /-- The number of padding characters behind them. -/
  pads : Nat

/-- Takes a digit: the byte that it completes, if it completes one, and the group behind it. -/
def Base64Group.take (g : Base64Group) (d : Nat) : Option UInt8 × Base64Group :=
  let all := g.bits * 64 + d
  match g.read with
  | 0 => (none, ⟨1, d, 0⟩)
  | 1 => (some (UInt8.ofNat (all / 16)), ⟨2, all % 16, 0⟩)
  | 2 => (some (UInt8.ofNat (all / 4)), ⟨3, all % 4, 0⟩)
  | _ => (some (UInt8.ofNat all), ⟨0, 0, 0⟩)

/-- Reads bytes; a group that is neither complete nor completed by padding has none. -/
def readBase64? (g : Base64Group) : List Char → Option (List UInt8)
  | [] => if g.read == 0 then some [] else none
  | c :: rest =>
    if c == '=' then
      if 2 ≤ g.read then
        if 4 ≤ g.read + g.pads + 1 then some [] else readBase64? { g with pads := g.pads + 1 } rest
      else readBase64? g rest
    else match base64Digit? c with
      | none => readBase64? g rest
      | some d =>
        let (byte, g) := g.take d
        (readBase64? g rest).map fun bytes => byte.toList ++ bytes

def decodeBase64? (text : List Char) : Option (List UInt8) := readBase64? ⟨0, 0, 0⟩ text

end AngularLint.Text
