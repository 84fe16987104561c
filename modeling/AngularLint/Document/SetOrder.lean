import AngularLint.Document.Scalar

/-!
# The order of sets

A set shows its members in the order of the places that they have in a table, and where a member is
put follows from its hash: at the place that the hash names, or where that is taken, close behind it
or at the next place of a walk through the table. Numbers have hashes that are known, equal numbers
equal ones. The hashes of other members mean nothing outside of one run, and a set with such a
member shows its members in the order in which they came.
-/

set_option autoImplicit false

namespace AngularLint.SetOrder

/-! ## Hashes -/

/-- The modulus of hashes. Two to the power of 61 is one, so halves are powers of two as well. -/
def modulus : Nat := Nat.pow 2 61 - 1

/-- The hash of a number of the magnitude `m * 2 ^ e`, as a word of 64 bits. No hash is
minus one. -/
def ofMagnitude (negative : Bool) (m : Nat) (e : Int) : Nat :=
  let h := m % modulus * Nat.pow 2 (e % 61).toNat % modulus
  if negative && h != 0 then Nat.pow 2 64 - max h 2 else h

/-- The magnitude that the hash of infinity is made from. -/
def infinityHash : Nat := 314159

def hash? : Scalar → Option Nat
  | .bool b => some (ofMagnitude false (if b then 1 else 0) 0)
  | .int n => some (ofMagnitude (n < 0) n.natAbs 0)
  | .float x =>
    if Decimal.isInfinite x then some (ofMagnitude (Decimal.isNegative x) infinityHash 0)
    else if Decimal.isFinite x then
      let b := Decimal.Binary.ofFloat x
      some (ofMagnitude (Decimal.isNegative x) b.mantissa b.exponent)
    else none
  | _ => none

/-! ## Tables -/

abbrev Table := Array (Option Scalar)

/-- The number of places in the table of `count` members: eight, or the least power of two above
twice the count. -/
def tableSize (count : Nat) : Nat := if count < 5 then 8 else Nat.pow 2 (Nat.log2 (2 * count) + 1)

/-- The number of places behind a place that are looked at before the walk goes on. -/
def neighbours : Nat := 9

/-- The first free one of `count` places. -/
def freeAmong? (t : Table) (place : Nat) : Nat → Option Nat
  | 0 => none
  | count + 1 =>
    if t[place]?.any (·.isNone) then some place else freeAmong? t (place + 1) count

/-- The place where a member is put, on a walk from a place; what is left of its hash bends the
walk. A walk that nothing bends any more comes to every place. -/
def freePlace (t : Table) : Nat → Nat → Nat → Nat
  | 0, _, place => place
  | steps + 1, bend, place =>
    let near := if place + neighbours < t.size then neighbours + 1 else 1
    match freeAmong? t place near with
    | some free => free
    | none => freePlace t steps (bend / 32) ((place * 5 + 1 + bend / 32) % t.size)

def bendingSteps : Nat := 16

def put (t : Table) (member : Scalar × Nat) : Table :=
  t.setIfInBounds (freePlace t (bendingSteps + t.size) member.2 (member.2 % t.size)) (some member.1)

def arrange (members : List Scalar) : List Scalar :=
  match members.mapM hash? with
  | none => members
  | some hashes =>
    let empty : Table := Array.replicate (tableSize members.length) none
    ((members.zip hashes).foldl put empty).toList.filterMap id

end AngularLint.SetOrder
