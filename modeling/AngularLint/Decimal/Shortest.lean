/-!
# The fewest digits that read back

A finite floating-point value stands for an interval of reals, those that round to it. Among the
decimals in that interval this module selects one with the fewest digits, and of those the one
nearest to the value. All comparisons are exact, on natural numbers.
-/

set_option autoImplicit false

namespace AngularLint.Decimal

/-- A finite, non-negative binary value `mantissa * 2 ^ exponent`. -/
structure Binary where
  mantissa : Nat
  exponent : Int
  /-- At a power of two the gap to the value below is half the gap to the value above. -/
  narrowBelow : Bool

/-- `digits * 10 ^ exponent`. -/
structure Dec where
  digits : Nat
  exponent : Int

def exponentField (x : Float) : Nat := (x.toBits >>> 52).toNat % 0x800

def fractionField (x : Float) : Nat := x.toBits.toNat % Nat.pow 2 52

/-- Is the sign bit set? It is set in the negative zero as well. -/
def isNegative (x : Float) : Bool := x.toBits >>> 63 == 1

def isFinite (x : Float) : Bool := exponentField x != 0x7FF

def isInfinite (x : Float) : Bool := exponentField x == 0x7FF && fractionField x == 0

def Binary.ofFloat (x : Float) : Binary :=
  let e := exponentField x
  let f := fractionField x
  if e == 0 then ⟨f, -1074, false⟩ else ⟨Nat.pow 2 52 + f, (e : Int) - 1075, f == 0 && e > 1⟩

/-- Compares `a * 10 ^ i` with `n * 2 ^ j`. Negative powers are moved to the other side. -/
def compareScaled (a : Nat) (i : Int) (n : Nat) (j : Int) : Ordering :=
  compare (a * Nat.pow 10 i.toNat * Nat.pow 2 (-j).toNat)
    (n * Nat.pow 2 j.toNat * Nat.pow 10 (-i).toNat)

/-- Does the decimal round to the value? The ends of the interval lie halfway to the neighbours,
and belong to it exactly when the mantissa is even. -/
def Binary.readsBack (x : Binary) (d : Dec) : Bool :=
  let low := if x.narrowBelow then 4 * x.mantissa - 1 else 4 * x.mantissa - 2
  let high := 4 * x.mantissa + 2
  let ends := x.mantissa % 2 == 0
  let fromLow := compareScaled d.digits d.exponent low (x.exponent - 2)
  let fromHigh := compareScaled d.digits d.exponent high (x.exponent - 2)
  (fromLow == .gt || (ends && fromLow == .eq)) && (fromHigh == .lt || (ends && fromHigh == .eq))

/-- Steps `k` upwards until the value is below `10 ^ k`, at most `steps` times. -/
def Binary.scaleFrom (x : Binary) : Nat → Int → Int
  | 0, k => k
  | steps + 1, k =>
    if compareScaled 1 k x.mantissa x.exponent == .gt then k else x.scaleFrom steps (k + 1)

/-- The least `k` with the value below `10 ^ k`. The search starts from the binary logarithm times
0.30103, less one, which is too small by three at most. -/
def Binary.scale (x : Binary) : Int :=
  let bits := (x.mantissa.log2 : Int) + x.exponent
  x.scaleFrom 8 (Int.fdiv (bits * 30103) 100000 - 1)

/-- The value on the grid `10 ^ grid`, rounded down. -/
def Binary.floorOn (x : Binary) (grid : Int) : Nat :=
  x.mantissa * Nat.pow 2 x.exponent.toNat * Nat.pow 10 (-grid).toNat /
    (Nat.pow 2 (-x.exponent).toNat * Nat.pow 10 grid.toNat)

/-- Of the two neighbours of the value on the grid, the nearer one that reads back. An exact tie
goes to the even neighbour. -/
def Binary.onGrid? (x : Binary) (grid : Int) : Option Dec :=
  let below := x.floorOn grid
  let down : Dec := ⟨below, grid⟩
  let up : Dec := ⟨below + 1, grid⟩
  match x.readsBack down, x.readsBack up with
  | true, true =>
    match compareScaled (2 * below + 1) grid (2 * x.mantissa) x.exponent with
    | .gt => some down
    | .lt => some up
    | .eq => some (if below % 2 == 0 then down else up)
  | true, false => some down
  | false, true => some up
  | false, false => none

/-- Moves zeros at the end of the digits into the exponent, at most `steps` of them. -/
def Dec.strip : Nat → Dec → Dec
  | 0, d => d
  | steps + 1, d =>
    if d.digits != 0 && d.digits % 10 == 0 then Dec.strip steps ⟨d.digits / 10, d.exponent + 1⟩
    else d

/-- The value written out in full, which always reads back. -/
def Binary.exactly (x : Binary) : Dec :=
  if 0 ≤ x.exponent then ⟨x.mantissa * Nat.pow 2 x.exponent.toNat, 0⟩
  else ⟨x.mantissa * Nat.pow 5 (-x.exponent).toNat, x.exponent⟩

/-- The shortest decimal that reads back: the coarsest grid with a hit wins, and seventeen digits
are tried before the value is written out in full. -/
def Binary.shortest (x : Binary) : Dec :=
  if x.mantissa == 0 then ⟨0, 0⟩
  else
    let k := x.scale
    match (List.range 17).findSome? fun n : Nat => x.onGrid? (k - 1 - n) with
    | some d => d.strip 20
    | none => x.exactly

/-- The integer part of a finite value, towards zero. -/
def truncate (x : Float) : Int :=
  let b := Binary.ofFloat x
  let n := b.mantissa * Nat.pow 2 b.exponent.toNat / Nat.pow 2 (-b.exponent).toNat
  if isNegative x then -n else n

end AngularLint.Decimal
