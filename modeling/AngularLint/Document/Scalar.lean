import AngularLint.Decimal.Layout
import AngularLint.Document.Calendar
import AngularLint.Text.Integer
import AngularLint.Text.Shown

/-!
# Scalars of documents

The values of a document that hold no others. They are also the keys of its mappings, and there a
number is a number: one, one point zero and true are the same key.
-/

set_option autoImplicit false

namespace AngularLint

/-- A value that holds no others. -/
inductive Scalar where
  | null
  | bool (b : Bool)
  | int (n : Int)
  | float (x : Float)
  /-- An undefined value that a text names, which is like no other; the source tells them apart. -/
  | undefined (source : Nat)
  | text (s : Text)
  | bytes (bytes : List UInt8)
  | date (d : Date)
  | moment (m : Moment)

namespace Scalar

/-- A scalar as messages show it inside other values. Only an integer can be too large to be
shown. -/
def shown : Scalar → Except Text.IntegerFault Text
  | null => .ok Shown.nothing
  | bool b => .ok (Shown.truth b)
  | int n => Text.writeInteger n
  | float x => .ok (Decimal.render Decimal.shown x)
  | undefined _ => .ok Decimal.shown.nan
  | text s => .ok (Text.quote s)
  | bytes b => .ok (Text.quoteBytes b)
  | date d => .ok d.shown
  | moment m => .ok m.shown

def display : Scalar → Except Text.IntegerFault Text
  | text s => .ok s
  | date d => .ok d.display
  | moment m => .ok m.display
  | s => s.shown

def intIsFloat (n : Int) (x : Float) : Bool :=
  Decimal.isFinite x && Decimal.truncate x == n && Float.ofInt n == x

/-- Are two floating-point values the same key? Zeros of either sign are, and so is the undefined
value with itself. -/
def isSameFloat (x y : Float) : Bool := x == y || (x.isNaN && y.isNaN)

def ofBool (b : Bool) : Int := if b then 1 else 0

def isSame : Scalar → Scalar → Bool
  | null, null => true
  | bool a, bool b => a == b
  | bool a, int n => ofBool a == n
  | bool a, float x => intIsFloat (ofBool a) x
  | int n, bool b => n == ofBool b
  | int n, int m => n == m
  | int n, float x => intIsFloat n x
  | float x, bool b => intIsFloat (ofBool b) x
  | float x, int n => intIsFloat n x
  | float x, float y => isSameFloat x y
  | undefined a, undefined b => a == b
  | text s, text t => s == t
  | bytes a, bytes b => a == b
  | date a, date b => a == b
  | moment a, moment b => a.isSame b
  | _, _ => false

end Scalar

end AngularLint
