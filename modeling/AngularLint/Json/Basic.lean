import AngularLint.Decimal.Layout
import AngularLint.Text.Quoted
import AngularLint.Text.Shown

/-!
# JSON values

Integers and floating-point numbers are apart, integers are unbounded, and an object is the list of
its entries in the order of the text.
-/

set_option autoImplicit false

namespace AngularLint

/-- A JSON value. -/
inductive Json where
  | null
  | bool (b : Bool)
  | int (n : Int)
  | float (x : Float)
  | str (s : Text)
  | arr (items : List Json)
  | obj (entries : List (Text × Json))

namespace Json

instance : Inhabited Json := ⟨.null⟩

def find? (key : Text) (entries : List (Text × Json)) : Option Json := entries.lookup key

/-- The value of a key in an object; nothing for any other value. -/
def get? (key : Text) : Json → Option Json
  | obj entries => find? key entries
  | _ => none

/-- Adds an entry. A key that is present keeps its place and takes the new value. -/
def insert (key : Text) (value : Json) : List (Text × Json) → List (Text × Json)
  | [] => [(key, value)]
  | (k, v) :: rest => if k == key then (k, value) :: rest else (k, v) :: insert key value rest

/-- Null, false, zero and whatever is empty are no; all else is yes. -/
def truthy : Json → Bool
  | null => false
  | bool b => b
  | int n => n != 0
  | float x => x != 0
  | str s => !s.isEmpty
  | arr items => !items.isEmpty
  | obj entries => !entries.isEmpty

/-- The text itself, if the value is one. -/
def str? : Json → Option Text
  | str s => some s
  | _ => none

mutual

def shown : Json → Text
  | null => Shown.nothing
  | bool b => Shown.truth b
  | int n => toString n
  | float x => Decimal.render Decimal.shown x
  | str s => s.quote
  | arr items => Shown.list (shownItems items)
  | obj entries => Shown.mapping (shownEntries entries)

def shownItems : List Json → List Text
  | [] => []
  | v :: rest => shown v :: shownItems rest

def shownEntries : List (Text × Json) → List (Text × Text)
  | [] => []
  | (k, v) :: rest => (k.quote, shown v) :: shownEntries rest

end

/-- A value as messages show it by itself: a text stands without quotes. -/
def display : Json → Text
  | str s => s
  | v => shown v

end Json

end AngularLint
