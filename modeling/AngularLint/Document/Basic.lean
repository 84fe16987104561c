import AngularLint.Abort
import AngularLint.Document.SetOrder
import AngularLint.Json.Basic
import AngularLint.Limits

/-!
# Documents

A document is a graph: a container may be held in several places, and may even hold itself. The
containers are numbered, and a value is a scalar or the number of a container. Mappings and sets
keep the order in which their keys came.

When a value is shown, a container that is met again inside itself is shown by dots.
-/

set_option autoImplicit false

namespace AngularLint

/-- A value of a document. -/
inductive Datum where
  | scalar (s : Scalar)
  | container (number : Nat)

/-- What a container holds. -/
inductive Container where
  | list (items : List Datum)
  | mapping (entries : List (Scalar × Datum))
  | set (members : List Scalar)
  | pair (first second : Datum)

def Container.isEmpty : Container → Bool
  | .list items => items.isEmpty
  | .mapping entries => entries.isEmpty
  | .set members => members.isEmpty
  | .pair _ _ => false

/-- How many containers a container puts around what is in it: a set shows its members as a list. -/
def Container.walls : Container → Nat
  | .set _ => 2
  | _ => 1

/-- How a container that is met inside itself is shown. -/
def Container.dots : Container → Text
  | .list _ => "[...]"
  | .mapping _ => "\x7b...\x7d"
  | .set _ => "set(...)"
  | .pair _ _ => "(...)"

/-- A document: its containers by number, and its value. -/
structure Document where
  containers : Array Container
  root : Datum

namespace Document

/-- The container that a value is, if it is one. -/
def container? (d : Document) : Datum → Option Container
  | .scalar _ => none
  | .container n => d.containers[n]?

def items? (d : Document) (v : Datum) : Option (List Datum) :=
  match d.container? v with
  | some (.list items) => some items
  | _ => none

def entries? (d : Document) (v : Datum) : Option (List (Scalar × Datum)) :=
  match d.container? v with
  | some (.mapping entries) => some entries
  | _ => none

def isText (text : Text) : Scalar → Bool
  | .text s => s == text
  | _ => false

def get? (d : Document) (key : Text) (v : Datum) : Option Datum :=
  (d.entries? v).bind fun entries => (entries.find? fun e => isText key e.1).map (·.2)

/-! ## Showing values -/

/-- The outcome of showing a scalar, as one of showing a value. -/
def shownScalar (r : Except Text.IntegerFault Text) : Except Abort Text := r.mapError .integer

/-- A container, with what is in it shown by a function. -/
def shownWith (inside : Datum → Except Abort Text) : Container → Except Abort Text
  | .list items => (items.mapM inside).map Shown.list
  | .mapping entries =>
    (entries.mapM fun e : Scalar × Datum => do
      return (← inside (.scalar e.1), ← inside e.2)).map Shown.mapping
  | .set members => ((SetOrder.arrange members).mapM fun s => inside (.scalar s)).map Shown.set
  | .pair first second => do return Shown.pair (← inside first) (← inside second)

/-- A value inside the given containers, with at most `depth` more around anything in it. -/
def shownAt (d : Document) : Nat → List Nat → Datum → Except Abort Text
  | _, _, .scalar s => shownScalar s.shown
  | depth, around, .container n =>
    match d.containers[n]? with
    | none => .ok ""
    | some c =>
      if around.contains n then .ok c.dots
      else if !c.isEmpty && depth < c.walls then .error (.tooDeep .showing)
      else
        match depth with
        | 0 => shownWith (fun _ => .ok "") c
        | depth + 1 => shownWith (shownAt d depth (n :: around)) c

section
variable [Limits]

/-- What stands at some place of a setting, shown. -/
def shown (d : Document) (exhibit : Exhibit) (v : Datum) : Except Abort Text :=
  d.shownAt (Limits.exhibit exhibit) [] v

def shownList (d : Document) (vs : List Datum) : Except Abort Text :=
  (vs.mapM (d.shown .options)).map Shown.list

end

end Document

end AngularLint
