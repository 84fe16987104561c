import AngularLint.Document.Basic

/-!
# JSON values as documents

Every array and every object becomes a container of its own, numbered in the order in which they
end.
-/

set_option autoImplicit false

namespace AngularLint.Document

mutual

def addJson (containers : Array Container) : Json → Array Container × Datum
  | .null => (containers, .scalar .null)
  | .bool b => (containers, .scalar (.bool b))
  | .int n => (containers, .scalar (.int n))
  | .float x => (containers, .scalar (.float x))
  | .str s => (containers, .scalar (.text s))
  | .arr items =>
    let (containers, items) := addItems containers items
    (containers.push (.list items), .container containers.size)
  | .obj entries =>
    let (containers, entries) := addEntries containers entries
    (containers.push (.mapping entries), .container containers.size)

def addItems (containers : Array Container) : List Json → Array Container × List Datum
  | [] => (containers, [])
  | v :: rest =>
    let (containers, item) := addJson containers v
    let (containers, items) := addItems containers rest
    (containers, item :: items)

def addEntries (containers : Array Container) :
    List (Text × Json) → Array Container × List (Scalar × Datum)
  | [] => (containers, [])
  | (key, v) :: rest =>
    let (containers, value) := addJson containers v
    let (containers, entries) := addEntries containers rest
    (containers, (.text key, value) :: entries)

end

def ofJson (v : Json) : Document :=
  let (containers, root) := addJson #[] v
  ⟨containers, root⟩

end AngularLint.Document
