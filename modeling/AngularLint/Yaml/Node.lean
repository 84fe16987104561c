import AngularLint.Yaml.Event
import AngularLint.Yaml.Kind

/-!
# Graphs of nodes

A document as its text gives it: nodes with their types and contents. Nodes are numbered, and a
reference is the number of the node that it names, so a node may stand in several places and inside
itself.
-/

set_option autoImplicit false

namespace AngularLint.Yaml

/-- What a node holds: the text of a scalar, or the numbers of other nodes. -/
inductive Content where
  | scalar (text : Text)
  | sequence (items : List Nat)
  | mapping (entries : List (Nat × Nat))

/-- A node. -/
structure Node where
  kind : Kind
  content : Content

/-- The nodes of a document by number, and the number of the outermost. -/
structure Graph where
  nodes : Array Node
  root : Nat

namespace Graph

/-- A container that is being read. -/
inductive Open where
  /-- A sequence with its number and its items, the last first. -/
  | sequence (number : Nat) (items : List Nat)
  /-- A mapping with its number, its entries, the last first, and the key that waits for its
  value. -/
  | mapping (number : Nat) (entries : List (Nat × Nat)) (key : Option Nat)

/-- A document that is being read. -/
structure Builder where
  nodes : Array Node
  anchors : List (String × Nat)
  /-- The containers around the next node, the innermost first. -/
  around : List Open
  root : Option Nat

namespace Builder

def empty : Builder := ⟨#[], [], [], none⟩

def put (number : Nat) (b : Builder) : Builder :=
  match b.around with
  | [] => { b with root := some number }
  | .sequence n items :: outer => { b with around := .sequence n (number :: items) :: outer }
  | .mapping n entries none :: outer =>
    { b with around := .mapping n entries (some number) :: outer }
  | .mapping n entries (some key) :: outer =>
    { b with around := .mapping n ((key, number) :: entries) none :: outer }

/-- Adds a node under its anchor. Within a document an anchor is set once. -/
def add (anchor : Option String) (node : Node) (b : Builder) : Except Stop (Nat × Builder) :=
  let number := b.nodes.size
  let b := { b with nodes := b.nodes.push node }
  match anchor with
  | none => .ok (number, b)
  | some name =>
    if (b.anchors.lookup name).isSome then refuse .anchor
    else .ok (number, { b with anchors := (name, number) :: b.anchors })

/-- The type that marks give; without one, the given type. -/
def kindOf (marks : Marks) (default : Kind) : Kind :=
  match marks.type with
  | none => default
  | some name => if name == "!" then default else .ofName name

def close (b : Builder) : Builder :=
  let finish (number : Nat) (content : Content) (outer : List Open) : Builder :=
    put number
      { b with nodes := b.nodes.modify number fun node => { node with content }, around := outer }
  match b.around with
  | .sequence n items :: outer => finish n (.sequence items.reverse) outer
  | .mapping n entries _ :: outer => finish n (.mapping entries.reverse) outer
  | [] => b

/-- Takes an event that is not the end of the document. -/
def take (e : Event) (b : Builder) : Except Stop Builder := do
  match e with
  | .reference name =>
    match b.anchors.lookup name with
    | some number => return b.put number
    | none => refuse .anchor
  | .scalar marks plain text =>
    let kind := if plain then Kind.ofText text else kindOf marks .text
    let (number, b) ← b.add marks.anchor ⟨kind, .scalar text⟩
    return b.put number
  | .sequenceStart marks =>
    let (number, b) ← b.add marks.anchor ⟨kindOf marks .sequence, .sequence []⟩
    return { b with around := .sequence number [] :: b.around }
  | .mappingStart marks =>
    let (number, b) ← b.add marks.anchor ⟨kindOf marks .mapping, .mapping []⟩
    return { b with around := .mapping number [] none :: b.around }
  | .containerEnd => return b.close
  | .documentStart => return .empty
  | .documentEnd => return b

end Builder

/-- The graphs of documents, of which one is being read. -/
def ofEventsFrom (b : Builder) (stop : Option Stop) : List Event → Series Graph
  | [] => ⟨[], stop⟩
  | e :: rest =>
    match b.take e, e with
    | .error s, _ => ⟨[], some s⟩
    | .ok b, .documentEnd =>
      let later := ofEventsFrom .empty stop rest
      match b.root with
      | some root => ⟨⟨b.nodes, root⟩ :: later.items, later.stop⟩
      | none => later
    | .ok b, _ => ofEventsFrom b stop rest

def ofEvents (events : Series Event) : Series Graph :=
  ofEventsFrom .empty events.stop events.items

end Graph

end AngularLint.Yaml
