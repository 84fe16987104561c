import AngularLint.Document.Basic
import AngularLint.Yaml.Merge
import AngularLint.Yaml.ScalarValue
import AngularLint.Yaml.Token.Scanner

/-!
# From a text to documents

A graph of typed nodes becomes a document breadth first: a container is made empty when it is first
met, and filled when its turn comes. So a container may hold itself, and of two values that are at
fault, the one nearer to the root is found first.
-/

set_option autoImplicit false

namespace AngularLint.Yaml

/-- A graph that is becoming a document. -/
structure Making where
  nodes : Array Node
  containers : Array Container
  /-- What has become of each node. -/
  made : Array (Option Datum)
  /-- The containers to be filled, by node and by number, in turn. -/
  queue : Array (Nat × Nat)
  /-- The number of containers of the queue whose turn has come. -/
  filled : Nat

namespace Making

def start (nodes : Array Node) : Making := ⟨nodes, #[], Array.replicate nodes.size none, #[], 0⟩

/-- The text of a node that stands for a scalar: its own, or that of the value key of a mapping. A
mapping may stand for itself in this way, and then there is no text. -/
def textAt (nodes : Array Node) : Nat → Nat → Except Stop Text
  | 0, _ => giveUp (.tooDeep .building)
  | depth + 1, number =>
    match nodes[number]? with
    | some ⟨_, .scalar text⟩ => .ok text
    | some ⟨_, .mapping entries⟩ =>
      match entries.find? fun e => Graph.kindAt nodes e.1 == .value with
      | some e => textAt nodes depth e.2
      | none => refuse .value
    | _ => refuse .value

/-- Makes an empty container, to be filled later. -/
def enqueue (number : Nat) (empty : Container) (m : Making) : Making × Datum :=
  let datum := Datum.container m.containers.size
  ({ m with
      containers := m.containers.push empty
      made := m.made.setIfInBounds number (some datum)
      queue := m.queue.push (number, m.containers.size) }, datum)

/-- What becomes of a node, which is made when it is first met. -/
def datum [Limits] (m : Making) (number : Nat) : Except Stop (Making × Datum) := do
  if let some (some d) := m.made[number]? then return (m, d)
  let scalar (read : Text → Except Stop Scalar) : Except Stop (Making × Datum) := do
    let text ← textAt m.nodes Limits.text number
    return (m, .scalar (← read text))
  match Graph.kindAt m.nodes number with
  | .null => scalar fun _ => .ok .null
  | .bool => scalar ScalarValue.bool
  | .int => scalar ScalarValue.int
  | .float => scalar (ScalarValue.float number)
  | .binary => scalar ScalarValue.binary
  | .timestamp => scalar fun text =>
    if (Graph.entriesAt? m.nodes number).isSome then ScalarValue.unsuited .notText
    else ScalarValue.timestamp text
  | .text => scalar fun text => .ok (.text text)
  | .orderedMap => return m.enqueue number (.list [])
  | .pairs => return m.enqueue number (.list [])
  | .sequence => return m.enqueue number (.list [])
  | .set => return m.enqueue number (.set [])
  | .mapping => return m.enqueue number (.mapping [])
  | .merge => refuse .value
  | .value => refuse .value
  | .unknown => refuse .value

def data [Limits] (m : Making) : List Nat → Except Stop (Making × List Datum)
  | [] => .ok (m, [])
  | number :: rest => do
    let (m, d) ← m.datum number
    let (m, ds) ← m.data rest
    return (m, d :: ds)

/-- Puts an entry into a mapping. A key that is present keeps its place and takes the new value. -/
def putEntry (key : Scalar) (value : Datum) : List (Scalar × Datum) → List (Scalar × Datum)
  | [] => [(key, value)]
  | e :: rest =>
    if e.1.isSame key then (e.1, value) :: rest else e :: putEntry key value rest

/-- The entries of a mapping, whose keys have to be scalars. -/
def entries [Limits] (m : Making) (done : List (Scalar × Datum)) :
    List (Nat × Nat) → Except Stop (Making × List (Scalar × Datum))
  | [] => .ok (m, done)
  | (key, value) :: rest => do
    match ← m.datum key with
    | (_, .container _) => refuse .value
    | (m, .scalar key) =>
      let (m, value) ← m.datum value
      m.entries (putEntry key value done) rest

/-- The entries of a node, with those that it takes over from others. -/
def mergedEntries [Limits] (m : Making) (number : Nat) :
    Except Stop (Making × List (Scalar × Datum)) := do
  if (Graph.entriesAt? m.nodes number).isNone then refuse .value
  let nodes ← Graph.merge m.nodes number
  { m with nodes }.entries [] ((Graph.entriesAt? nodes number).getD [])

/-- The pairs of a list of mappings with one entry each. -/
def pairs [Limits] (m : Making) : List Nat → Except Stop (Making × List Datum)
  | [] => .ok (m, [])
  | number :: rest => do
    match Graph.entriesAt? m.nodes number with
    | some [(key, value)] =>
      let (m, key) ← m.datum key
      let (m, value) ← m.datum value
      let pair := Datum.container m.containers.size
      let (m, pairs) ← { m with containers := m.containers.push (.pair key value) }.pairs rest
      return (m, pair :: pairs)
    | _ => refuse .value

def contents [Limits] (m : Making) (number : Nat) : Except Stop (Making × Container) := do
  let items := (Graph.itemsAt? m.nodes number).getD []
  let isSequence := (Graph.itemsAt? m.nodes number).isSome
  match Graph.kindAt m.nodes number with
  | .mapping =>
    let (m, entries) ← m.mergedEntries number
    return (m, .mapping entries)
  | .set =>
    let (m, entries) ← m.mergedEntries number
    return (m, .set (entries.map (·.1)))
  | .sequence =>
    if !isSequence then refuse .value
    let (m, items) ← m.data items
    return (m, .list items)
  | _ =>
    if !isSequence then refuse .value
    let (m, pairs) ← m.pairs items
    return (m, .list pairs)

/-- Fills the containers of the queue in turn. No node is queued twice, so the number of nodes
bounds the steps. -/
def fill [Limits] (m : Making) : Nat → Except Stop Making
  | 0 => .ok m
  | steps + 1 =>
    match m.queue[m.filled]? with
    | none => .ok m
    | some (number, container) => do
      let (m, contents) ← { m with filled := m.filled + 1 }.contents number
      { m with containers := m.containers.setIfInBounds container contents }.fill steps

end Making

def Graph.document [Limits] (g : Graph) : Except Stop Document := do
  let (m, root) ← (Making.start g.nodes).datum g.root
  let m ← m.fill (g.nodes.size + 1)
  return ⟨m.containers, root⟩

/-- The documents of a text. A fault anywhere in the text leaves none of them. -/
def documents [Limits] (text : Series Char) : Except Stop (List Document) := do
  let graphs := Graph.ofEvents (Event.ofTokens (Token.ofText text))
  let documents ← graphs.items.mapM Graph.document
  match graphs.stop with
  | some stop => .error stop
  | none => return documents

end AngularLint.Yaml
