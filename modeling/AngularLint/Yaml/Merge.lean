import AngularLint.Limits
import AngularLint.Yaml.Node

/-!
# Merging mappings

A mapping may take over the entries of other mappings under the merge key. They come before its own
entries, which therefore win; of several mappings, the first wins. Merging changes the graph, so
that a mapping that is merged in several places is itself merged once. Mappings that take over from
each other in a row must not be too many.
-/

set_option autoImplicit false

namespace AngularLint.Yaml.Graph

abbrev Nodes := Array Node

def kindAt (nodes : Nodes) (number : Nat) : Kind := (nodes[number]?.map (·.kind)).getD .unknown

def entriesAt? (nodes : Nodes) (number : Nat) : Option (List (Nat × Nat)) :=
  match nodes[number]? with
  | some ⟨_, .mapping entries⟩ => some entries
  | _ => none

def itemsAt? (nodes : Nodes) (number : Nat) : Option (List Nat) :=
  match nodes[number]? with
  | some ⟨_, .sequence items⟩ => some items
  | _ => none

def setEntries (number : Nat) (entries : List (Nat × Nat)) (nodes : Nodes) : Nodes :=
  nodes.modify number fun node => { node with content := .mapping entries }

def textKeys (entries : List (Nat × Nat)) (nodes : Nodes) : Nodes :=
  entries.foldl (fun nodes e =>
    if kindAt nodes e.1 == .value then nodes.modify e.1 fun node => { node with kind := .text }
    else nodes) nodes

/-- The number of the first merge key from an index on. -/
def mergeKey? (nodes : Nodes) (from' : Nat) (entries : List (Nat × Nat)) : Option Nat :=
  ((entries.drop from').findIdx? fun e => kindAt nodes e.1 == .merge).map (from' + ·)

/-- The mappings that are to be merged: the value of a merge key, or the items of a sequence. -/
def sources (nodes : Nodes) (value : Nat) : Except Stop (List Nat) :=
  if (entriesAt? nodes value).isSome then .ok [value]
  else match itemsAt? nodes value with
    | some items =>
      if items.all fun n => (entriesAt? nodes n).isSome then .ok items else refuse .value
    | none => refuse .value

mutual

/-- Merges what the merge keys of a mapping name, from an index on; `merged` holds the entries taken
over so far. Every merge key is dropped before what it names is looked at, so the number of merge
keys in the graph bounds the steps. At most `around` mappings may still be looked into. -/
def mergeFrom (nodes : Nodes) (number from' around : Nat) (merged : List (Nat × Nat)) :
    Nat → Except Stop Nodes
  | 0 => refuse .value
  | steps + 1 => do
    let entries := (entriesAt? nodes number).getD []
    match mergeKey? nodes from' entries with
    | none =>
      let nodes := textKeys entries nodes
      return if merged.isEmpty then nodes else setEntries number (merged ++ entries) nodes
    | some i =>
      let value := ((entries[i]?).map (·.2)).getD number
      let nodes := setEntries number (entries.eraseIdx i) nodes
      let sources ← sources nodes value
      let (nodes, taken) ← mergeSources nodes sources around steps
      mergeFrom nodes number i around (merged ++ taken) steps

/-- Merges the sources of a merge key each in itself, and collects their entries, those of the last
first. -/
def mergeSources (nodes : Nodes) (sources : List Nat) (around : Nat) :
    Nat → Except Stop (Nodes × List (Nat × Nat))
  | 0 => refuse .value
  | steps + 1 =>
    match sources with
    | [] => .ok (nodes, [])
    | source :: rest => do
      if around == 0 then giveUp (.tooDeep .merging)
      let nodes ← mergeFrom nodes source 0 (around - 1) [] steps
      let entries := (entriesAt? nodes source).getD []
      let (nodes, later) ← mergeSources nodes rest around steps
      return (nodes, later ++ entries)

end

/-- A bound for the steps of merging: there are at most as many merge keys as there are entries, and
each of them names at most as many mappings as there are items. -/
def mergeSteps (nodes : Nodes) : Nat :=
  let size := nodes.foldl (fun n node => match node.content with
    | .mapping entries => n + entries.length
    | .sequence items => n + items.length
    | .scalar _ => n) 0
  (size + 2) * (size + 2)

/-- The graph with the merge keys of a mapping resolved. -/
def merge [Limits] (nodes : Nodes) (number : Nat) : Except Stop Nodes :=
  mergeFrom nodes number 0 Limits.merge [] (mergeSteps nodes)

end AngularLint.Yaml.Graph
