import AngularLint.Limits
import AngularLint.Yaml.Glyph
import AngularLint.Yaml.Token

/-!
# Events of YAML

What the tokens of a text say: where documents and containers begin and end, and what stands in
them. The grammar is predictive. What may come next is kept on a stack of expectations, and the next
token alone decides how the uppermost of them is met: by events, by new expectations, or not at all.
-/

set_option autoImplicit false

namespace AngularLint.Yaml

/-- The name and the type that a node may carry. A type is given in full. -/
structure Marks where
  anchor : Option String
  type : Option String

/-- An event. -/
inductive Event where
  | documentStart
  | documentEnd
  | reference (name : String)
  | scalar (marks : Marks) (plain : Bool) (text : Text)
  | sequenceStart (marks : Marks)
  | mappingStart (marks : Marks)
  /-- The end of the innermost container. -/
  | containerEnd

/-- Where a node stands, which decides how it may be written. -/
inductive Position where
  | block
  /-- A sequence may stand here without indentation of its own. -/
  | blockOrEntries
  | flow
deriving DecidableEq

/-- What may come next. -/
inductive Expectation where
  /-- A document that may begin without a line of its own. -/
  | firstDocument
  | document
  | documentContent
  | documentEnd
  | node (position : Position)
  | blockItem
  /-- An item of a sequence without indentation of its own. -/
  | entryItem
  | blockKey
  | blockValue
  | flowItem (first : Bool)
  /-- The parts of a mapping with one key that stands in a sequence without brackets of its own. -/
  | pairKey
  | pairValue
  | pairEnd
  | flowKey (first : Bool)
  | flowValue
  /-- A value that is left out, as its key stood without a mark. -/
  | noValue

/-- The place in the tokens: what may come next, the uppermost first; the meanings of the handles of
types; and the tokens left. -/
structure Grammar where
  expected : List Expectation
  handles : List (String × String)
  tokens : List Token
  /-- What stops the reading behind the last token. -/
  stop : Option Stop

namespace Grammar

def standardHandles : List (String × String) := [("!", "!"), ("!!", "tag:yaml.org,2002:")]

def emptyNode : Event := .scalar ⟨none, none⟩ true ""

/-- The next token; behind the last one stands what has stopped the reading. -/
def peek (g : Grammar) : Except Stop Token :=
  match g.tokens with
  | t :: _ => .ok t
  | [] => .error (g.stop.getD (.fault .grammar))

def skip (g : Grammar) : Grammar := { g with tokens := g.tokens.drop 1 }

def expect (es : List Expectation) (g : Grammar) : Grammar :=
  { g with expected := es ++ g.expected }

/-- A node, or nothing where one of the tokens shows that it is left out. -/
def nodeUnless (omitted : List Token) (position : Position) (after : List Expectation)
    (g : Grammar) : Except Stop (List Event × Grammar) := do
  if omitted.contains (← g.peek) then return ([emptyNode], g.expect after)
  else return ([], g.expect (.node position :: after))

/-! ## Documents -/

/-- The handles in front of a document, and the place behind the directives. A document has at most
one version, and its major number is one. -/
def directives (version : Bool) (handles : List (String × String)) (stop : Option Stop) :
    List Token → Except Stop (List (String × String) × List Token)
  | .directive (.version major _) :: rest =>
    if version || major != 1 then refuse .grammar else directives true handles stop rest
  | .directive (.handle name text) :: rest =>
    if (handles.lookup name).isSome then refuse .grammar
    else directives version (handles ++ [(name, text)]) stop rest
  | .directive .unknown :: rest => directives version handles stop rest
  | rest => .ok (handles ++ standardHandles, rest)

/-- A document with a line of its own, behind all ends of documents, or the end of the text. -/
def document (g : Grammar) : Except Stop (List Event × Grammar) := do
  let g := { g with tokens := g.tokens.dropWhile (· == Token.documentEnd) }
  if (← g.peek) == .streamEnd then return ([], { g with expected := [] })
  let (handles, tokens) ← directives false [] g.stop g.tokens
  let g := { g with handles, tokens }
  if (← g.peek) != .documentStart then refuse .grammar
  return ([.documentStart], g.skip.expect [.documentContent, .documentEnd])

def isOutside : Token → Bool
  | .directive _ => true
  | .documentStart => true
  | .documentEnd => true
  | .streamEnd => true
  | _ => false

def firstDocument (g : Grammar) : Except Stop (List Event × Grammar) := do
  match ← g.peek with
  | .directive _ => return ([], g.expect [.document])
  | .documentStart => return ([], g.expect [.document])
  | .streamEnd => return ([], g.expect [.document])
  | _ =>
    return ([.documentStart],
      { g with handles := standardHandles }.expect [.node .block, .documentEnd])

/-- The content of a document, which may be left out. -/
def documentContent (g : Grammar) : Except Stop (List Event × Grammar) := do
  if isOutside (← g.peek) then return ([emptyNode], g)
  else return ([], g.expect [.node .block])

def documentEnd (g : Grammar) : Except Stop (List Event × Grammar) := do
  let g := if (← g.peek) == .documentEnd then g.skip else g
  return ([.documentEnd], g.expect [.document])

/-! ## Nodes -/

/-- The type in full: what its handle stands for, and the rest. -/
def fullType (g : Grammar) (handle : Option String) (rest : String) : Except Stop String :=
  match handle with
  | none => .ok rest
  | some name =>
    match g.handles.lookup name with
    | some text => .ok (text ++ rest)
    | none => refuse .grammar

/-- The marks in front of a node, an anchor and a type in either order. -/
def marks (g : Grammar) : Except Stop (Marks × Grammar) := do
  match ← g.peek with
  | .anchor name =>
    match ← g.skip.peek with
    | .type handle rest => return (⟨some name, some (← g.fullType handle rest)⟩, g.skip.skip)
    | _ => return (⟨some name, none⟩, g.skip)
  | .type handle rest =>
    match ← g.skip.peek with
    | .anchor name => return (⟨some name, some (← g.fullType handle rest)⟩, g.skip.skip)
    | _ => return (⟨none, some (← g.fullType handle rest)⟩, g.skip)
  | _ => return (⟨none, none⟩, g)

/-- Does a scalar take its type from its text? A plain one does that carries no type, and one that
carries the mark of a type without a name. -/
def isUntyped (marks : Marks) (plain : Bool) : Bool :=
  (plain && marks.type.isNone) || marks.type == some "!"

def node (position : Position) (g : Grammar) : Except Stop (List Event × Grammar) := do
  match ← g.peek with
  | .reference name => return ([.reference name], g.skip)
  | _ =>
    let (marks, g) ← g.marks
    let isBlock := position != .flow
    match ← g.peek with
    | .blockEntry =>
      if position == .blockOrEntries then return ([.sequenceStart marks], g.expect [.entryItem])
      else empty marks g
    | .scalar plain text => return ([.scalar marks (isUntyped marks plain) text], g.skip)
    | .flowSequenceStart => return ([.sequenceStart marks], g.skip.expect [.flowItem true])
    | .flowMappingStart => return ([.mappingStart marks], g.skip.expect [.flowKey true])
    | .blockSequenceStart =>
      if isBlock then return ([.sequenceStart marks], g.skip.expect [.blockItem])
      else empty marks g
    | .blockMappingStart =>
      if isBlock then return ([.mappingStart marks], g.skip.expect [.blockKey])
      else empty marks g
    | _ => empty marks g
where
  /-- A node without content, which has to carry a mark. -/
  empty (marks : Marks) (g : Grammar) : Except Stop (List Event × Grammar) :=
    if marks.anchor.isSome || marks.type.isSome then
      .ok ([.scalar marks (isUntyped marks true) ""], g)
    else refuse .grammar

/-! ## Blocks -/

/-- An item of a sequence, or its end. -/
def blockItem (g : Grammar) : Except Stop (List Event × Grammar) := do
  match ← g.peek with
  | .blockEntry => g.skip.nodeUnless [.blockEntry, .blockEnd] .block [.blockItem]
  | .blockEnd => return ([.containerEnd], g.skip)
  | _ => refuse .grammar

/-- An item of a sequence without indentation of its own, or its end. -/
def entryItem (g : Grammar) : Except Stop (List Event × Grammar) := do
  match ← g.peek with
  | .blockEntry => g.skip.nodeUnless [.blockEntry, .key, .value, .blockEnd] .block [.entryItem]
  | _ => return ([.containerEnd], g)

/-- A key of a mapping, or the end of the mapping. -/
def blockKey (g : Grammar) : Except Stop (List Event × Grammar) := do
  match ← g.peek with
  | .key => g.skip.nodeUnless [.key, .value, .blockEnd] .blockOrEntries [.blockValue]
  | .blockEnd => return ([.containerEnd], g.skip)
  | _ => refuse .grammar

/-- The value of a key, which may be left out. -/
def blockValue (g : Grammar) : Except Stop (List Event × Grammar) := do
  match ← g.peek with
  | .value => g.skip.nodeUnless [.key, .value, .blockEnd] .blockOrEntries [.blockKey]
  | _ => return ([emptyNode], g.expect [.blockKey])

/-! ## Brackets -/

/-- The place behind the comma that stands between the parts of a container. -/
def behindComma (first : Bool) (g : Grammar) : Except Stop Grammar := do
  if first then return g
  else if (← g.peek) == .flowEntry then return g.skip
  else refuse .grammar

/-- An item of a sequence, or its end. -/
def flowItem (first : Bool) (g : Grammar) : Except Stop (List Event × Grammar) := do
  if (← g.peek) == .flowSequenceEnd then return ([.containerEnd], g.skip)
  let g ← g.behindComma first
  match ← g.peek with
  | .key =>
    return ([.mappingStart ⟨none, none⟩],
      g.skip.expect [.pairKey, .pairValue, .pairEnd, .flowItem false])
  | .flowSequenceEnd => return ([.containerEnd], g.skip)
  | _ => return ([], g.expect [.node .flow, .flowItem false])

def pairKey (g : Grammar) : Except Stop (List Event × Grammar) :=
  g.nodeUnless [.value, .flowEntry, .flowSequenceEnd] .flow []

def pairValue (g : Grammar) : Except Stop (List Event × Grammar) := do
  match ← g.peek with
  | .value => g.skip.nodeUnless [.flowEntry, .flowSequenceEnd] .flow []
  | _ => return ([emptyNode], g)

/-- A key of a mapping, or the end of the mapping. -/
def flowKey (first : Bool) (g : Grammar) : Except Stop (List Event × Grammar) := do
  if (← g.peek) == .flowMappingEnd then return ([.containerEnd], g.skip)
  let g ← g.behindComma first
  match ← g.peek with
  | .key => g.skip.nodeUnless [.value, .flowEntry, .flowMappingEnd] .flow [.flowValue]
  | .flowMappingEnd => return ([.containerEnd], g.skip)
  | _ => return ([], g.expect [.node .flow, .noValue])

/-- The value of a key, which may be left out. -/
def flowValue (g : Grammar) : Except Stop (List Event × Grammar) := do
  match ← g.peek with
  | .value => g.skip.nodeUnless [.flowEntry, .flowMappingEnd] .flow [.flowKey false]
  | _ => return ([emptyNode], g.expect [.flowKey false])

def meet (g : Grammar) : Expectation → Except Stop (List Event × Grammar)
  | .firstDocument => g.firstDocument
  | .document => g.document
  | .documentContent => g.documentContent
  | .documentEnd => g.documentEnd
  | .node position => g.node position
  | .blockItem => g.blockItem
  | .entryItem => g.entryItem
  | .blockKey => g.blockKey
  | .blockValue => g.blockValue
  | .flowItem first => g.flowItem first
  | .pairKey => g.pairKey
  | .pairValue => g.pairValue
  | .pairEnd => .ok ([.containerEnd], g)
  | .flowKey first => g.flowKey first
  | .flowValue => g.flowValue
  | .noValue => .ok ([emptyNode], g.expect [.flowKey false])

/-- Is there one such expectation for every open container? -/
def isInside : Expectation → Bool
  | .blockItem => true
  | .entryItem => true
  | .blockKey => true
  | .blockValue => true
  | .flowItem _ => true
  | .pairEnd => true
  | .flowKey _ => true
  | .flowValue => true
  | .noValue => true
  | _ => false

/-- The most containers that may be open around a token. The reading of a key or of an item takes
the most frames. -/
def maxOpen [Limits] : Option Token → Nat
  | some .key => Limits.document
  | some .blockEntry => Limits.document
  | some (.scalar _ _) => Limits.document + 1
  | _ => Limits.document + 2

/-- What is being read where too many containers are open. -/
def deepWork (g : Grammar) : DeepWork :=
  match g.tokens with
  | .flowSequenceStart :: _ => .opening
  | .flowMappingStart :: _ => .opening
  | .key :: .scalar false _ :: _ => .opening
  | _ => .building

/-- Meets the uppermost expectations, at most `steps` of them. -/
def run [Limits] (events : List Event) : Nat → Grammar → Series Event
  | 0, _ => ⟨events.reverse, some (.fault .grammar)⟩
  | steps + 1, g =>
    match g.expected with
    | [] => ⟨events.reverse, none⟩
    | e :: rest =>
      if maxOpen g.tokens.head? < g.expected.countP isInside then
        ⟨events.reverse, some (.abort (.tooDeep g.deepWork))⟩
      else
        match meet { g with expected := rest } e with
        | .error stop => ⟨events.reverse, some stop⟩
        | .ok (new, g) => run (new.reverse ++ events) steps g

/-- The most expectations that a token brings with it. -/
def stepsPerToken : Nat := 8

end Grammar

def Event.ofTokens [Limits] (tokens : Series Token) : Series Event :=
  Grammar.run [] (Grammar.stepsPerToken * (tokens.items.length + 1))
    ⟨[.firstDocument], [], tokens.items, tokens.stop⟩

end AngularLint.Yaml
