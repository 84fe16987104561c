import AngularLint.Rule.Violation
import AngularLint.Tree.Walk

/-!
# Rules

A rule names the kinds of nodes it listens to, and has a callback for each of them. It is set up for
every file, and then its callbacks are called. All of this is `Work`, done move by move: it asks for
reports (`Request`), is told what came of each, and at last ends or fails. `Context.report` turns a
request into a violation, and `Context.perform` carries work out.

Rules may keep something in mind from one visit for the next, and may share it with each other. What
that is, is up to them: it is a value of a type `σ` of their choice, which all work is given and
hands on. A rule that keeps nothing in mind is given by what it asks for at each visit (`Outcome`),
and is a `Convention`.
-/

set_option autoImplicit false

namespace AngularLint

/-- The keys that an option of a rule may have; the value of each is a text. -/
structure OptionShape where
  textKeys : List Text

/-- What a rule asks to be reported. -/
structure Request where
  /-- Which of its messages. -/
  message : Text
  /-- What the report points at. -/
  anchor : Value
  /-- The values for the slots of the message. -/
  data : List (Text × Value)

/-- What a rule does, move by move, and what comes of it. A request that cannot be met is a fault,
which the rule may live with as well as with any other answer. -/
inductive Work (σ α : Type) where
  | done (result : α) (memory : σ)
  | fail (mishap : Mishap) (memory : σ)
  | report (request : Request) (next : Except Fault Violation → Work σ α)

/-- How work has ended: with a result or a mishap, and with what is kept in mind. -/
structure Ending (σ α : Type) where
  result : Except Mishap α
  memory : σ

/-- The mishap that work has ended with, if it did. -/
def Ending.fault {σ α : Type} (e : Ending σ α) : Option Mishap :=
  match e.result with
  | .ok _ => none
  | .error mishap => some mishap

/-- What a rule does at the visit of a node, with what has been kept in mind so far. -/
abbrev Callback (σ : Type) := Visit → σ → Work σ Unit

/-- What a rule sees besides the visits. -/
structure Surroundings where
  filename : Text
  options : List Json

/-- What a rule sees when it is set up for a file. -/
structure Setup extends Surroundings where
  severity : Severity

/-- What a rule says of itself. -/
structure Charter where
  id : Text
  description : Text
  category : Text
  /-- Does the rule run unless a setting says otherwise? -/
  recommended : Bool
  /-- The templates of its messages. -/
  messages : List (Text × Text)
  /-- The shapes of its options, by position. -/
  options : List OptionShape
  fixable : Option Text

/-- A rule. -/
structure Rule (σ : Type) extends Charter where
  /-- Sets the rule up for a file: what it does, by the kind of the node. Reports are possible
  already. -/
  create : Setup → σ → Work σ (List (Text × Callback σ))

/-! ## Rules that keep nothing in mind -/

/-- What such a rule makes of a visit: its requests in order, and the fault that ended its work, if
one did. -/
structure Outcome where
  requests : List Request
  fault : Option Fault

namespace Outcome

variable {σ : Type}

def silent : Outcome := ⟨[], none⟩

def single (r : Request) : Outcome := ⟨[r], none⟩

def ofLookup : Except Fault (Option Request) → Outcome
  | .ok none => silent
  | .ok (some r) => single r
  | .error fault => ⟨[], some fault⟩

/-- The work of asking for the requests in turn; one that cannot be met ends it before any later
fault. -/
def ask (fault : Option Fault) (memory : σ) : List Request → Work σ Unit
  | [] =>
    match fault with
    | none => .done () memory
    | some fault => .fail (.fault fault) memory
  | r :: rest =>
    .report r fun
      | .ok _ => ask fault memory rest
      | .error refusal => .fail (.fault refusal) memory

def work (o : Outcome) (memory : σ) : Work σ Unit := ask o.fault memory o.requests

end Outcome

/-- What a rule that keeps nothing in mind makes of the visits to nodes, by their kinds. -/
abbrev Habits := Surroundings → List (Text × (Visit → Outcome))

/-- What is made of a visit is reported, whatever is kept in mind. -/
def Callback.ofHabit {σ : Type} (habit : Visit → Outcome) : Callback σ := fun visit memory =>
  (habit visit).work memory

/-- A rule that keeps nothing in mind and does not care how much it weighs. -/
structure Convention extends Charter where
  habits : Habits

/-- Such a rule is set up without a report. -/
def Convention.rule {σ : Type} (c : Convention) : Rule σ where
  toCharter := c.toCharter
  create setup memory :=
    .done ((c.habits setup.toSurroundings).map fun e => (e.1, .ofHabit e.2)) memory

namespace OptionShape

/-- The shape of an option in the form in which rules are listed. -/
def json (s : OptionShape) : Json :=
  .obj [("type", .str "object"),
    ("properties", .obj (s.textKeys.map fun key => (key, .obj [("type", .str "string")]))),
    ("additionalProperties", .bool false)]

end OptionShape

namespace Charter

def record (c : Charter) : Json :=
  .obj [("id", .str c.id), ("description", .str c.description), ("category", .str c.category),
    ("recommended", .bool c.recommended), ("fixable", (c.fixable.map Json.str).getD .null),
    ("messages", .obj (c.messages.map fun m => (m.1, .str m.2))),
    ("schema", .arr (c.options.map OptionShape.json))]

end Charter

/-- A rule at work on a file. -/
structure Context (σ : Type) where
  rule : Rule σ
  filename : Text
  options : List Json
  severity : Severity

namespace Context

variable {σ : Type}

def setup (c : Context σ) : Setup := ⟨⟨c.filename, c.options⟩, c.severity⟩

/-- The violation that a request stands for; a request for a message that the rule does not have is
a fault. -/
def report (c : Context σ) (r : Request) : Except Fault Violation :=
  match c.rule.messages.lookup r.message with
  | none => .error (.unknownMessage c.rule.id r.message)
  | some template =>
    .ok {
      rule := c.rule.id
      severity := c.severity
      message := Template.fill template r.data
      location := .ofValue c.filename r.anchor
      messageId := r.message
      kind := r.anchor.node?.map (·.type)
      data := r.data
      category := c.rule.category }

/-- Carries work out. Every violation goes to the sink as soon as it is reported, so that it is
there however the work ends. -/
def perform {α : Type} (c : Context σ) :
    Work σ α → Array Violation → Array Violation × Ending σ α
  | .done result memory, sink => (sink, ⟨.ok result, memory⟩)
  | .fail mishap memory, sink => (sink, ⟨.error mishap, memory⟩)
  | .report r next, sink =>
    match c.report r with
    | .ok v => c.perform (next (.ok v)) (sink.push v)
    | .error fault => c.perform (next (.error fault)) sink

end Context

end AngularLint
