import AngularLint.Document.Basic
import AngularLint.Rule.Registry
import AngularLint.Text.Lower

/-!
# Settings of rules

A setting says how much a rule weighs and gives it its options. A document writes it as a severity
alone, or as a list of a severity and options. The severity may be a word, a number or a truth
value; the options must have the shapes that the rule states for them.

When a setting is at fault in several ways, one fault is told: the severity before the options, and
of the options their number before the first option itself, and that before what is inside it.
-/

set_option autoImplicit false

namespace AngularLint

/-- How much a rule weighs, and its options. -/
structure Setting where
  severity : Severity
  options : List Json

/-- Settings by the ids of rules, in the order in which the ids came. -/
abbrev Settings := List (Text × Setting)

namespace Settings

/-- Adds a setting. A rule that has one keeps its place and takes the new one. -/
def insert (id : Text) (setting : Setting) : Settings → Settings
  | [] => [(id, setting)]
  | e :: rest => if e.1 == id then (id, setting) :: rest else e :: insert id setting rest

def erase (id : Text) (settings : Settings) : Settings := settings.filter fun e => e.1 != id

/-- The setting of a rule. Without one, a recommended rule is an error and any other is off. -/
def settingFor {σ : Type} (rule : Rule σ) (settings : Settings) : Setting :=
  (settings.lookup rule.id).getD ⟨if rule.recommended then .error else .off, []⟩

end Settings

/-- What is wrong with the options of a setting. Values are given as they are shown. -/
inductive OptionFault where
  /-- There are more options than the rule has. -/
  | tooMany (options : Text) (limit : Nat)
  | notObject (option : Text)
  /-- An option has keys that the rule does not know. -/
  | unexpectedKeys (keys : List Text)
  | notText (value : Text)

def OptionFault.message : OptionFault → Text
  | .tooMany options limit =>
    options ++ (if limit == 0 then " is expected to be empty" else " is too long")
  | .notObject option => option ++ " is not of type 'object'"
  | .unexpectedKeys keys =>
    "Additional properties are not allowed (" ++ Shown.commas keys ++
      (if keys.length == 1 then " was" else " were") ++ " unexpected)"
  | .notText value => value ++ " is not of type 'string'"

/-- Why a value is no setting of a rule. -/
inductive SettingFault where
  | emptyList (rule : Text)
  | unknownSeverity (value : Text)
  | invalidOptions (rule : Text) (fault : OptionFault)
  /-- The fault cannot be told, as a value cannot be shown. -/
  | untold (abort : Abort)

def SettingFault.message : SettingFault → Text
  | .emptyList rule => "empty setting for rule '" ++ rule ++ "'"
  | .unknownSeverity value => "unknown severity " ++ value
  | .invalidOptions rule fault => "invalid options for rule '" ++ rule ++ "': " ++ fault.message
  | .untold abort => abort.message

/-! ## Severities -/

namespace Severity

/-- The severity that a word stands for; case does not matter. -/
def ofWord? (word : Text) : Option Severity :=
  match word.lower.string? with
  | some "off" => some off
  | some "warn" => some warning
  | some "warning" => some warning
  | some "error" => some error
  | _ => none

def byNumber : List (Int × Severity) := [(0, off), (1, warning), (2, error)]

/-- The severity that a scalar stands for. A bare `off` in a document may have been read as the
truth value that it also is, so truth values are severities: no is off and yes is an error. -/
def ofScalar? : Scalar → Option Severity
  | .bool b => some (if b then error else off)
  | .text s => ofWord? s
  | .int n => byNumber.lookup n
  | .float x => (byNumber.find? fun e => Scalar.intIsFloat e.1 x).map (·.2)
  | _ => none

/-- The severity that a value of a document stands for. -/
def ofDatum? : Datum → Option Severity
  | .scalar s => ofScalar? s
  | .container _ => none

end Severity

/-! ## Options -/

namespace Setting

/-- A value shown, where the telling of a fault needs it. -/
def told {α : Type} : Except Abort α → Except SettingFault α
  | .ok a => .ok a
  | .error abort => .error (.untold abort)

/-- The text that a value is, if it is one. -/
def text? : Datum → Option Text
  | .scalar (.text s) => some s
  | _ => none

def isOneOf (texts : List Text) (s : Scalar) : Bool := texts.any fun t => Document.isText t s

/-- The keys of an option that its shape does not have, shown, in the order of their texts. -/
def unexpectedKeys (shape : OptionShape) (entries : List (Scalar × Datum)) :
    Except Abort (List Text) := do
  let extras := (entries.map (·.1)).filter fun key => !isOneOf shape.textKeys key
  match extras with
  | [key] => return [← Document.shownScalar key.shown]
  | _ =>
    let shown ← extras.mapM fun key =>
      return (← Document.shownScalar key.display, ← Document.shownScalar key.shown)
    return (shown.mergeSort fun a b => a.1.le b.1).map (·.2)

/-- What is wrong with an option, if anything is: what is wrong with the option itself before what
is wrong with a value in it. -/
def optionFault? [Limits] (d : Document) (shape : OptionShape) (option : Datum) :
    Except Abort (Option OptionFault) := do
  match d.entries? option with
  | none => return some (.notObject (← d.shown .option option))
  | some entries =>
    let wrong := shape.textKeys.filterMap fun key =>
      (d.get? key option).filter fun v => (text? v).isNone
    let shownWrong ← wrong.mapM (d.shown .value)
    let extras ← unexpectedKeys shape entries
    if !extras.isEmpty then return some (.unexpectedKeys extras)
    return (shownWrong.head?).map .notText

/-- What is wrong with the options of a setting, if anything is. -/
def optionsFault? [Limits] (d : Document) (shapes : List OptionShape) (options : List Datum) :
    Except Abort (Option OptionFault) := do
  let single ← (shapes.zip options).mapM fun (shape, option) => optionFault? d shape option
  if shapes.length < options.length then
    return some (.tooMany (← d.shownList options) shapes.length)
  return single.findSome? id

def optionJson (d : Document) (option : Datum) : Json :=
  .obj (((d.entries? option).getD []).filterMap fun e =>
    match e.1, text? e.2 with
    | .text key, some value => some (key, .str value)
    | _, _ => none)

def severity? [Limits] (d : Document) (v : Datum) : Except SettingFault Severity :=
  match Severity.ofDatum? v with
  | some severity => .ok severity
  | none => do throw (.unknownSeverity (← told (d.shown .severity v)))

def options? {σ : Type} [Limits] (d : Document) (rule : Rule σ) (options : List Datum) :
    Except SettingFault (List Json) := do
  match ← told (optionsFault? d rule.options options) with
  | some fault => throw (.invalidOptions rule.id fault)
  | none => return options.map (optionJson d)

/-- Reads a setting of a rule from a value of a document. -/
def ofDatum {σ : Type} [Limits] (d : Document) (rule : Rule σ) (v : Datum) :
    Except SettingFault Setting := do
  match d.items? v with
  | some [] => throw (.emptyList rule.id)
  | some (first :: rest) =>
    let severity ← severity? d first
    return ⟨severity, ← options? d rule rest⟩
  | none =>
    let severity ← severity? d v
    return ⟨severity, ← options? d rule []⟩

end Setting

end AngularLint
