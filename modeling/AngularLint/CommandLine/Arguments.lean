import AngularLint.Text.Digit
import AngularLint.Text.Quoted
import AngularLint.Text.Shown

/-!
# Arguments of a command

A command knows switches by name and takes operands. The words of a command line are first told
apart, all of them, and then consumed from left to right. A switch may be shortened to any start
that belongs to it alone, and its argument may follow an equals sign; a switch that takes several
arguments takes all operands up to the next switch. All words behind two hyphens are operands.

Operands are taken once, where the first of them stand. Whatever is left over is not an error of the
command itself, but of the program as a whole.
-/

set_option autoImplicit false

namespace AngularLint.CommandLine

/-- What a switch asks for. -/
inductive Switch where
  | help
  | version
  | config
  | output
deriving DecidableEq

/-- How many arguments a switch takes. -/
inductive Arity where
  | none
  | one
  | oneOrMore

namespace Switch

def arity : Switch → Arity
  | help => .none
  | version => .none
  | config => .oneOrMore
  | output => .one

/-- The names of the switch, as messages list them. -/
def shown : Switch → String
  | help => "-h/--help"
  | version => "--version"
  | config => "--config"
  | output => "--out"

end Switch

/-- Why a command line is not understood. -/
inductive UsageFault where
  | required (operand : String)
  | unrecognized (words : List Text)
  | invalidChoice (word : Text) (choices : List Text)
  | expectsOne (switch : Switch)
  | expectsSome (switch : Switch)
  /-- A switch that takes no argument has one attached. -/
  | ignored (switch : Switch) (argument : Text)
  | ambiguous (word : Text) (names : List Text)

def UsageFault.message : UsageFault → Text
  | required operand => s!"the following arguments are required: {operand}"
  | unrecognized words => "unrecognized arguments: " ++ Text.intercalate " " words
  | invalidChoice word choices =>
    "argument command: invalid choice: " ++ word.quote ++ " (choose from " ++
      Shown.commas (choices.map Text.quote) ++ ")"
  | expectsOne switch => s!"argument {switch.shown}: expected one argument"
  | expectsSome switch => s!"argument {switch.shown}: expected at least one argument"
  | ignored switch argument =>
    s!"argument {switch.shown}: ignored explicit argument " ++ argument.quote
  | ambiguous word names =>
    "ambiguous option: " ++ word ++ " could match " ++ Shown.commas names

/-- What a command is given besides switches. -/
inductive Operand where
  /-- A command, with all words behind it. -/
  | command
  | files

def Operand.name : Operand → String
  | command => "command"
  | files => "files"

/-- What a command takes. -/
structure Command where
  switches : List (Text × Switch)
  operand : Option Operand

/-- What a word of a command line is. -/
inductive Word where
  | operand (text : Text)
  | terminator
  /-- A word that looks like a switch and is none. -/
  | unknown (text : Text)
  /-- A switch, by the name that the word gives it, with what is attached to the name. -/
  | switch (text name : Text) (switch : Switch) (attached : Option Text)

namespace Word

def terminatorText : Text := "--"

def text : Word → Text
  | operand text => text
  | terminator => terminatorText
  | unknown text => text
  | switch text _ _ _ => text

def isSwitch : Word → Bool
  | unknown _ => true
  | switch _ _ _ _ => true
  | _ => false

def isOperand : Word → Bool
  | operand _ => true
  | _ => false

end Word

/-! ## Telling words apart -/

def hyphen : CodePoint := .char '-'

def isLong (word : Text) : Bool := word.points.take 2 == [hyphen, hyphen]

/-- The text up to an equals sign, and the text behind it. -/
def splitAtEquals (word : Text) : Text × Option Text :=
  match word.points.dropWhile (· != .char '=') with
  | [] => (word, none)
  | _ :: rest => (⟨word.points.takeWhile (· != .char '=')⟩, some ⟨rest⟩)

def isDigit (c : CodePoint) : Bool := c.isChar fun c => (Text.digit? c).isSome

/-- Are there digits and nothing else, and at least one? -/
def isDigits (s : List CodePoint) : Bool := !s.isEmpty && s.all isDigit

/-- Is the text behind a hyphen that of a negative number? A line feed at its end does not count. -/
def isNegativeNumber (behindHyphen : List CodePoint) : Bool :=
  let s :=
    if behindHyphen.getLast? == some (.char '\n') then behindHyphen.dropLast else behindHyphen
  let isFraction := match s.dropWhile (· != .char '.') with
    | _ :: fraction => isDigits fraction && (s.takeWhile (· != .char '.')).all isDigit
    | [] => false
  isDigits s || isFraction

namespace Command

def switch? (c : Command) (name : Text) : Option Switch := c.switches.lookup name

/-- A word that begins with a hyphen and is no switch by its full name: a switch by the start of its
name, a short switch with text attached, a negative number, or nothing known. -/
def unnamed (c : Command) (word : Text) : Except UsageFault Word :=
  let otherwise : Word :=
    if isNegativeNumber (word.points.drop 1) || word.contains ' ' then .operand word
    else .unknown word
  if isLong word then
    let (start, argument) := splitAtEquals word
    match c.switches.filter fun e => start.points.isPrefixOf e.1.points with
    | [] => .ok otherwise
    | [(name, switch)] => .ok (.switch word name switch argument)
    | several => .error (.ambiguous word (several.map (·.1)))
  else
    let short : Text := ⟨word.points.take 2⟩
    match c.switch? short with
    | some switch => .ok (.switch word short switch (some ⟨word.points.drop 2⟩))
    | none => .ok otherwise

/-- What a word is, if it does not stand behind two hyphens. -/
def classify (c : Command) (word : Text) : Except UsageFault Word :=
  if word.points.head? != some hyphen then .ok (.operand word)
  else match c.switch? word with
    | some switch => .ok (.switch word word switch none)
    | none =>
      if word.length == 1 then .ok (.operand word)
      else match splitAtEquals word with
        | (name, some argument) =>
          match c.switch? name with
          | some switch => .ok (.switch word name switch (some argument))
          | none => c.unnamed word
        | (_, none) => c.unnamed word

def words (c : Command) : List Text → Except UsageFault (List Word)
  | [] => .ok []
  | text :: rest => do
    if text == Word.terminatorText then return .terminator :: rest.map .operand
    let word ← c.classify text
    return word :: (← c.words rest)

end Command

/-! ## Consuming words -/

/-- What a command line gives to a command. -/
structure Given where
  config : List Text
  output : Option Text
  operands : Option (List Text)
  leftOver : List Text

/-- What ends the reading of a command line before its end. -/
inductive Ending where
  | help
  | version
  | fault (fault : UsageFault)

namespace Given

def nothing : Given := ⟨[], none, none, []⟩

def leave (texts : List Text) (g : Given) : Given := { g with leftOver := g.leftOver ++ texts }

/-- What a switch does with its arguments. A switch that is given again counts anew. -/
def apply (s : Switch) (arguments : List Text) (g : Given) : Except Ending Given :=
  match s with
  | .help => .error .help
  | .version => .error .version
  | .config => .ok { g with config := arguments }
  | .output => .ok { g with output := arguments.head? }

/-- What is wrong with text behind a short switch that takes no argument: every letter of it has to
be a short switch of its own. -/
def letterFault? (c : Command) (s : Switch) : List CodePoint → Option UsageFault
  | [] => none
  | letter :: rest =>
    match c.switch? ⟨[hyphen, letter]⟩ with
    | none => some (.ignored s ⟨letter :: rest⟩)
    | some next => letterFault? c next rest

def attached (c : Command) (name : Text) (s : Switch) (argument : Text) (g : Given) :
    Except Ending Given :=
  match s.arity with
  | .none =>
    if argument.isEmpty || isLong name then .error (.fault (.ignored s argument))
    else match letterFault? c s argument.points with
      | some fault => .error (.fault fault)
      | none => g.apply s []
  | .one => g.apply s [argument]
  | .oneOrMore => g.apply s [argument]

/-- The operands that a switch takes from the words behind it. -/
def argumentsOf (s : Switch) (rest : List Word) : Except Ending (List Word) :=
  match s.arity with
  | .none => .ok []
  | .one =>
    match rest with
    | .operand text :: _ => .ok [.operand text]
    | _ => .error (.fault (.expectsOne s))
  | .oneOrMore =>
    match rest.takeWhile Word.isOperand with
    | [] => .error (.fault (.expectsSome s))
    | arguments => .ok arguments

/-- How many of the words are operands of the command: none if it has been given its operands. -/
def operandCount (c : Command) (ws : List Word) (g : Given) : Nat :=
  let run := ws.takeWhile fun w => !w.isSwitch
  if g.operands.isSome || !run.any Word.isOperand then 0
  else match c.operand with
    | none => 0
    | some .files => run.length
    | some .command => ws.length

/-- The texts of operands. Of files, the two hyphens before or among them are dropped. -/
def operandTexts (c : Command) (ws : List Word) : List Text :=
  match c.operand with
  | some .files => (ws.map Word.text).erase Word.terminatorText
  | _ => ws.map Word.text

/-- Consumes words, `steps` at most; no step consumes less than one word. -/
def consume (c : Command) (g : Given) : Nat → List Word → Except Ending Given
  | 0, _ => .ok g
  | _, [] => .ok g
  | steps + 1, .unknown text :: rest => consume c (g.leave [text]) steps rest
  | steps + 1, .switch _ name s (some a) :: rest => do
    consume c (← g.attached c name s a) steps rest
  | steps + 1, .switch _ _ s none :: rest => do
    let arguments ← argumentsOf s rest
    let g ← g.apply s (arguments.map Word.text)
    consume c g steps (rest.drop arguments.length)
  | steps + 1, w :: rest =>
    match g.operandCount c (w :: rest) with
    | 0 => consume c (g.leave [w.text]) steps rest
    | n + 1 =>
      let operands := operandTexts c ((w :: rest).take (n + 1))
      consume c { g with operands := some operands } steps (rest.drop n)

end Given

def Command.read (c : Command) (texts : List Text) : Except Ending Given := do
  let words ← match c.words texts with
    | .ok words => pure words
    | .error fault => throw (.fault fault)
  let given ← Given.consume c .nothing words.length words
  match c.operand, given.operands with
  | some operand, none => throw (.fault (.required operand.name))
  | _, _ => return given

end AngularLint.CommandLine
