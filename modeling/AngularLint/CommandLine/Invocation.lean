import AngularLint.CommandLine.Arguments
import AngularLint.Rule.Violation

/-!
# Invocations

The commands of the program, what each of them takes, and the texts that tell how to use them.
-/

set_option autoImplicit false

namespace AngularLint.CommandLine

/-- What the program is asked to do. -/
inductive Invocation where
  /-- Lints dumps under the settings of files. -/
  | analyze (config : List Text) (output : Option Text) (files : List Text)
  /-- Lists the rules. -/
  | rules

/-- Which command a text on usage is about. -/
inductive Topic where
  | program
  | analyze
  | rules

/-- What ends an invocation before it begins. -/
inductive Refusal where
  | help (topic : Topic)
  | version
  | fault (topic : Topic) (fault : UsageFault)

namespace Topic

def name : Topic → String
  | program => Violation.toolName
  | analyze => Violation.toolName ++ " analyze"
  | rules => Violation.toolName ++ " rules"

def command : Topic → Command
  | program => ⟨[("-h", .help), ("--help", .help), ("--version", .version)], some .command⟩
  | analyze =>
    ⟨[("-h", .help), ("--help", .help), ("--config", .config), ("--out", .output)], some .files⟩
  | rules => ⟨[("-h", .help), ("--help", .help)], none⟩

def usage : Topic → String
  | program => "usage: ngconv [-h] [--version] \x7banalyze,rules\x7d ...\n"
  | analyze =>
    "usage: ngconv analyze [-h] [--config CONFIG_FILE [CONFIG_FILE ...]]\n" ++
    "                      [--out OUT_JSON]\n" ++
    "                      files [files ...]\n"
  | rules => "usage: ngconv rules [-h]\n"

def description : Topic → String
  | program =>
    "\nngconv: AngularJS convention checks over ESTree syntax trees\n" ++
    "\npositional arguments:\n" ++
    "  \x7banalyze,rules\x7d\n" ++
    "    analyze        Check one or more ESTree JSON dumps and emit JSON\n" ++
    "                   violations.\n" ++
    "    rules          Print the available rules as JSON.\n" ++
    "\noptions:\n" ++
    "  -h, --help       show this help message and exit\n" ++
    "  --version        show program's version number and exit\n"
  | analyze =>
    "\npositional arguments:\n" ++
    "  files                 ESTree JSON files to analyze.\n" ++
    "\noptions:\n" ++
    "  -h, --help            show this help message and exit\n" ++
    "  --config CONFIG_FILE [CONFIG_FILE ...]\n" ++
    "                        YAML config file(s) with rule settings.\n" ++
    "  --out OUT_JSON        Write violations to this JSON file instead of stdout.\n"
  | rules =>
    "\noptions:\n" ++
    "  -h, --help  show this help message and exit\n"

end Topic

/-- The version of the program, as it tells it. -/
def versionText : String := Violation.toolName ++ " " ++ Violation.toolVersion ++ "\n"

/-- Reads the words of a command line for the command of a topic. -/
def Topic.read (topic : Topic) (words : List Text) : Except Refusal Given :=
  match topic.command.read words with
  | .ok given => .ok given
  | .error .help => .error (.help topic)
  | .error .version => .error .version
  | .error (.fault fault) => .error (.fault topic fault)

def commandNames : List Text := ["analyze", "rules"]

/-- The invocation of a command, and the words that it leaves over. -/
def invocationOf (words : List Text) : Except Refusal (Invocation × List Text) :=
  match words with
  | [] => .error (.fault .program (.required Operand.command.name))
  | word :: rest =>
    match word.string? with
    | some "analyze" => do
      let given ← Topic.analyze.read rest
      return (.analyze given.config given.output (given.operands.getD []), given.leftOver)
    | some "rules" => do
      let given ← Topic.rules.read rest
      return (.rules, given.leftOver)
    | _ => .error (.fault .program (.invalidChoice word commandNames))

/-- What the words of a command line ask for. Words that are left over are refused at the very
end. -/
def Invocation.ofWords (words : List Text) : Except Refusal Invocation := do
  let given ← Topic.program.read words
  let (invocation, leftOver) ← invocationOf (given.operands.getD [])
  match given.leftOver ++ leftOver with
  | [] => return invocation
  | words => throw (.fault .program (.unrecognized words))

end AngularLint.CommandLine
