import AngularLint.CommandLine.Response

/-!
# The program

Reads the files that the command line names, answers, and prints or writes the answer.
-/

set_option autoImplicit false

namespace AngularLint.Main

/-- The number that the system gives an error, and its words for it. -/
def systemError : IO.Error → Nat × String
  | .alreadyExists _ code words => (code.toNat, words)
  | .otherError code words => (code.toNat, words)
  | .resourceBusy code words => (code.toNat, words)
  | .resourceVanished code words => (code.toNat, words)
  | .unsupportedOperation code words => (code.toNat, words)
  | .hardwareFault code words => (code.toNat, words)
  | .unsatisfiedConstraints code words => (code.toNat, words)
  | .illegalOperation code words => (code.toNat, words)
  | .protocolError code words => (code.toNat, words)
  | .timeExpired code words => (code.toNat, words)
  | .interrupted _ code words => (code.toNat, words)
  | .noFileOrDirectory _ code words => (code.toNat, words)
  | .invalidArgument _ code words => (code.toNat, words)
  | .permissionDenied _ code words => (code.toNat, words)
  | .resourceExhausted _ code words => (code.toNat, words)
  | .inappropriateType _ code words => (code.toNat, words)
  | .noSuchThing _ code words => (code.toNat, words)
  | .unexpectedEof => (5, "Input/output error")
  | .userError words => (5, words)

def faultOf (e : IO.Error) : FileFault :=
  let (number, words) := systemError e
  .ofSystem number words

/-- The bytes of a file, or why there are none. -/
def readFile (path : Text) : IO (Except FileFault (List UInt8)) := do
  if let some fault := pathFault? path then return .error (.badPath fault)
  try return .ok (← IO.FS.readBinFile path.printed).toList
  catch e => return .error (faultOf e)

def readAll (words : List Text) : IO (List (Text × Except FileFault (List UInt8))) :=
  words.mapM fun word => return (word, ← readFile word)

def pathsOf : Except CommandLine.Refusal CommandLine.Invocation → List Text
  | .ok (.analyze config _ files) => config ++ files
  | _ => []

/-- Prints or writes a text; a text that cannot be written ends the run. -/
def deliver : CommandLine.Output → ExceptT Abort IO Unit
  | .print text => IO.print text
  | .write path text => do
    if let some fault := pathFault? path then throw (.unwritable path (.badPath fault))
    try IO.FS.writeFile path.printed text
    catch e : IO.Error => throw (.unwritable path (faultOf e))

/-- Delivers the result of a run. -/
def finish (result : Except Abort CommandLine.Outcome) : ExceptT Abort IO Nat := do
  let outcome ← result
  deliver outcome.output
  return outcome.exit

end AngularLint.Main

open AngularLint AngularLint.Main in
def main (arguments : List String) : IO UInt32 := do
  let words := arguments.map Text.ofString
  let files ← readAll (pathsOf (CommandLine.Invocation.ofWords words))
  let read (path : Text) := (files.lookup path).getD (.error .missing)
  let response := CommandLine.respond read words
  IO.eprint (Diagnostic.lines response.diagnostics ++ response.complaint).printed
  match ← (finish response.result).run with
  | .ok exit => return UInt32.ofNat exit
  | .error abort =>
    IO.eprintln abort.message.printed
    return 1
