import AngularLint.Json.Reader
import AngularLint.Limits
import AngularLint.Run
import AngularLint.Text.Lines
import AngularLint.Tree.Hydrate

/-!
# Dumps

A dump is a file that holds a syntax tree as JSON: the program itself, or an envelope that gives the
program under `ast` and may give the name of the file that it was made from. Without a name, that
file is taken to be the dump without its extension.
-/

set_option autoImplicit false

namespace AngularLint

/-- A program and the name of its file. -/
structure Dump where
  filename : Text
  program : Node

namespace Dump

def dumpExtension : Text := ".json"

def nameOfPath (path : Text) : Text :=
  let stem : Text := ⟨path.points.take (path.length - dumpExtension.length)⟩
  if stem ++ dumpExtension == path then stem else path

/-- The program of an envelope, if the value is one. -/
def envelope? (document : Json) : Option Json :=
  match document.get? "ast" with
  | some (.obj entries) => some (.obj entries)
  | _ => none

def filenameOf (path : Text) (document : Json) : Text :=
  match envelope? document, (document.get? "filename").filter Json.truthy with
  | some _, some name => name.display
  | _, _ => nameOfPath path

def isProgram : Node → Bool
  | .mk _ (.program _) => true
  | _ => false

/-- The program that a value describes, or nothing if it describes none. -/
def ofJson? (path : Text) (document : Json) : Except Abort (Option Dump) :=
  let filename := filenameOf path document
  match Node.hydrate filename ((envelope? document).getD document) with
  | .error _ => .error .infinitePosition
  | .ok tree => .ok ((tree.filter isProgram).map fun program => ⟨filename, program⟩)

def textOf (bytes : List UInt8) : Except Abort (List Char) :=
  match Text.decodeWhole bytes with
  | .ok text => .ok (Text.unifyLineEnds text)
  | .error fault => .error (.undecodable fault)

def ofBytes [Limits] (path : Text) (bytes : List UInt8) : Run (Option Dump) := do
  let text ← Run.ofExcept (textOf bytes)
  match Json.parse Limits.dump text with
  | .error (.integer fault) => Run.abort (.integer fault)
  | .error .tooDeep => do
    Run.tell (.dumpTooDeep path)
    return none
  | .error fault => do
    Run.tell (.dumpMalformed path fault)
    return none
  | .ok document =>
    match ← Run.ofExcept (ofJson? path document) with
    | some dump => return some dump
    | none => do
      Run.tell (.dumpHoldsNoProgram path)
      return none

def load [Limits] (read : FileReader) (path : Text) : Run (Option Dump) :=
  match read path with
  | .ok bytes => ofBytes path bytes
  | .error (.badPath fault) => Run.abort (.badPath fault)
  | .error .missing => do
    Run.tell (.dumpMissing path)
    return none
  | .error fault => do
    Run.tell (.dumpUnreadable path fault)
    return none

end Dump

end AngularLint
