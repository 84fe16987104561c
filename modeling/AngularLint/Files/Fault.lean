import AngularLint.Text.Quoted
import AngularLint.Text.Utf8

/-!
# Faults of files

Why a file cannot be read. Most faults come from the operating system, with its number and its
words; a path that cannot even be handed to it has a fault of its own.
-/

set_option autoImplicit false

namespace AngularLint

/-- Why a path cannot be looked up. -/
inductive PathFault where
  | unencodable (fault : Text.EncodeFault)
  | embeddedNull

def PathFault.message : PathFault → Text
  | unencodable fault => fault.message
  | embeddedNull => "embedded null byte"

/-- Why a file cannot be read. -/
inductive FileFault where
  | missing
  /-- Anything else that the system has a number and words for; two is the number of a file that is
  missing. -/
  | system (number : Nat) (words : Text) (other : number ≠ 2)
  | badPath (fault : PathFault)

namespace FileFault

def notDirectory : FileFault := system 20 "Not a directory" (by decide)

def isDirectory : FileFault := system 21 "Is a directory" (by decide)

def nameTooLong : FileFault := system 36 "File name too long" (by decide)

/-- The fault that a number and words of the system stand for. -/
def ofSystem (number : Nat) (words : Text) : FileFault :=
  if h : number = 2 then missing else system number words h

/-- The system's wording of a fault, with its number and the path. -/
def systemMessage (number : Nat) (words path : Text) : Text :=
  s!"[Errno {number}] " ++ words ++ ": " ++ path.quote

def message (path : Text) : FileFault → Text
  | missing => systemMessage 2 "No such file or directory" path
  | system number words _ => systemMessage number words path
  | badPath fault => fault.message

end FileFault

/-- What is wrong with a path itself, if anything is. -/
def pathFault? (path : Text) : Option PathFault :=
  match Text.encodeFault? 0 path.points with
  | some fault => some (.unencodable fault)
  | none => if path.contains '\x00' then some .embeddedNull else none

/-- What reads files: the bytes at a path, or why there are none. -/
abbrev FileReader := Text → Except FileFault (List UInt8)

end AngularLint
