import AngularLint.Files.Fault

/-!
# File trees

A directory with all that is below it, as a value. A path is followed name by name: names that are
empty or a dot stay where they are, two dots lead one directory up, and every name but the last must
lead to a directory. What is outside the tree is not known, and nothing is found there.
-/

set_option autoImplicit false

namespace AngularLint

/-- What a name in a tree stands for. -/
inductive FileEntry where
  | file (bytes : List UInt8)
  | directory

/-- A tree: its entries, each under the names that lead to it. -/
structure FileTree where
  entries : List (List Text × FileEntry)

/-- Where a path leads. -/
inductive FilePlace where
  | directory
  | file (names : List Text) (bytes : List UInt8)
  /-- There is nothing, but a file could be made. -/
  | vacant (names : List Text)

namespace FileTree

def empty : FileTree := ⟨[]⟩

def maxNameSize : Nat := 255

def maxPathSize : Nat := 4095

def splitPath : List CodePoint → List (List CodePoint)
  | [] => [[]]
  | c :: rest =>
    if c == .char '/' then [] :: splitPath rest
    else match splitPath rest with
      | [] => [[c]]
      | name :: names => (c :: name) :: names

def names (path : Text) : List Text := (splitPath path.points).map Text.mk

def dot : Text := "."

def dotDot : Text := ".."

/-- The entry under names; the tree itself is a directory. -/
def entry? (t : FileTree) (at' : List Text) : Option FileEntry :=
  if at'.isEmpty then some .directory else t.entries.lookup at'

/-- Follows names from a directory of the tree, or from outside of it. A file that is to be made
cannot be named with a slash behind its name. -/
def follow (t : FileTree) (making : Bool) :
    Option (List Text) → List Text → Except FileFault FilePlace
  | _, [] => .ok .directory
  | dir, name :: rest =>
    if name.isEmpty || name == dot then t.follow making dir rest
    else if name == dotDot then
      t.follow making (dir.bind fun d => if d.isEmpty then none else some d.dropLast) rest
    else if making && !rest.isEmpty && rest.all (·.isEmpty) then .error .isDirectory
    else if maxNameSize < Text.encodedSize name then .error .nameTooLong
    else match dir with
      | none => .error .missing
      | some d =>
        match t.entry? (d ++ [name]), rest with
        | none, [] => .ok (.vacant (d ++ [name]))
        | none, _ => .error .missing
        | some (.file bytes), [] => .ok (.file (d ++ [name]) bytes)
        | some (.file _), _ => .error .notDirectory
        | some .directory, rest => t.follow making (some (d ++ [name])) rest

def place (t : FileTree) (making : Bool) (path : Text) : Except FileFault FilePlace :=
  match pathFault? path with
  | some fault => .error (.badPath fault)
  | none =>
    if path.isEmpty then .error .missing
    else if maxPathSize < Text.encodedSize path then .error .nameTooLong
    else
      let names := names path
      t.follow making (if names.head?.any (·.isEmpty) then none else some []) names

def read (t : FileTree) (path : Text) : Except FileFault (List UInt8) := do
  match ← t.place false path with
  | .file _ bytes => return bytes
  | .directory => throw .isDirectory
  | .vacant _ => throw .missing

/-- Sets an entry; one with the same names keeps its place. -/
def setEntry (at' : List Text) (e : FileEntry) :
    List (List Text × FileEntry) → List (List Text × FileEntry)
  | [] => [(at', e)]
  | old :: rest => if old.1 == at' then (at', e) :: rest else old :: setEntry at' e rest

/-- The tree with the bytes in the file at a path, which is made if there is none. -/
def write (t : FileTree) (path : Text) (bytes : List UInt8) : Except FileFault FileTree := do
  match ← t.place true path with
  | .file names _ => return ⟨setEntry names (.file bytes) t.entries⟩
  | .vacant names => return ⟨setEntry names (.file bytes) t.entries⟩
  | .directory => throw .isDirectory

/-- The names that lead straight to a path inside the tree. -/
def straightNames (path : Text) : List Text :=
  (names path).foldl (fun done name =>
    if name.isEmpty || name == dot then done
    else if name == dotDot then done.dropLast
    else done ++ [name]) []

/-- The tree with an entry at a path, and with all directories on the way to it. -/
def add (t : FileTree) (path : Text) (e : FileEntry) : FileTree :=
  let names := straightNames path
  let around := (List.range (names.length - 1)).map fun n => names.take (n + 1)
  let entries := around.foldl (fun entries d => setEntry d .directory entries) t.entries
  ⟨setEntry names e entries⟩

end FileTree

end AngularLint
