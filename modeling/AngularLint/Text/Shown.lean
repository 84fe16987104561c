import AngularLint.Text.Basic

/-!
# How values are shown

The brackets and separators with which messages show composite values. The parts are texts already;
what a part looks like is for its own type to say.
-/

set_option autoImplicit false

namespace AngularLint.Shown

def nothing : Text := "None"

def truth (b : Bool) : Text := if b then "True" else "False"

def commas (parts : List Text) : Text := Text.intercalate ", " parts

def list (parts : List Text) : Text := "[" ++ commas parts ++ "]"

def mapping (entries : List (Text × Text)) : Text :=
  "\x7b" ++ commas (entries.map fun e => e.1 ++ ": " ++ e.2) ++ "\x7d"

def pair (first second : Text) : Text := "(" ++ first ++ ", " ++ second ++ ")"

def set (parts : List Text) : Text :=
  if parts.isEmpty then "set()" else "\x7b" ++ commas parts ++ "\x7d"

def record (name : Text) (fields : List (Text × Text)) : Text :=
  name ++ "(" ++ commas (fields.map fun f => f.1 ++ "=" ++ f.2) ++ ")"

end AngularLint.Shown
