import AngularLint.Rule.Basic

/-!
# Names of test files

A file that declares tests should say so in its name: `foo.spec.js` for `foo.js`. The suffix is an
option of the rule.
-/

set_option autoImplicit false

namespace AngularLint.TestFilename

def declarationNames : List Text :=
  ["describe", "xdescribe", "fdescribe", "it", "xit", "fit", "expect"]

def defaultSuffix : Text := "spec"

/-- Is the callee named like a function that declares tests? -/
def isDeclaration (callee : Value) : Bool := declarationNames.any fun name => callee.isNamed name

def dot : CodePoint := .char '.'

/-- What stands before the last dot of a name, and what stands behind it; a name without a dot
stands behind it as a whole. -/
def splitAtLastDot (name : List CodePoint) : List CodePoint × List CodePoint :=
  let behind := (name.reverse.takeWhile (· != dot)).reverse
  (name.take (name.length - behind.length - 1), behind)

/-- The name that a test file should have: the suffix goes before the last part of the name. -/
def expectedName (filename suffix : Text) : Text :=
  let (before, behind) := splitAtLastDot filename.points
  ⟨before⟩ ++ "." ++ suffix ++ "." ++ ⟨behind⟩

def extension : Text := ".js"

def ending (suffix : Text) : List CodePoint := dot :: suffix.points ++ extension.points

def newline : CodePoint := .char '\n'

/-- Does the name end as it should, behind at least one code point of the same line? -/
def endsAsExpected (suffix : Text) (name : List CodePoint) : Bool :=
  let stem := name.take (name.length - (ending suffix).length)
  stem ++ ending suffix == name && stem.getLast?.any (· != newline)

/-- The name without the line feed at its end, if it ends with one. -/
def dropFinalNewline? (name : List CodePoint) : Option (List CodePoint) :=
  if name.getLast? == some newline then some name.dropLast else none

/-- Does the file have a name that a test file should have? A line feed at the end of the name does
not count. -/
def hasExpectedName (filename suffix : Text) : Bool :=
  endsAsExpected suffix filename.points ||
    (dropFinalNewline? filename.points).any (endsAsExpected suffix)

/-- The suffix that the options ask for, which may be a value that is no text. -/
def suffixOption (options : List Json) : Json :=
  match options.head? with
  | some (.obj entries) => (Json.find? "suffix" entries).getD (.str defaultSuffix)
  | _ => .str defaultSuffix

def suffixText : Json → Except Fault Text
  | .str s => .ok s
  | v => .error (.notText (Value.plain v).type)

/-- What to report on a test declaration: the name of the file, once for every declaration, at the
root of the tree. -/
def judge (s : Surroundings) (visit : Visit) : Except Fault (Option Request) := do
  let suffix ← suffixText (suffixOption s.options)
  if hasExpectedName s.filename suffix then return none
  return some {
    message := "noConsistentNaming"
    anchor := .ofOption (visit.ancestors.head?.map .node)
    data := [("expectedName", .plain (.str (expectedName s.filename suffix)))] }

def onCall (s : Surroundings) (visit : Visit) : Outcome :=
  if isDeclaration (.ofOption ((Value.node visit.node).at? ["callee"])) then
    .ofLookup (judge s visit)
  else .silent

def convention : Convention where
  id := "consistent-test-filename"
  description := "Enforce consistent naming of test files"
  category := "Jasmine best practices"
  recommended := true
  messages :=
    [("noConsistentNaming", "Test file should be named \"\x7b\x7b expectedName \x7d\x7d\"")]
  options := [⟨["suffix"]⟩]
  fixable := none
  habits s := [("CallExpression", onCall s)]

def rule {σ : Type} : Rule σ := convention.rule

end AngularLint.TestFilename
