/-!
# Limits of a run

Whatever is read recursively takes room on the stack of the interpreter: so many frames for each
level, on top of those of the program around. How deep things may stand inside each other is
therefore a matter of the run, and of what is done with them. Where nothing else is said, `Limits`
are taken as they come.

The numbers of `Limits.ofFrames` are counted from the frames that are still free where a file is
loaded. `Limits.commandLine` are those of the program as it is called from the command line: of a
thousand frames, three are the module, the entry point and the loader.
-/

set_option autoImplicit false

namespace AngularLint

/-- Which value of a setting is shown, as it cannot be used. -/
inductive Exhibit where
  | severity
  /-- An option in the list of all options. -/
  | options
  | option
  /-- A value in an option. -/
  | value

/-- How deep things may stand inside each other in a run. -/
class Limits where
  /-- The most containers that may be open in a dump. -/
  dump : Nat
  /-- The most containers that may be open in a document where a key comes next. -/
  document : Nat
  /-- The most mappings that may be merged, each into the one before. -/
  merge : Nat
  /-- The most nodes that may be looked at to find the text of a scalar. -/
  text : Nat
  /-- The most containers that may stand around a value that is shown. -/
  exhibit : Exhibit → Nat

namespace Limits

/-- The limits where some frames are free for the loading of a file.

A dump is read by five frames, and one for each container. The composer of documents takes four
frames, two for each container, and thirteen for the reading of a key; the constructor takes six
frames to come to the mappings that are merged, and nine to come to the text of a scalar. A setting
is checked by one frame, a severity by one more, and options by one for each keyword of their schema
and one for each step from a schema to one inside it; each value that is shown takes one. -/
@[reducible] def ofFrames (free : Nat) : Limits where
  dump := free - 5
  document := (free - 17) / 2
  merge := free - 6
  text := free - 9
  exhibit
    | .severity => free - 3
    | .options => free - 5
    | .option => free - 6
    | .value => free - 8

/-- The limits of the program as it is called from the command line. -/
instance commandLine : Limits := ofFrames 997

end Limits

end AngularLint
