import AngularLint.Run

/-!
# The linter

The linter sets up the rules, walks a tree and hands every node to the rules that listen to its
kind, in the order of the registry. A rule that fails on a node loses what it had not yet reported
there, and nothing else: every other visit goes on. The failure is told once for each file, rule and
kind of node in the whole life of the linter, which is why the linter carries a log.

Not every mishap is dealt with like this. A rule that fails to be set up, a mishap that is no error,
and an error that is to be told and cannot be shown leave the linter as an `Interruption`: nothing
more is called, and nothing is returned.

All rules report into one sink, and what they keep in mind is handed from each callback to the next,
whatever rule it belongs to. `Session` is the state that the callbacks act on, `Session.call` is one
call, and `Session.tour` is the calls of a whole walk.
-/

set_option autoImplicit false

namespace AngularLint

/-- A failure in the log: which rule failed, on what kind of node, in which file. -/
structure Failure where
  file : Text
  rule : Text
  kind : Text
deriving DecidableEq

/-- A linter between two files. -/
structure Linter (σ : Type) where
  registry : Registry σ
  settings : Settings
  /-- The failures that have been told. -/
  log : List Failure
  /-- What the rules keep in mind. -/
  memory : σ

/-- A rule at work on a file, with its callbacks. -/
structure Listener (σ : Type) where
  context : Context σ
  callbacks : List (Text × Callback σ)

namespace Listener

variable {σ : Type}

def contextOf (settings : Settings) (filename : Text) (rule : Rule σ) : Context σ :=
  let setting := settings.settingFor rule
  ⟨rule, filename, setting.options, setting.severity⟩

/-- The rules that have been set up for a file. -/
structure Enlistment (σ : Type) where
  listeners : List (Listener σ)
  /-- What they have reported at that. -/
  reports : Array Violation
  memory : σ
  interruption : Option Interruption

/-- Sets up the rules that are not off, in the order of the registry. -/
def enlist (settings : Settings) (filename : Text) : Registry σ → σ → Enlistment σ
  | [], memory => ⟨[], #[], memory, none⟩
  | rule :: rest, memory =>
    let context := contextOf settings filename rule
    if context.severity == .off then enlist settings filename rest memory
    else
      let (reports, ending) := context.perform (rule.create context.setup memory) #[]
      match ending.result with
      | .error mishap => ⟨[], reports, ending.memory, some mishap.self⟩
      | .ok callbacks =>
        let others := enlist settings filename rest ending.memory
        { others with
          listeners := ⟨context, callbacks⟩ :: others.listeners
          reports := reports ++ others.reports }

end Listener

/-- The linting of a file, under way. -/
structure Session (σ : Type) where
  /-- The violations that the rules have reported. -/
  sink : Array Violation
  /-- The failures that have been told, also on other files. -/
  log : List Failure
  /-- What has been told about failures on this file. -/
  told : Array Diagnostic
  /-- What the rules keep in mind. -/
  memory : σ
  /-- What has left the linter, which then does nothing more. -/
  interruption : Option Interruption

namespace Session

variable {σ : Type}

/-- Enters a failure in the log and tells it, unless the log has it. What cannot be told leaves the
linter, and so does a mishap that the linter does not take care of. -/
def suffer (s : Session σ) (failure : Failure) (mishap : Mishap) : Session σ :=
  if mishap.isCaught && s.log.contains failure then s
  else
    match mishap.shown with
    | .error interruption => { s with interruption := some interruption }
    | .ok shown =>
      { s with
        log := s.log ++ [failure]
        told := s.told.push (.ruleFailed failure.rule failure.kind failure.file shown) }

/-- Calls a callback at a visit. What it has reported stays, however it ends. -/
def call (s : Session σ) (context : Context σ) (callback : Callback σ) (visit : Visit) :
    Session σ :=
  if s.interruption.isSome then s
  else
    let (sink, ending) := context.perform (callback visit s.memory) s.sink
    let s := { s with sink, memory := ending.memory }
    match ending.result with
    | .ok () => s
    | .error mishap => s.suffer ⟨context.filename, context.rule.id, visit.node.type⟩ mishap

/-- Hands a visit to a rule, if the rule listens to the kind of the node. -/
def hear (visit : Visit) (s : Session σ) (listener : Listener σ) : Session σ :=
  match listener.callbacks.lookup visit.node.type with
  | none => s
  | some callback => s.call listener.context callback visit

/-- Hands the visits of the rest of a walk to the rules, each visit to one rule after another. -/
def tour (listeners : List (Listener σ)) (w : Walk) (s : Session σ) : Session σ :=
  match _h : w.step with
  | none => s
  | some (none, w') => tour listeners w' s
  | some (some visit, w') => tour listeners w' (listeners.foldl (hear visit) s)
termination_by w.remaining
decreasing_by all_goals exact Walk.remaining_lt_of_step _h

/-- What is returned: all that has been reported, unless something has left the linter. -/
def result (s : Session σ) : Except Interruption (List Violation) :=
  match s.interruption with
  | none => .ok s.sink.toList
  | some interruption => .error interruption

end Session

namespace Linter

variable {σ : Type}

def start (registry : Registry σ) (settings : Settings) (memory : σ) : Linter σ :=
  ⟨registry, settings, [], memory⟩

/-- The session with which the linter goes to a file: the rules have been set up, and may have
reported. -/
def session (l : Linter σ) (filename : Text) : Session σ :=
  let enlisted := Listener.enlist l.settings filename l.registry l.memory
  ⟨enlisted.reports, l.log, #[], enlisted.memory, enlisted.interruption⟩

/-- Lints a tree: the violations in the order of the walk, the linter with the failures logged, and
the failures to tell. Without rules at work there is no walk. -/
def verify (l : Linter σ) (tree : Option Node) (filename : Text) :
    Except Interruption (List Violation) × Linter σ × List Diagnostic :=
  let listeners := (Listener.enlist l.settings filename l.registry l.memory).listeners
  let s :=
    match tree with
    | some root =>
      if listeners.isEmpty then l.session filename
      else Session.tour listeners (.start root) (l.session filename)
    | none => l.session filename
  (s.result, { l with log := s.log, memory := s.memory }, s.told.toList)

end Linter

end AngularLint
