import AngularLint.CommandLine.Invocation
import AngularLint.Proofs.CommandLine.Words

/-!
# How the words of a command line are consumed

A run is what stands between the arguments of a switch and the next switch. A command that takes
files has them from the first run with an operand in it, and has all of that run; any other run is
left over, word by word (**`consume_run`**, **`foldl_receive`**). A switch has its arguments from
the words behind it: one operand, or all of them up to a word that is none (`consume_switch`).

No step consumes less than one word. So whatever has been consumed, there are steps enough for the
rest, and this is all that the lemmas say of their number.

The program as a whole is a command as well. It takes the name of another command and, with it, all
words that there are (`read_program`).
-/

set_option autoImplicit false

namespace AngularLint.CommandLine

/-- The files in a run of words, if there are any: all of the words but the two hyphens. -/
def filesIn? (run : List Text) : Option (List Text) :=
  if (run.erase Word.terminatorText).isEmpty then none else some (run.erase Word.terminatorText)

def holdsFiles (run : List Text) : Bool := (filesIn? run).isSome

theorem holdsFiles_of_eq_some {run files : List Text} (h : filesIn? run = some files) :
    holdsFiles run = true := by
  rw [holdsFiles, h]
  rfl

theorem holdsFiles_of_eq_none {run : List Text} (h : filesIn? run = none) :
    holdsFiles run = false := by
  rw [holdsFiles, h]
  rfl

theorem filesIn?_of_holdsFiles {run : List Text} (h : holdsFiles run = true) :
    filesIn? run = some (run.erase Word.terminatorText) := by
  rw [holdsFiles, filesIn?] at h
  rw [filesIn?]
  split at h
  · exact absurd h (by simp)
  · rename_i hne
    exact if_neg hne

theorem filesIn?_of_isPlain {run : List Text} (hne : run ≠ [])
    (hplain : ∀ text ∈ run, IsPlain text) : filesIn? run = some run := by
  have hnot : Word.terminatorText ∉ run := fun hmem => (hplain _ hmem).ne_terminatorText rfl
  rw [filesIn?, List.erase_of_not_mem hnot, if_neg (by simpa using hne)]

theorem filesIn?_terminator {run : List Text} (hne : run ≠ []) :
    filesIn? (Word.terminatorText :: run) = some run := by
  rw [filesIn?, List.erase_cons_head, if_neg (by simpa using hne)]

/-- Without the first run that holds files, what is left of some runs are the others. -/
theorem eraseP_holdsFiles {before after : List (List Text)} {run files : List Text}
    (hbefore : ∀ other ∈ before, filesIn? other = none) (hrun : filesIn? run = some files) :
    (before ++ run :: after).eraseP holdsFiles = before ++ after := by
  have hnone : ∀ other ∈ before, ¬holdsFiles other = true := by
    intro other hother
    rw [holdsFiles_of_eq_none (hbefore other hother)]
    exact Bool.false_ne_true
  rw [List.eraseP_append_right _ hnone, List.eraseP_cons_of_pos (holdsFiles_of_eq_some hrun)]

namespace Given

variable {c : Command} {g : Given} {run rest : List Word} {texts : List Text} {steps : Nat}

/-! ## One word -/

theorem consume_nil : consume c g steps [] = .ok g := by
  cases steps with
  | zero => rfl
  | succ steps => rfl

theorem consume_of_operandCount_eq_zero {w : Word} (hw : w.isSwitch = false)
    (hcount : g.operandCount c (w :: rest) = 0) :
    consume c g (steps + 1) (w :: rest) = consume c (g.leave [w.text]) steps rest := by
  cases w with
  | operand text => simp only [consume, hcount]
  | terminator => simp only [consume, hcount]
  | unknown text => exact absurd hw (by simp [Word.isSwitch])
  | switch text name s attached => exact absurd hw (by simp [Word.isSwitch])

theorem consume_of_operandCount_eq_succ {w : Word} {n : Nat} (hw : w.isSwitch = false)
    (hcount : g.operandCount c (w :: rest) = n + 1) :
    consume c g (steps + 1) (w :: rest) =
      consume c { g with operands := some (operandTexts c ((w :: rest).take (n + 1))) } steps
        (rest.drop n) := by
  cases w with
  | operand text => simp only [consume, hcount]
  | terminator => simp only [consume, hcount]
  | unknown text => exact absurd hw (by simp [Word.isSwitch])
  | switch text name s attached => exact absurd hw (by simp [Word.isSwitch])

/-! ## A run of words -/

/-- Does a switch come first, unless there are no words? -/
def AtSwitch (ws : List Word) : Prop := ∀ w ∈ ws.head?, w.isSwitch = true

theorem atSwitch_nil : AtSwitch [] := fun _ hw => absurd hw (by simp)

theorem takeWhile_append_of_head? {p : Word → Bool} (hrun : ∀ w ∈ run, p w = true)
    (hrest : ∀ w ∈ rest.head?, p w = false) : (run ++ rest).takeWhile p = run := by
  have hends : rest.takeWhile p = [] := by
    cases rest with
    | nil => rfl
    | cons w rest => rw [List.takeWhile_cons_of_neg (by simpa using hrest w rfl)]
  rw [List.takeWhile_append_of_pos hrun, hends, List.append_nil]

/-- A run ends where a switch comes. -/
theorem takeWhile_not_isSwitch (hrun : ∀ w ∈ run, w.isSwitch = false) (hrest : AtSwitch rest) :
    (run ++ rest).takeWhile (fun w => !w.isSwitch) = run :=
  takeWhile_append_of_head? (fun w hw => by rw [hrun w hw]; rfl)
    fun w hw => by rw [hrest w hw]; rfl

/-- Does a run give the command nothing, as there is no operand in it or the command has some? -/
def isLeft (g : Given) (run : List Word) : Bool := g.operands.isSome || !run.any Word.isOperand

theorem operandCount_of_isLeft (hrun : ∀ w ∈ run, w.isSwitch = false) (hrest : AtSwitch rest)
    (hleft : g.isLeft run = true) : g.operandCount c (run ++ rest) = 0 := by
  rw [operandCount, takeWhile_not_isSwitch hrun hrest]
  exact if_pos hleft

theorem operandCount_of_not_isLeft (hfiles : c.operand = some .files)
    (hrun : ∀ w ∈ run, w.isSwitch = false) (hrest : AtSwitch rest)
    (hleft : ¬g.isLeft run = true) : g.operandCount c (run ++ rest) = run.length := by
  rw [operandCount, takeWhile_not_isSwitch hrun hrest, hfiles]
  exact if_neg hleft

theorem leave_nil : g.leave [] = g := by
  rw [leave, List.append_nil]

theorem leave_leave (first second : List Text) :
    (g.leave first).leave second = g.leave (first ++ second) := by
  simp only [leave, List.append_assoc]

theorem consume_of_isLeft (hrun : ∀ w ∈ run, w.isSwitch = false) (hrest : AtSwitch rest)
    (hleft : g.isLeft run = true) (hsteps : (run ++ rest).length ≤ steps) :
    ∃ left, rest.length ≤ left ∧
      consume c g steps (run ++ rest) = consume c (g.leave (run.map Word.text)) left rest := by
  induction run generalizing g steps with
  | nil => exact ⟨steps, hsteps, by rw [List.map_nil, leave_nil, List.nil_append]⟩
  | cons w run ih =>
    have hw := hrun w List.mem_cons_self
    have hcount : g.operandCount c (w :: (run ++ rest)) = 0 := by
      rw [← List.cons_append, operandCount_of_isLeft hrun hrest hleft]
    cases steps with
    | zero => exact absurd hsteps (by simp)
    | succ steps =>
      -- Where the first word gives the command nothing, the others do not either.
      have hlater : (g.leave [w.text]).isLeft run = true := by
        simp only [isLeft, List.any_cons, Bool.not_or, Bool.or_eq_true, Bool.and_eq_true] at hleft
        simp only [isLeft, leave, Bool.or_eq_true]
        exact hleft.imp_right And.right
      obtain ⟨left, hle, hconsume⟩ := ih (fun w' hw' => hrun w' (List.mem_cons_of_mem _ hw'))
        hlater (by simpa using hsteps)
      refine ⟨left, hle, ?_⟩
      rw [List.cons_append, consume_of_operandCount_eq_zero hw hcount, hconsume, leave_leave]
      rfl

theorem consume_of_not_isLeft (hfiles : c.operand = some .files)
    (hrun : ∀ w ∈ run, w.isSwitch = false) (hrest : AtSwitch rest)
    (hleft : ¬g.isLeft run = true) (hsteps : (run ++ rest).length ≤ steps) :
    ∃ left, rest.length ≤ left ∧
      consume c g steps (run ++ rest) =
        consume c { g with operands := some ((run.map Word.text).erase Word.terminatorText) } left
          rest := by
  have hcount := operandCount_of_not_isLeft hfiles hrun hrest hleft
  cases run with
  | nil => exact absurd hleft (by simp [isLeft])
  | cons w run =>
    cases steps with
    | zero => exact absurd hsteps (by simp)
    | succ steps =>
      refine ⟨steps, ?_, ?_⟩
      · simp only [List.cons_append, List.length_cons, List.length_append] at hsteps
        omega
      · rw [List.cons_append] at hcount ⊢
        rw [consume_of_operandCount_eq_succ (hrun w List.mem_cons_self) hcount, operandTexts,
          hfiles, ← List.cons_append, ← List.length_cons, List.take_left, List.drop_left]

/-- What becomes of a run: the command has the files of the first that holds any, and every other
run is left over. -/
def receive (g : Given) (run : List Text) : Given :=
  match g.operands, filesIn? run with
  | none, some files => { g with operands := some files }
  | _, _ => g.leave run

theorem receive_of_isSome (h : g.operands.isSome = true) (run : List Text) :
    g.receive run = g.leave run := by
  obtain ⟨files, hfiles⟩ := Option.isSome_iff_exists.mp h
  rw [receive, hfiles]

theorem receive_of_eq_none {run : List Text} (h : filesIn? run = none) :
    g.receive run = g.leave run := by
  rw [receive, h]
  cases g.operands with
  | none => rfl
  | some files => rfl

theorem receive_of_eq_some {run files : List Text} (hnone : g.operands = none)
    (h : filesIn? run = some files) : g.receive run = { g with operands := some files } := by
  rw [receive, hnone, h]

/-- **A run up to the next switch**, or to the end. -/
theorem consume_run (hfiles : c.operand = some .files) (hrun : ∀ w ∈ run, w.isSwitch = false)
    (htexts : run.map Word.text = texts) (hany : run.any Word.isOperand = holdsFiles texts)
    (hrest : AtSwitch rest) (hsteps : (run ++ rest).length ≤ steps) :
    ∃ left, rest.length ≤ left ∧
      consume c g steps (run ++ rest) = consume c (g.receive texts) left rest := by
  by_cases hleft : g.isLeft run = true
  · have hreceive : g.receive texts = g.leave texts := by
      rw [isLeft, hany, Bool.or_eq_true, Bool.not_eq_true'] at hleft
      rcases hleft with hsome | hnone
      · exact receive_of_isSome hsome texts
      · rw [holdsFiles, Option.isSome_eq_false_iff, Option.isNone_iff_eq_none] at hnone
        exact receive_of_eq_none hnone
    rw [hreceive, ← htexts]
    exact consume_of_isLeft hrun hrest hleft hsteps
  · have hreceive : g.receive texts =
        { g with operands := some (texts.erase Word.terminatorText) } := by
      rw [isLeft, hany, Bool.not_eq_true, Bool.or_eq_false_iff, Bool.not_eq_false'] at hleft
      obtain ⟨hnone, hholds⟩ := hleft
      rw [Option.isSome_eq_false_iff, Option.isNone_iff_eq_none] at hnone
      exact receive_of_eq_some hnone (filesIn?_of_holdsFiles hholds)
    rw [hreceive, ← htexts]
    exact consume_of_not_isLeft hfiles hrun hrest hleft hsteps

/-! ## Runs one after another -/

theorem foldl_receive_of_isSome (h : g.operands.isSome = true) (runs : List (List Text)) :
    runs.foldl receive g = g.leave runs.flatten := by
  induction runs generalizing g with
  | nil => exact leave_nil.symm
  | cons run runs ih =>
    have hleft : (g.leave run).operands.isSome = true := h
    rw [List.foldl_cons, receive_of_isSome h, ih hleft, leave_leave]
    rfl

/-- **The first run that holds files gives them to the command.** All others are left over. -/
theorem foldl_receive (h : g.operands = none) (runs : List (List Text)) :
    runs.foldl receive g =
      { g with
        operands := runs.findSome? filesIn?
        leftOver := g.leftOver ++ (runs.eraseP holdsFiles).flatten } := by
  induction runs generalizing g with
  | nil =>
    obtain ⟨config, output, operands, leftOver⟩ := g
    cases h
    simp
  | cons run runs ih =>
    cases hrun : filesIn? run with
    | some files =>
      rw [List.foldl_cons, receive_of_eq_some h hrun, foldl_receive_of_isSome rfl,
        List.findSome?_cons_of_isSome (holdsFiles_of_eq_some hrun),
        List.eraseP_cons_of_pos (holdsFiles_of_eq_some hrun), hrun]
      rfl
    | none =>
      have hnone : (g.leave run).operands = none := h
      rw [List.foldl_cons, receive_of_eq_none hrun, ih hnone,
        List.findSome?_cons_of_isNone (by rw [hrun]; rfl),
        List.eraseP_cons_of_neg (by rw [holdsFiles_of_eq_none hrun]; exact Bool.false_ne_true),
        List.flatten_cons, ← List.append_assoc]
      rfl

/-! ## Switches with their arguments -/

/-- A switch that takes one argument or more takes all operands that follow it. -/
theorem argumentsOf_of_oneOrMore {s : Switch} (hs : s.arity = .oneOrMore) (first : Text)
    (more : List Text) (hrest : ∀ w ∈ rest.head?, w.isOperand = false) :
    argumentsOf s ((first :: more).map Word.operand ++ rest) =
      .ok ((first :: more).map Word.operand) := by
  have htake : ((first :: more).map Word.operand ++ rest).takeWhile Word.isOperand =
      (first :: more).map Word.operand := by
    refine takeWhile_append_of_head? (fun w hw => ?_) hrest
    obtain ⟨text, -, rfl⟩ := List.mem_map.mp hw
    rfl
  simp only [argumentsOf, hs]
  rw [htake]
  rfl

theorem argumentsOf_of_one {s : Switch} (hs : s.arity = .one) (text : Text) (rest : List Word) :
    argumentsOf s ([text].map Word.operand ++ rest) = .ok ([text].map Word.operand) := by
  simp only [argumentsOf, hs, List.map_cons, List.map_nil, List.cons_append]

theorem consume_switch {s : Switch} {g' : Given} {arguments : List Text}
    (harguments : argumentsOf s (arguments.map Word.operand ++ rest) =
      .ok (arguments.map Word.operand)) (happly : g.apply s arguments = .ok g')
    (text name : Text) :
    consume c g (steps + 1) (.switch text name s none :: (arguments.map Word.operand ++ rest)) =
      consume c g' steps rest := by
  have htexts := Word.map_text_map_operand arguments
  rw [consume, harguments]
  show g.apply s ((arguments.map Word.operand).map Word.text) >>= _ = _
  rw [htexts, happly]
  show consume c g' steps
    ((arguments.map Word.operand ++ rest).drop (arguments.map Word.operand).length) = _
  rw [List.drop_left]

end Given

/-! ## What has been read, once all words have been consumed -/

namespace Command

variable {c : Command} {texts : List Text} {ws : List Word} {given : Given}

theorem read_of_isSome (hwords : c.words texts = .ok ws)
    (hconsume : Given.consume c .nothing ws.length ws = .ok given)
    (hgiven : given.operands.isSome = true) : c.read texts = .ok given := by
  obtain ⟨operands, hoperands⟩ := Option.isSome_iff_exists.mp hgiven
  rw [read, hwords]
  refine bind_eq_ok.mpr ⟨ws, rfl, bind_eq_ok.mpr ⟨given, hconsume, ?_⟩⟩
  rw [hoperands]
  cases c.operand with
  | none => rfl
  | some operand => rfl

theorem read_of_eq_none {operand : Operand} (hwords : c.words texts = .ok ws)
    (hconsume : Given.consume c .nothing ws.length ws = .ok given)
    (hoperand : c.operand = some operand) (hgiven : given.operands = none) :
    c.read texts = .error (.fault (.required operand.name)) := by
  rw [read, hwords]
  refine bind_eq_error.mpr (.inr ⟨ws, rfl, bind_eq_error.mpr (.inr ⟨given, hconsume, ?_⟩)⟩)
  rw [hoperand, hgiven]
  rfl

end Command

/-- **The program hands all words on**, as long as it can tell them apart: also those that would be
switches of its own. -/
theorem read_program {name : Text} {rest : List Text} (hname : IsPlain name)
    (hrest : ¬Fails (Topic.program.command.words rest)) :
    Topic.program.read (name :: rest) = .ok ⟨[], none, some (name :: rest), []⟩ := by
  obtain ⟨ws, hws⟩ := not_fails_iff.mp hrest
  have hwords : Topic.program.command.words (name :: rest) = .ok (.operand name :: ws) := by
    rw [Command.words_cons hname.ne_terminatorText (Command.classify_of_isPlain hname), hws]
    rfl
  have hcount : Given.nothing.operandCount Topic.program.command (.operand name :: ws) =
      ws.length + 1 := rfl
  have htexts : Given.operandTexts Topic.program.command
      ((Word.operand name :: ws).take (ws.length + 1)) = name :: rest := by
    rw [← List.length_cons (a := Word.operand name), List.take_length]
    exact congrArg _ (Command.map_text_of_words hws)
  have hconsume : Given.consume Topic.program.command .nothing (ws.length + 1)
      (.operand name :: ws) = .ok ⟨[], none, some (name :: rest), []⟩ := by
    rw [Given.consume_of_operandCount_eq_succ rfl hcount, htexts, List.drop_length,
      Given.consume_nil]
    rfl
  rw [Topic.read, Command.read_of_isSome hwords hconsume rfl]

end AngularLint.CommandLine
