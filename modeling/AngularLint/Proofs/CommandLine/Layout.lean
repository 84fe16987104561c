import AngularLint.Proofs.CommandLine.Consumption

/-!
# Layouts of a command line

The words for an analysis come in some layout: words without a switch, then switches, each with
plain words behind it, and at the end, perhaps, two hyphens with any words behind them. How many of
the words behind a switch are its arguments is a matter of the switch alone: settings take all of
them, an output takes one. What is left are the runs of the layout, one before the first switch and
one behind the arguments of each; behind settings the run is empty, except for what the two hyphens
add to the last one.

**`ofWords_texts`** says what a layout asks for, from its runs and its switches, without consuming
words one by one. It is accepted if and only if all its files stand in one run
(**`invocation_eq_ok_iff`**).
-/

set_option autoImplicit false

namespace AngularLint.CommandLine

/-- A switch, and the words behind it up to the next switch. -/
inductive Stretch where
  /-- Settings: all of the words are arguments. -/
  | config (path : Text) (more : List Text)
  /-- An output: the first of the words is the argument. -/
  | output (path : Text) (behind : List Text)

namespace Stretch

def switch : Stretch → Switch
  | config _ _ => .config
  | output _ _ => .output

def name : Stretch → Text
  | config _ _ => "--config"
  | output _ _ => "--out"

/-- All words up to the next switch. -/
def following : Stretch → List Text
  | config path more => path :: more
  | output path behind => path :: behind

/-- Those of the words that are no arguments. -/
def behind : Stretch → List Text
  | config _ _ => []
  | output _ behind => behind

theorem mem_following_of_mem_behind {s : Stretch} {text : Text} (h : text ∈ s.behind) :
    text ∈ s.following := by
  cases s with
  | config path more => exact absurd h (by simp [behind])
  | output path behind => exact List.mem_cons_of_mem _ h

theorem length_behind_lt (s : Stretch) : s.behind.length < s.following.length := by
  cases s with
  | config path more => exact Nat.succ_pos _
  | output path behind => exact Nat.lt_succ_self _

def config? : Stretch → Option (List Text)
  | config path more => some (path :: more)
  | output _ _ => none

def output? : Stretch → Option Text
  | config _ _ => none
  | output path _ => some path

/-- What the switch does. -/
def apply (g : Given) (s : Stretch) : Given :=
  { g with config := s.config?.getD g.config, output := s.output?.or g.output }

/-- A switch that is given again counts anew. -/
theorem foldl_apply (stretches : List Stretch) (g : Given) :
    stretches.foldl apply g =
      { g with
        config := (stretches.filterMap config?).getLast?.getD g.config
        output := (stretches.filterMap output?).getLast?.or g.output } := by
  induction stretches generalizing g with
  | nil => rfl
  | cons s rest ih =>
    rw [List.foldl_cons, ih]
    cases s with
    | config path more =>
      have hconfig : (config path more :: rest).filterMap config? =
          (path :: more) :: rest.filterMap config? := rfl
      have houtput : (config path more :: rest).filterMap output? = rest.filterMap output? := rfl
      rw [hconfig, houtput, List.getLast?_cons]
      rfl
    | output path behind =>
      have hconfig : (output path behind :: rest).filterMap config? = rest.filterMap config? := rfl
      have houtput : (output path behind :: rest).filterMap output? =
          path :: rest.filterMap output? := rfl
      rw [hconfig, houtput, List.getLast?_cons]
      cases (rest.filterMap output?).getLast? with
      | none => rfl
      | some later => rfl

/-- What a switch does has no part in what becomes of a run. -/
theorem receive_apply (s : Stretch) (g : Given) (run : List Text) :
    (s.apply g).receive run = s.apply (g.receive run) := by
  have hsame : (s.apply g).operands = g.operands := rfl
  cases hgiven : g.operands with
  | some operands =>
    have hsome : g.operands.isSome = true := by
      rw [hgiven]
      rfl
    rw [Given.receive_of_isSome hsome, Given.receive_of_isSome (hsame ▸ hsome)]
    rfl
  | none =>
    cases hrun : filesIn? run with
    | none =>
      rw [Given.receive_of_eq_none hrun, Given.receive_of_eq_none hrun]
      rfl
    | some files =>
      rw [Given.receive_of_eq_some hgiven hrun, Given.receive_of_eq_some (hsame.trans hgiven) hrun]
      rfl

/-- What the analysis takes the name of a switch for. -/
def word (s : Stretch) : Word := .switch s.name s.name s.switch none

theorem classify_analyze (s : Stretch) : Topic.analyze.command.classify s.name = .ok s.word := by
  cases s with
  | config path more => rfl
  | output path behind => rfl

/-- The program as a whole does not know the switches of the analysis. -/
theorem classify_program (s : Stretch) :
    Topic.program.command.classify s.name = .ok (.unknown s.name) := by
  cases s with
  | config path more => rfl
  | output path behind => rfl

theorem name_ne_terminatorText (s : Stretch) : s.name ≠ Word.terminatorText := by
  cases s with
  | config path more => exact (by decide : ("--config" : Text) ≠ Word.terminatorText)
  | output path behind => exact (by decide : ("--out" : Text) ≠ Word.terminatorText)

/-- **A switch takes its arguments**, and a run begins behind them. -/
theorem consume_word {c : Command} {g : Given} {rest : List Word} {steps : Nat} (s : Stretch)
    (hrest : ∀ w ∈ rest.head?, w.isOperand = false) :
    Given.consume c g (steps + 1) (s.word :: (s.following.map Word.operand ++ rest)) =
      Given.consume c (s.apply g) steps (s.behind.map Word.operand ++ rest) := by
  cases s with
  | config path more =>
    exact Given.consume_switch (Given.argumentsOf_of_oneOrMore rfl path more hrest) rfl _ _
  | output path behind =>
    exact Given.consume_switch (Given.argumentsOf_of_one rfl path _) rfl _ _

end Stretch

/-- The words for an analysis: those before the first switch, those from each switch to the next
one, and those behind two hyphens, if the two hyphens are there. -/
structure Layout where
  lead : List Text
  stretches : List Stretch
  closing : Option (List Text)

namespace Layout

/-- Two hyphens, and what stands behind them. -/
def closingTexts : Option (List Text) → List Text
  | none => []
  | some texts => Word.terminatorText :: texts

def closingWords : Option (List Text) → List Word
  | none => []
  | some texts => .terminator :: texts.map .operand

/-- What stands behind the words before the first switch. -/
def onwardTexts (stretches : List Stretch) (closing : Option (List Text)) : List Text :=
  stretches.flatMap (fun s => s.name :: s.following) ++ closingTexts closing

/-- The same words, told apart by a command that takes the name of a switch for some word. -/
def onwardWords (head : Stretch → Word) (stretches : List Stretch)
    (closing : Option (List Text)) : List Word :=
  stretches.flatMap (fun s => head s :: s.following.map .operand) ++ closingWords closing

def texts (l : Layout) : List Text := l.lead ++ onwardTexts l.stretches l.closing

def words (head : Stretch → Word) (l : Layout) : List Word :=
  l.lead.map .operand ++ onwardWords head l.stretches l.closing

/-- Are all words plain but the switches and what stands behind the two hyphens? -/
structure HasPlainWords (l : Layout) : Prop where
  lead : ∀ text ∈ l.lead, IsPlain text
  stretches : ∀ s ∈ l.stretches, ∀ text ∈ s.following, IsPlain text

/-- The runs of some stretches, behind the words of a first one. -/
def runsFrom (closing : Option (List Text)) : List Text → List Stretch → List (List Text)
  | lead, [] => [lead ++ closingTexts closing]
  | lead, s :: rest => lead :: runsFrom closing s.behind rest

def runs (l : Layout) : List (List Text) := runsFrom l.closing l.lead l.stretches

section
variable {c : Command} {head : Stretch → Word} {s : Stretch} {stretches : List Stretch}
  {closing : Option (List Text)} {lead : List Text}

/-! ## The words of a layout, told apart -/

theorem onwardTexts_cons :
    onwardTexts (s :: stretches) closing =
      s.name :: (s.following ++ onwardTexts stretches closing) := by
  rw [onwardTexts, List.flatMap_cons, List.append_assoc]
  rfl

theorem onwardWords_cons :
    onwardWords head (s :: stretches) closing =
      head s :: (s.following.map .operand ++ onwardWords head stretches closing) := by
  rw [onwardWords, List.flatMap_cons, List.append_assoc]
  rfl

theorem map_text_closingWords (closing : Option (List Text)) :
    (closingWords closing).map Word.text = closingTexts closing := by
  cases closing with
  | none => rfl
  | some texts =>
    rw [closingWords, List.map_cons, Word.map_text_map_operand]
    rfl

theorem words_onwardTexts (hhead : ∀ s : Stretch, c.classify s.name = .ok (head s))
    (hplain : ∀ s ∈ stretches, ∀ text ∈ s.following, IsPlain text) :
    c.words (onwardTexts stretches closing) = .ok (onwardWords head stretches closing) := by
  induction stretches with
  | nil =>
    cases closing with
    | none => rfl
    | some texts => exact Command.words_terminator texts
  | cons s rest ih =>
    rw [onwardTexts_cons, onwardWords_cons, Command.words_cons s.name_ne_terminatorText (hhead s),
      Command.words_append_of_isPlain (hplain s List.mem_cons_self),
      ih fun s' hs' => hplain s' (List.mem_cons_of_mem _ hs')]
    rfl

theorem words_texts {l : Layout} (hhead : ∀ s : Stretch, c.classify s.name = .ok (head s))
    (hplain : l.HasPlainWords) : c.words l.texts = .ok (l.words head) := by
  rw [texts, Command.words_append_of_isPlain hplain.lead, words_onwardTexts hhead hplain.stretches]
  rfl

/-! ## The words of a layout, consumed -/

theorem isSwitch_of_mem_closingWords {w : Word} (h : w ∈ closingWords closing) :
    w.isSwitch = false := by
  cases closing with
  | none => exact absurd h (by simp [closingWords])
  | some texts =>
    rcases List.mem_cons.mp h with rfl | h
    · rfl
    · exact Word.isSwitch_of_mem_map_operand h

/-- No operand comes directly behind the words of a stretch. -/
theorem isOperand_of_mem_head? :
    ∀ w ∈ (onwardWords Stretch.word stretches closing).head?, w.isOperand = false := by
  intro w hw
  cases stretches with
  | cons s rest =>
    rw [onwardWords_cons] at hw
    obtain rfl := Option.some.inj hw
    rfl
  | nil =>
    cases closing with
    | none => exact absurd hw (by simp [onwardWords, closingWords])
    | some texts =>
      obtain rfl := Option.some.inj hw
      rfl

theorem atSwitch_onwardWords :
    Given.AtSwitch (onwardWords Stretch.word (s :: stretches) closing) := by
  rw [onwardWords_cons]
  intro w hw
  obtain rfl := Option.some.inj hw
  rfl

theorem any_isOperand (hlead : ∀ text ∈ lead, IsPlain text) (closing : Option (List Text)) :
    (lead.map Word.operand ++ closingWords closing).any Word.isOperand =
      holdsFiles (lead ++ closingTexts closing) := by
  have hnot : Word.terminatorText ∉ lead := fun hmem => (hlead _ hmem).ne_terminatorText rfl
  have hfiles : (lead ++ closingTexts closing).erase Word.terminatorText =
      lead ++ closing.getD [] := by
    cases closing with
    | none => exact List.erase_of_not_mem (by simpa [closingTexts] using hnot)
    | some texts =>
      rw [closingTexts, List.erase_append_right _ hnot, List.erase_cons_head]
      rfl
  rw [holdsFiles, filesIn?, hfiles]
  cases lead with
  | cons text lead => rfl
  | nil =>
    cases closing with
    | none => rfl
    | some texts =>
      cases texts with
      | nil => rfl
      | cons text texts => rfl

/-- **All words are consumed, run by run and switch by switch.** -/
theorem consume_onward {g : Given} {steps : Nat} (hlead : ∀ text ∈ lead, IsPlain text)
    (hplain : ∀ s ∈ stretches, ∀ text ∈ s.following, IsPlain text)
    (hsteps : (lead.map Word.operand ++ onwardWords Stretch.word stretches closing).length ≤
      steps) :
    Given.consume Topic.analyze.command g steps
        (lead.map Word.operand ++ onwardWords Stretch.word stretches closing) =
      .ok (stretches.foldl Stretch.apply
        ((runsFrom closing lead stretches).foldl Given.receive g)) := by
  have hfiles : Topic.analyze.command.operand = some .files := rfl
  induction stretches generalizing lead g steps with
  | nil =>
    -- The last run goes to the end of the words.
    have hrun : ∀ w ∈ lead.map Word.operand ++ closingWords closing, w.isSwitch = false := by
      intro w hw
      rcases List.mem_append.mp hw with hw | hw
      · exact Word.isSwitch_of_mem_map_operand hw
      · exact isSwitch_of_mem_closingWords hw
    have htexts : (lead.map Word.operand ++ closingWords closing).map Word.text =
        lead ++ closingTexts closing := by
      rw [List.map_append, Word.map_text_map_operand, map_text_closingWords]
    obtain ⟨left, -, hconsume⟩ := Given.consume_run hfiles hrun htexts
      (any_isOperand hlead closing) Given.atSwitch_nil (by simpa [onwardWords] using hsteps)
    rw [List.append_nil, Given.consume_nil] at hconsume
    exact hconsume
  | cons s rest ih =>
    -- The first run goes to the switch, and the next one begins behind its arguments.
    have hany : (lead.map Word.operand).any Word.isOperand = holdsFiles lead := by
      simpa [closingWords, closingTexts] using any_isOperand hlead none
    obtain ⟨left, hleft, hconsume⟩ :=
      Given.consume_run hfiles (fun w hw => Word.isSwitch_of_mem_map_operand hw)
        (Word.map_text_map_operand lead) hany atSwitch_onwardWords hsteps
    rw [onwardWords_cons] at hleft hconsume ⊢
    cases left with
    | zero => exact absurd hleft (by simp)
    | succ left =>
      have hbehind : ∀ text ∈ s.behind, IsPlain text := fun text htext =>
        hplain s List.mem_cons_self text (Stretch.mem_following_of_mem_behind htext)
      have hle : (s.behind.map Word.operand ++ onwardWords Stretch.word rest closing).length ≤
          left := by
        have hlt := s.length_behind_lt
        simp only [List.length_cons, List.length_append, List.length_map] at hleft ⊢
        omega
      rw [hconsume, s.consume_word isOperand_of_mem_head?,
        ih hbehind (fun s' hs' => hplain s' (List.mem_cons_of_mem _ hs')) hle,
        List.foldl_hom (fun g => s.apply g) s.receive_apply]
      rfl

end

/-! ## What a layout asks for -/

section
variable {l : Layout}

/-- The paths of the settings: those of the last switch that has any. -/
def config (l : Layout) : List Text := (l.stretches.filterMap Stretch.config?).getLast?.getD []

def output (l : Layout) : Option Text := (l.stretches.filterMap Stretch.output?).getLast?

/-- The files: those of the first run that holds any. -/
def files? (l : Layout) : Option (List Text) := l.runs.findSome? filesIn?

/-- The words of all other runs. -/
def surplus (l : Layout) : List Text := (l.runs.eraseP holdsFiles).flatten

def invocation (l : Layout) : Except Refusal Invocation :=
  match l.files?, l.surplus with
  | none, _ => .error (.fault .analyze (.required Operand.files.name))
  | some files, [] => .ok (.analyze l.config l.output files)
  | some _, words => .error (.fault .program (.unrecognized words))

theorem consume_nothing (hplain : l.HasPlainWords) :
    Given.consume Topic.analyze.command .nothing (l.words Stretch.word).length
        (l.words Stretch.word) =
      .ok ⟨l.config, l.output, l.files?, l.surplus⟩ := by
  rw [words, consume_onward hplain.lead hplain.stretches (Nat.le_refl _), Given.foldl_receive rfl,
    Stretch.foldl_apply]
  simp [Given.nothing, config, output, files?, surplus, runs]

/-- **What the words of a layout ask for.** -/
theorem ofWords_texts (hplain : l.HasPlainWords) :
    Invocation.ofWords ("analyze" :: l.texts) = l.invocation := by
  have hwords := words_texts Stretch.classify_analyze hplain
  have hgiven := consume_nothing hplain
  have hprogram : ¬Fails (Topic.program.command.words l.texts) :=
    not_fails_iff.mpr ⟨_, words_texts Stretch.classify_program hplain⟩
  have hname : IsPlain "analyze" := by decide
  have hasked : invocationOf ("analyze" :: l.texts) = (do
      let given ← Topic.analyze.read l.texts
      return (.analyze given.config given.output (given.operands.getD []), given.leftOver)) := rfl
  rw [Invocation.ofWords, read_program hname hprogram]
  show invocationOf ("analyze" :: l.texts) >>= _ = _
  rw [hasked, Topic.read, invocation]
  cases hfiles : l.files? with
  | none =>
    rw [Command.read_of_eq_none hwords hgiven rfl hfiles]
    rfl
  | some files =>
    rw [Command.read_of_isSome hwords hgiven (by rw [hfiles]; rfl), hfiles]
    cases l.surplus with
    | nil => rfl
    | cons text texts => rfl

/-- Files stand before and behind an output, and only the first of them are taken. -/
example : invocation ⟨["a"], [.output "o" ["b"]], none⟩ =
    .error (.fault .program (.unrecognized ["b"])) := rfl

/-- **A layout is accepted if and only if one run holds files and all others are empty.** -/
theorem invocation_eq_ok_iff {invocation : Invocation} :
    l.invocation = .ok invocation ↔
      ∃ before run after files, l.runs = before ++ run :: after ∧
        (∀ other ∈ before ++ after, other = []) ∧ filesIn? run = some files ∧
        invocation = .analyze l.config l.output files := by
  constructor
  · intro h
    rw [Layout.invocation] at h
    cases hfiles : l.files? with
    | none =>
      rw [hfiles] at h
      exact absurd h (by simp)
    | some files =>
      rw [hfiles] at h
      obtain ⟨before, run, after, hruns, hrun, hbefore⟩ := List.findSome?_eq_some_iff.mp hfiles
      have hsurplus : l.surplus = (before ++ after).flatten := by
        rw [surplus, hruns, eraseP_holdsFiles hbefore hrun]
      cases hothers : l.surplus with
      | cons text texts =>
        rw [hothers] at h
        exact absurd h (by simp)
      | nil =>
        rw [hothers] at h hsurplus
        exact ⟨before, run, after, files, hruns, List.flatten_eq_nil_iff.mp hsurplus.symm, hrun,
          (Except.ok.inj h).symm⟩
  · rintro ⟨before, run, after, files, hruns, hothers, hrun, rfl⟩
    have hbefore : ∀ other ∈ before, filesIn? other = none := by
      intro other hother
      rw [hothers other (List.mem_append_left _ hother)]
      rfl
    have hfiles : l.files? = some files := by
      rw [files?, hruns]
      exact List.findSome?_eq_some_iff.mpr ⟨before, run, after, rfl, hrun, hbefore⟩
    have hsurplus : l.surplus = [] := by
      rw [surplus, hruns, eraseP_holdsFiles hbefore hrun]
      exact List.flatten_eq_nil_iff.mpr hothers
    rw [Layout.invocation, hfiles, hsurplus]

end

end Layout

end AngularLint.CommandLine
